import Reckoner.Main
import Reckoner.Proofs.Token.Spelling
import Reckoner.Proofs.Grammar.Derivation
import Reckoner.Proofs.Grammar.Completeness
import Reckoner.Proofs.Grammar.Soundness
import Reckoner.Proofs.Grammar.Viability
import Reckoner.Proofs.Grammar.Unambiguity
import Reckoner.Proofs.Grammar.Lowering
import Reckoner.Proofs.Program.Standing
import Reckoner.Proofs.Program.Compile
import Reckoner.Proofs.Program.Diagnosis
import Reckoner.Proofs.Node.Shape
import Reckoner.Proofs.Run.Steady
import Reckoner.Proofs.Grammar.Part
import Reckoner.Proofs.Program.Locality
import Reckoner.Proofs.Run.Steps
import Reckoner.Proofs.Run.Course
import Reckoner.Proofs.Run.Invocations
import Reckoner.Proofs.Node.Depth
import Reckoner.Proofs.Program.Depth
import Reckoner.Proofs.Token.Margins
import Reckoner.Proofs.Grammar.Children
import Reckoner.Proofs.Program.Locations
import Reckoner.Proofs.Arithmetic.Stacks
import Reckoner.Proofs.Arithmetic.Evaluation
import Reckoner.Proofs.Program.Arithmetic
import Reckoner.Proofs.Number.Finite
import Reckoner.Proofs.Number.Literal
import Reckoner.Proofs.Node.Reread
import Reckoner.Proofs.Grammar.Printing
import Reckoner.Proofs.Program.Printing
import Reckoner.Proofs.Environment.Resolution
import Reckoner.Proofs.Run.Related
import Reckoner.Proofs.Run.Lookups
import Reckoner.Proofs.Run.Flow
import Reckoner.Proofs.Program.Standard
import Reckoner.Proofs.Token.Padding
import Reckoner.Proofs.Grammar.Similar
import Reckoner.Proofs.Program.Layout
import Reckoner.Proofs.Run.Ample
import Reckoner.Proofs.Node.Substitution
import Reckoner.Proofs.Run.Substitution
import Reckoner.Proofs.Token.Rewriting
import Reckoner.Proofs.Grammar.Substitution
import Reckoner.Proofs.Program.Substitution
import Reckoner.Proofs.Run.Grounded
import Reckoner.Proofs.Program.Encoding
import Reckoner.Proofs.Command.Printing
import Reckoner.Proofs.Token.Parentheses
import Reckoner.Proofs.Grammar.Replacement
import Reckoner.Proofs.Program.Parentheses
import Reckoner.Proofs.Grammar.Productions
import Reckoner.Proofs.Program.Nesting
import Reckoner.Proofs.Run.Limited
import Reckoner.Proofs.Environment.Chains
import Reckoner.Proofs.Run.Aliases
import Reckoner.Proofs.Run.Leaves
import Reckoner.Proofs.Text.Lines
import Reckoner.Proofs.Error.Position
import Reckoner.Proofs.Text.Pattern
import Reckoner.Proofs.Token.Pattern
import Reckoner.Proofs.Program.Literals
import Reckoner.Proofs.Text.Trim
import Reckoner.Proofs.Number.Words
import Reckoner.Proofs.Program.Bindings
import Reckoner.Proofs.Node.Levels
import Reckoner.Proofs.Program.Levels
import Reckoner.Proofs.Text.Offsets
import Reckoner.Proofs.Program.Bytes
import Reckoner.Proofs.Node.Dumps
import Reckoner.Proofs.Program.Dumps
import Reckoner.Proofs.Command.Evaluation
import Reckoner.Proofs.Toml.Steps
import Reckoner.Proofs.Settings.File
