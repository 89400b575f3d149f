import Reckoner.Bindings

/-! # Data

Values as a configuration file or a caller hands them over, before anything is known about their
types. A table keeps the order in which its keys were first given.
-/
namespace Reckoner

inductive Datum
  | null
  | boolean (b : Bool)
  | integer (n : Int)
  | real (x : Float)
  | text (t : Text)
  | list (items : List Datum)
  | table (entries : List (Text × Datum))
  | moment

namespace Datum

/-- Whether the value counts as given: nothing, zero and whatever has no parts do not. -/
def isPresent : Datum → Bool
  | .null => false
  | .boolean b => b
  | .integer n => n != 0
  | .real x => x != 0
  | .text t => !t.isEmpty
  | .list items => !items.isEmpty
  | .table entries => !entries.isEmpty
  | .moment => true

end Datum

end Reckoner
