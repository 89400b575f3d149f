import Reckoner.Text

/-! # Command lines

Arguments that start with a dash are options, by a long name after two dashes or by letters after
one; a value follows in the same argument or as the next one. After an argument of two dashes
nothing is an option. Where options may not follow operands, everything from the first operand on
is left for later.
-/
namespace Reckoner.Command

structure Switch where
  names : List String
  takesValue : Bool
  deriving DecidableEq

/-- The options given, each with its name as written and its value, and the operands. -/
structure Arguments where
  given : List (Switch × Text × Text)
  operands : List Text

def find? (switches : List Switch) (name : Text) : Option Switch :=
  switches.find? fun switch => switch.names.any (·.toList == name)

inductive Form
  | operand
  | separator
  | options (given : List (Switch × Text × Text)) (open? : Option (Switch × Text))
  | unknown

/-- The letters of an argument after its dash. The first option that takes a value takes the rest
of the argument or, if that is empty, waits for one. -/
def letters (switches : List Switch) : Text → Form
  | [] => .options [] none
  | c :: rest =>
    let name := ['-', c]
    match find? switches name with
    | none => .unknown
    | some switch =>
      if switch.takesValue then
        if rest.isEmpty then .options [] (some (switch, name))
        else .options [(switch, name, rest)] none
      else
        match letters switches rest with
        | .options given waiting => .options ((switch, name, []) :: given) waiting
        | other => other

def long (switches : List Switch) (argument : Text) : Form :=
  let name := argument.takeWhile (· != '=')
  match find? switches name, argument.dropWhile (· != '=') with
  | none, _ => .unknown
  | some switch, [] =>
    if switch.takesValue then .options [] (some (switch, name))
    else .options [(switch, name, [])] none
  | some switch, _ :: value =>
    if switch.takesValue then .options [(switch, name, value)] none else .unknown

def form (switches : List Switch) (argument : Text) : Form :=
  match argument with
  | ['-', '-'] => .separator
  | '-' :: '-' :: _ => long switches argument
  | '-' :: c :: rest => letters switches (c :: rest)
  | _ => .operand

def Arguments.add (given : List (Switch × Text × Text)) (arguments : Arguments) : Arguments :=
  { arguments with given := given ++ arguments.given }

/-- Reads arguments, or nothing if one of them is no known option or lacks its value. -/
def read (switches : List Switch) (mixed : Bool) : List Text → Option Arguments
  | [] => some ⟨[], []⟩
  | argument :: rest =>
    match form switches argument with
    | .unknown => none
    | .separator => some ⟨[], rest⟩
    | .operand =>
      if mixed then
        (read switches mixed rest).map fun a => { a with operands := argument :: a.operands }
      else some ⟨[], argument :: rest⟩
    | .options given none => (read switches mixed rest).map (Arguments.add given)
    | .options given (some (switch, name)) =>
      match rest with
      | [] => none
      | value :: more =>
        (read switches mixed more).map (Arguments.add (given ++ [(switch, name, value)]))

def Arguments.has (switch : Switch) (arguments : Arguments) : Bool :=
  arguments.given.any fun entry => entry.1 == switch

def Arguments.values (switch : Switch) (arguments : Arguments) : List Text :=
  (arguments.given.filter fun entry => entry.1 == switch).map fun entry => entry.2.2

def Arguments.spellings (switch : Switch) (arguments : Arguments) : List Text :=
  (arguments.given.filter fun entry => entry.1 == switch).map fun entry => entry.2.1

end Reckoner.Command
