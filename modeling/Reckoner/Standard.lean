import Reckoner.Entropy
import Reckoner.Run

/-! # The standard functions

Each function checks the number and the kind of its arguments itself. Outside its domain a
function has no value, and a call of it there gives the undefined number. The standard environment
binds the functions and two constants.
-/
namespace Reckoner

/-- The message about an integer that is too long to be written. -/
def Numeral.tooLong : Text :=
  "Exceeds the limit (".toList ++ Text.ofNat longest ++
    " digits) for integer string conversion; ".toList ++
    "use sys.set_int_max_str_digits() to increase the limit".toList

def Reply.numberExpected {η : Type} (v : Value η) : Reply η :=
  match v.written? with
  | some shown => .error (.numberExpected shown)
  | none => .failure Numeral.tooLong

/-- The numbers that all arguments have to be, as many as `arity` says if it says so, or the answer
to arguments that are not. -/
def numericArguments {η : Type} (arity : Option Int) (arguments : List (Value η)) :
    Except (Reply η) (List Float) :=
  let numbers := arguments.mapM fun
    | .number x => .ok x
    | other => .error (.numberExpected other)
  match arity with
  | some n =>
    if n = arguments.length then numbers else .error (.error (.argumentCount n arguments.length))
  | none => numbers

namespace Builtin

def all : List Builtin := [.sin, .cos, .tan, .sqrt, .abs, .random]

def name : Builtin → String
  | .sin => "sin"
  | .cos => "cos"
  | .tan => "tan"
  | .sqrt => "sqrt"
  | .abs => "abs"
  | .random => "random"

/-- A result that is undefined though the argument is not, or infinite though that is finite, stands
for no value. -/
def inDomain? (x result : Float) : Option Float :=
  if result.isNaN && !x.isNaN || result.isInf && x.isFinite then none else some result

def result? : Builtin → Float → Option Float
  | .sin, x => inDomain? x x.sin
  | .cos, x => inDomain? x x.cos
  | .tan, x => inDomain? x x.tan
  | .sqrt, x => inDomain? x x.sqrt
  | .abs, x => some x.abs
  | .random, _ => none

def call {η : Type} (b : Builtin) (arguments : List (Value η)) (entropy : Entropy) :
    Reply η × Entropy :=
  match b with
  | .random =>
    if arguments.isEmpty then
      let drawn := entropy.draw
      (.value (.number drawn.1), drawn.2)
    else (.error (.noArgumentsExpected "random".toList arguments.length), entropy)
  | b =>
    match numericArguments (some 1) arguments with
    | .ok (x :: _) =>
      match b.result? x with
      | some y => (.value (.number y), entropy)
      | none => (.value (.number Binary64.notANumber), entropy)
    | .ok [] => (.error (.argumentCount 1 0), entropy)
    | .error reply => (reply, entropy)

def value {η : Type} (b : Builtin) : Value η := .function ⟨b.name.toList, .builtin b⟩

/-- The behaviour of the standard functions where there are no others. -/
def calls : Calls Entropy Empty := fun f arguments entropy =>
  match f.body with
  | .builtin b => b.call arguments entropy
  | .foreign nothing => nothing.elim

end Builtin

def pi : Float := Binary64.ofBits false 0x400921fb54442d18

def e : Float := Binary64.ofBits false 0x4005bf0a8b145769

def Environment.standard {η : Type} : Environment η :=
  Builtin.all.map (fun b => (b.name.toList, b.value)) ++
    [("pi".toList, .number pi), ("e".toList, .number e)]

end Reckoner
