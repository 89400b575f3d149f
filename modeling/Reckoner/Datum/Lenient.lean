import Reckoner.Complaint
import Reckoner.Datum
import Reckoner.Number.Decimal

/-! # Lenient reading of data

Turns a value of unknown type into an integer, a truth value or a number, taking what can
reasonably be meant: whole doubles and truth values as integers, integers as doubles, and the
written forms of all three. Only ASCII digits count here.
-/
namespace Reckoner.Datum
open Complaint (Cause)

/-- Drops zeros in front, and underscores among them, keeping the last zero of an all-zero
numeral or of one before a point. `last` is the character just passed. -/
def dropZerosFrom (last : Char) : Text → Option Text
  | [] => some [last]
  | c :: rest =>
    if c = '0' ∨ c = '_' then dropZerosFrom c rest
    else if '1' ≤ c ∧ c ≤ '9' then some (c :: rest)
    else if c = '.' then some (last :: c :: rest)
    else none

def dropZeros? : Text → Option Text
  | [] => none
  | c :: rest =>
    if c = '0' then dropZerosFrom c rest
    else if ('1' ≤ c ∧ c ≤ '9') ∨ c = '-' then some (c :: rest)
    else none

/-- Drops a point that only zeros follow. -/
def dropFraction (text : Text) : Text :=
  match text.dropWhile (· != '.') with
  | _ :: zeros => if zeros.all (· == '0') then text.takeWhile (· != '.') else text
  | [] => text

def hasDoubled (c : Char) : Text → Bool
  | a :: b :: rest => (a == c && b == c) || hasDoubled c (b :: rest)
  | _ => false

/-- Drops underscores unless two stand together or one stands at an end. -/
def dropUnderscores (text : Text) : Text :=
  if text.head? = some '_' ∨ text.getLast? = some '_' ∨ hasDoubled '_' text then text
  else text.filter (· != '_')

def dropPlus? : Text → Option Text
  | '+' :: '-' :: _ => none
  | '+' :: rest => some rest
  | numeral => some numeral

def integerOfText (text : Text) : Except Cause Int :=
  match (dropPlus? (Text.trim Blank.isWhite text)).bind dropZeros? with
  | none => .error .integerText
  | some kept =>
    let numeral := dropUnderscores (dropFraction kept)
    let signed := Decimal.takeSign numeral
    if Numeral.longest < numeral.length then .error .integerSize
    else if signed.2.isEmpty || !signed.2.all Text.isDigit then .error .integerText
    else
      let n := Decimal.natOf signed.2
      .ok (if signed.1 then -(n : Int) else n)

/-- Doubles become integers when they are whole and fit sixty-four bits. -/
def integerOfReal (x : Float) : Except Cause Int :=
  if Binary64.biasedExponent x = 2047 then .error .integerFinite
  else
    match Binary64.toInt? x with
    | none => .error .integerFraction
    | some n => if n.natAbs < twoTo 63 then .ok n else .error .integerSize

def toInteger : Datum → Except Cause Int
  | .integer n => .ok n
  | .boolean b => .ok (if b then 1 else 0)
  | .text t => integerOfText t
  | .real x => integerOfReal x
  | _ => .error .integerExpected

/-- An integer within bounds; there may be no upper one. -/
def toIntegerWithin (low : Int) (high : Option Int) (datum : Datum) : Except Cause Int :=
  match datum.toInteger with
  | .error cause => .error cause
  | .ok n =>
    if n < low then .error (.atLeast low)
    else
      match high with
      | some bound => if bound < n then .error (.atMost bound) else .ok n
      | none => .ok n

def truthNames : List (String × Bool) :=
  [("0", false), ("off", false), ("f", false), ("false", false), ("n", false), ("no", false),
    ("1", true), ("on", true), ("t", true), ("true", true), ("y", true), ("yes", true)]

def booleanOfText (text : Text) : Except Cause Bool :=
  match truthNames.find? fun entry => entry.1.toList == Text.lower text with
  | some entry => .ok entry.2
  | none => .error .booleanText

def booleanOfInteger (n : Int) : Except Cause Bool :=
  if n = 0 then .ok false else if n = 1 then .ok true else .error .booleanText

def toBoolean : Datum → Except Cause Bool
  | .boolean b => .ok b
  | .text t => booleanOfText t
  | .integer n =>
    if -(twoTo 63 : Int) ≤ n ∧ n < twoTo 63 then booleanOfInteger n else .error .booleanExpected
  | .real x =>
    match integerOfReal x with
    | .ok n => booleanOfInteger n
    | .error _ => .error .booleanExpected
  | _ => .error .booleanExpected

def numberOfText (text : Text) : Except Cause Float :=
  match Decimal.read? (Text.trim Blank.isWhite text) with
  | some x => .ok x
  | none =>
    if !text.contains '_' then .error .numberText
    else
      match Decimal.read? (dropUnderscores text) with
      | some x => .ok x
      | none => .error .numberText

def toNumber : Datum → Except Cause Float
  | .real x => .ok x
  | .boolean b => .ok (if b then 1 else 0)
  | .integer n =>
    let x := Binary64.ofInt n
    if Binary64.biasedExponent x = 2047 then .error .numberExpected else .ok x
  | .text t => numberOfText t
  | _ => .error .numberExpected

end Reckoner.Datum
