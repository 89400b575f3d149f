import Reckoner.Text.Blank

/-! # Tokens

A source is read as tokens with layout between them. At each place the longest token is taken: a
number with as much of its fraction and exponent as is there, a name, or one of the seven marks.
Reading stops at the first character that starts no token.
-/
namespace Reckoner

inductive Token.Kind
  | number
  | name
  | plus
  | minus
  | star
  | slash
  | openParen
  | closeParen
  | comma
  deriving DecidableEq

structure Token where
  kind : Token.Kind
  text : Text
  start : Nat
  deriving DecidableEq

namespace Token

def Kind.label : Kind → String
  | .number => "NUMBER"
  | .name => "NAME"
  | .plus => "PLUS"
  | .minus => "MINUS"
  | .star => "STAR"
  | .slash => "SLASH"
  | .openParen => "LPAR"
  | .closeParen => "RPAR"
  | .comma => "COMMA"

def stop (token : Token) : Nat := token.start + token.text.length

def digitsLength (text : Text) : Nat := (text.takeWhile Text.isDigit).length

def exponentLength : Text → Nat
  | [] => 0
  | e :: rest =>
    if e = 'e' ∨ e = 'E' then
      match rest with
      | [] => 0
      | s :: more =>
        if s = '+' ∨ s = '-' then
          let n := digitsLength more
          if n = 0 then 0 else n + 2
        else
          let n := digitsLength rest
          if n = 0 then 0 else n + 1
    else 0

/-- The length of a number's digits and point at the start, zero if there is no number. -/
def mantissaLength (text : Text) : Nat :=
  let whole := digitsLength text
  match text.drop whole with
  | '.' :: rest =>
    let part := digitsLength rest
    if whole = 0 ∧ part = 0 then 0 else whole + 1 + part
  | _ => whole

def numberLength (text : Text) : Nat :=
  let n := mantissaLength text
  if n = 0 then 0 else n + exponentLength (text.drop n)

def nameLength : Text → Nat
  | [] => 0
  | c :: rest => if Text.isNameStart c then (rest.takeWhile Text.isNamePart).length + 1 else 0

def mark? : Char → Option Kind
  | '+' => some .plus
  | '-' => some .minus
  | '*' => some .star
  | '/' => some .slash
  | '(' => some .openParen
  | ')' => some .closeParen
  | ',' => some .comma
  | _ => none

/-- The kind and the length of the longest token at the start. -/
def longest? (text : Text) : Option (Kind × Nat) :=
  let number := numberLength text
  let name := nameLength text
  if 0 < number then some (.number, number)
  else if 0 < name then some (.name, name)
  else
    match text with
    | [] => none
    | c :: _ => (mark? c).map (·, 1)

/-- The tokens of a source, and where it could not be read any further. -/
structure Scan where
  tokens : List Token
  fault : Option Nat
  deriving DecidableEq

def Scan.push (token : Token) (scan : Scan) : Scan := ⟨token :: scan.tokens, scan.fault⟩

/-- Reads from `offset` on, after passing over the characters of a token already taken. -/
def scanFrom (offset : Nat) : Nat → Text → Scan
  | _, [] => ⟨[], none⟩
  | passing + 1, _ :: rest => scanFrom (offset + 1) passing rest
  | 0, c :: rest =>
    if Blank.isLayout c then scanFrom (offset + 1) 0 rest
    else
      match longest? (c :: rest) with
      | none => ⟨[], some offset⟩
      | some (kind, length) =>
        (scanFrom (offset + 1) (length - 1) rest).push ⟨kind, (c :: rest).take length, offset⟩

def scan (source : Text) : Scan := scanFrom 0 0 source

end Token

end Reckoner
