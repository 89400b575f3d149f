/-! # Text

Text is a list of characters, so a length and an offset count characters and every function on
text is a function on lists. This module has the few operations the rest needs: numerals in base
ten, digits in base sixteen, and splitting at line ends.
-/
namespace Reckoner

abbrev Text := List Char

namespace Text

def ofNat (n : Nat) : Text := Nat.toDigits 10 n

def ofInt : Int → Text
  | .ofNat n => ofNat n
  | .negSucc n => '-' :: ofNat (n + 1)

def hex (width n : Nat) : Text :=
  let digits := Nat.toDigits 16 n
  List.replicate (width - digits.length) '0' ++ digits

def digitsValue (base : Nat) (digits : List Nat) : Nat :=
  digits.foldl (fun value d => value * base + d) 0

def digit? (c : Char) : Option Nat :=
  if '0' ≤ c ∧ c ≤ '9' then some (c.toNat - '0'.toNat) else none

def hexDigit? (c : Char) : Option Nat :=
  if '0' ≤ c ∧ c ≤ '9' then some (c.toNat - '0'.toNat)
  else if 'a' ≤ c ∧ c ≤ 'f' then some (c.toNat - 'a'.toNat + 10)
  else if 'A' ≤ c ∧ c ≤ 'F' then some (c.toNat - 'A'.toNat + 10)
  else none

def isDigit (c : Char) : Bool := (digit? c).isSome

def isNameStart (c : Char) : Bool :=
  ('a' ≤ c && c ≤ 'z') || ('A' ≤ c && c ≤ 'Z') || c == '_'

def isNamePart (c : Char) : Bool := isNameStart c || isDigit c

/-- A nonempty run of letters, digits and underscores that does not start with a digit. -/
def isName : Text → Bool
  | [] => false
  | c :: rest => isNameStart c && rest.all isNamePart

/-- Text with the capitals of the Latin alphabet in lower case, and no others. -/
def lower (text : Text) : Text := text.map Char.toLower

/-- The order of texts by their first differing characters, a start of a text coming first. -/
def precedes : Text → Text → Bool
  | [], _ => true
  | _ :: _, [] => false
  | a :: as, b :: bs => a < b || (a == b && precedes as bs)

def splitAt {α : Type} (isSeparator : α → Bool) : List α → List (List α)
  | [] => [[]]
  | c :: rest =>
    match isSeparator c, splitAt isSeparator rest with
    | true, pieces => [] :: pieces
    | false, [] => [[c]]
    | false, piece :: pieces => (c :: piece) :: pieces

def lines (text : Text) : List Text := splitAt (· == '\n') text

def trim (isBlank : Char → Bool) (text : Text) : Text :=
  ((text.dropWhile isBlank).reverse.dropWhile isBlank).reverse

def joined (separator : Text) (texts : List Text) : Text := separator.intercalate texts

def dropStart? (start text : Text) : Option Text :=
  if start.isPrefixOf text then some (text.drop start.length) else none

/-- Replaces each occurrence of a two-character sequence by one character, from the left. -/
def contract (first second replacement : Char) : Text → Text
  | [] => []
  | [c] => [c]
  | c :: d :: rest =>
    if c == first && d == second then replacement :: contract first second replacement rest
    else c :: contract first second replacement (d :: rest)

end Text

end Reckoner
