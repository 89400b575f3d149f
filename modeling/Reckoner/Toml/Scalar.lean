import Reckoner.Bindings
import Reckoner.Datum
import Reckoner.Number.Decimal

/-! # Keys and simple values of a TOML document

Each reader takes the text from where it stands and gives what it read with the text left over, or
nothing if the text is not well formed there.
-/
namespace Reckoner.Toml

abbrev Reader (α : Type) := Text → Option (α × Text)

def isBlank (c : Char) : Bool := c == ' ' || c == '\t'

def isBlankOrLineEnd (c : Char) : Bool := isBlank c || c == '\n'

def skipBlanks (text : Text) : Text := text.dropWhile isBlank

/-- A control character, which may stand nowhere but as a tab or a line end. -/
def isControl (c : Char) : Bool := c.toNat < 0x20 || c.toNat == 0x7f

def isIllegal (multiline : Bool) (c : Char) : Bool :=
  isControl c && c != '\t' && !(multiline && c == '\n')

def skipComment? : Text → Option Text
  | '#' :: rest =>
    if (rest.takeWhile (· != '\n')).any (isIllegal false) then none
    else some (rest.dropWhile (· != '\n'))
  | text => some text

/-! ## Strings -/

def hexChar (count : Nat) : Reader Text := fun text =>
  let digits := text.take count
  let values := digits.filterMap Text.hexDigit?
  let n := Text.digitsValue 16 values
  if digits.length = count ∧ values.length = count ∧ n.isValidChar then
    some ([Char.ofNat n], text.drop count)
  else none

/-- What follows a backslash. In strings of many lines a backslash at the end of a line removes
the line end and all blanks and line ends after it. -/
def escape (multiline : Bool) : Reader Text
  | 'b' :: rest => some (['\x08'], rest)
  | 't' :: rest => some (['\t'], rest)
  | 'n' :: rest => some (['\n'], rest)
  | 'f' :: rest => some (['\x0c'], rest)
  | 'r' :: rest => some (['\r'], rest)
  | '"' :: rest => some (['"'], rest)
  | '\\' :: rest => some (['\\'], rest)
  | 'u' :: rest => hexChar 4 rest
  | 'U' :: rest => hexChar 8 rest
  | c :: rest =>
    if multiline && isBlankOrLineEnd c then
      match skipBlanks (c :: rest) with
      | '\n' :: more => some ([], more.dropWhile isBlankOrLineEnd)
      | [] => some ([], [])
      | _ => none
    else none
  | [] => none

/-- A basic string from after its opening quotes to after its closing ones, in at most `steps`
characters and escapes. -/
def basicBody (multiline : Bool) : Nat → Reader Text
  | 0, _ => none
  | _, [] => none
  | steps + 1, c :: rest =>
    let onward (before : Text) (text : Text) : Option (Text × Text) :=
      (basicBody multiline steps text).map fun r => (before ++ r.1, r.2)
    if c = '"' then
      if !multiline then some ([], rest)
      else if "\"\"".toList.isPrefixOf rest then some ([], rest.drop 2)
      else onward [c] rest
    else if c = '\\' then (escape multiline rest).bind fun r => onward r.1 r.2
    else if isIllegal multiline c then none
    else onward [c] rest

def basic (multiline : Bool) : Reader Text := fun text => basicBody multiline (text.length + 1) text

def literal : Reader Text := fun text =>
  let body := text.takeWhile (· != '\'')
  match text.dropWhile (· != '\'') with
  | _ :: rest => if body.any (isIllegal false) then none else some (body, rest)
  | [] => none

def literalLines : Reader Text
  | [] => none
  | c :: rest =>
    if "'''".toList.isPrefixOf (c :: rest) then some ([], (c :: rest).drop 3)
    else if isIllegal true c then none
    else (literalLines rest).map fun r => (c :: r.1, r.2)

/-- Up to two more quotes after the closing three belong to the string. -/
def extraQuotes (quote : Char) (read : Text × Text) : Text × Text :=
  match read.2 with
  | c :: d :: rest =>
    if c = quote ∧ d = quote then (read.1 ++ [quote, quote], rest)
    else if c = quote then (read.1 ++ [quote], d :: rest)
    else read
  | [c] => if c = quote then (read.1 ++ [quote], []) else read
  | [] => read

/-- A line end right after the opening quotes is no part of the string. -/
def dropFirstLineEnd : Text → Text
  | '\n' :: rest => rest
  | text => text

def string : Reader Text := fun text =>
  match Text.dropStart? "\"\"\"".toList text with
  | some rest => (basic true (dropFirstLineEnd rest)).map (extraQuotes '"')
  | none =>
    match Text.dropStart? "'''".toList text with
    | some rest => (literalLines (dropFirstLineEnd rest)).map (extraQuotes '\'')
    | none =>
      match text with
      | '"' :: rest => basic false rest
      | '\'' :: rest => literal rest
      | _ => none

/-! ## Keys -/

def isBare (c : Char) : Bool := Text.isNamePart c || c == '-'

def keyPart : Reader Text
  | '"' :: rest => basic false rest
  | '\'' :: rest => literal rest
  | text =>
    let part := text.takeWhile isBare
    if part.isEmpty then none else some (part, text.dropWhile isBare)

/-- The parts of a key between dots, at most `count` of them, with blanks around each. -/
def keyParts : Nat → Reader (List Text)
  | 0, _ => none
  | count + 1, text =>
    match keyPart text with
    | none => none
    | some (part, rest) =>
      match skipBlanks rest with
      | '.' :: more => (keyParts count (skipBlanks more)).map fun r => (part :: r.1, r.2)
      | rest => some ([part], rest)

def key : Reader (List Text) := fun text => keyParts (text.length + 1) text

/-! ## Numbers and moments -/

/-- Digits with single underscores between them. -/
def groupedFrom (isDigit : Char → Bool) : Text → Text × Text
  | '_' :: c :: rest =>
    if isDigit c then
      let r := groupedFrom isDigit rest
      (c :: r.1, r.2)
    else ([], '_' :: c :: rest)
  | c :: rest =>
    if isDigit c then
      let r := groupedFrom isDigit rest
      (c :: r.1, r.2)
    else ([], c :: rest)
  | [] => ([], [])

def grouped (isDigit : Char → Bool) : Reader Text
  | c :: rest =>
    if isDigit c then
      let r := groupedFrom isDigit rest
      some (c :: r.1, r.2)
    else none
  | [] => none

/-- An integer in another base, after its zero. -/
def based : Reader Int := fun text =>
  let read (base : Nat) (rest : Text) : Option (Int × Text) :=
    let isDigit (c : Char) := ((Text.hexDigit? c).map (decide <| · < base)).getD false
    (grouped isDigit rest).map fun r =>
      (Text.digitsValue base (r.1.filterMap Text.hexDigit?), r.2)
  match text with
  | 'x' :: rest => read 16 rest
  | 'o' :: rest => read 8 rest
  | 'b' :: rest => read 2 rest
  | _ => none

/-- The whole part of a decimal number: zero, or digits that start with another one. -/
def wholePart : Reader Text
  | '0' :: rest => some (['0'], rest)
  | text => grouped Text.isDigit text

def fractionPart (text : Text) : Text × Text :=
  match text with
  | '.' :: rest =>
    match grouped Text.isDigit rest with
    | some (digits, more) => ('.' :: digits, more)
    | none => ([], text)
  | _ => ([], text)

def exponentPart (text : Text) : Text × Text :=
  match text with
  | c :: rest =>
    if c = 'e' ∨ c = 'E' then
      let sign := rest.take (if rest.head? = some '+' ∨ rest.head? = some '-' then 1 else 0)
      match grouped Text.isDigit (rest.drop sign.length) with
      | some (digits, more) => ('e' :: sign ++ digits, more)
      | none => ([], text)
    else ([], text)
  | [] => ([], text)

/-- A decimal number: a double if it has a fraction or an exponent, else an integer. -/
def decimal : Reader Datum := fun text =>
  let signed := Decimal.takeSign text
  (wholePart signed.2).bind fun (whole, rest) =>
    let fraction := fractionPart rest
    let exponent := exponentPart fraction.2
    if fraction.1.isEmpty && exponent.1.isEmpty then
      let n := Decimal.natOf whole
      some (.integer (if signed.1 then -(n : Int) else n), exponent.2)
    else
      (Decimal.readUnsigned? signed.1 (whole ++ fraction.1 ++ exponent.1)).map fun n =>
        (.real n.toFloat, exponent.2)

def named : Reader Datum := fun text =>
  let signed := Decimal.takeSign text
  match Text.dropStart? "inf".toList signed.2, Text.dropStart? "nan".toList signed.2 with
  | some rest, _ => some (.real (Binary64.ofBits signed.1 Binary64.infinityBits), rest)
  | none, some rest => some (.real Binary64.notANumber, rest)
  | none, none => none

def number : Reader Datum := fun text =>
  let other := (decimal text).or (named text)
  match text with
  | '0' :: rest => ((based rest).map fun r => (.integer r.1, r.2)).or other
  | _ => other

def fixed (count : Nat) : Reader Nat := fun text =>
  let digits := text.take count
  if digits.length = count ∧ digits.all Text.isDigit then
    some (Decimal.natOf digits, text.drop count)
  else none

def mark (c : Char) (text : Text) : Option Text :=
  match text with
  | d :: rest => if c = d then some rest else none
  | [] => none

/-- Two digits with a value within bounds. -/
def field (low high : Nat) : Reader Nat := fun text =>
  (fixed 2 text).bind fun r => if low ≤ r.1 ∧ r.1 ≤ high then some r else none

def skipFraction (text : Text) : Text :=
  match text with
  | '.' :: c :: rest => if Text.isDigit c then rest.dropWhile Text.isDigit else text
  | _ => text

def time (text : Text) : Option Text := do
  let hour ← field 0 23 text
  let minute ← field 0 59 (← mark ':' hour.2)
  let second ← field 0 59 (← mark ':' minute.2)
  pure (skipFraction second.2)

def skipOffset (text : Text) : Text :=
  match text with
  | 'Z' :: rest | 'z' :: rest => rest
  | c :: rest =>
    if c = '+' ∨ c = '-' then
      let read := do
        let hour ← field 0 23 rest
        let minute ← field 0 59 (← mark ':' hour.2)
        pure minute.2
      read.getD text
    else text
  | [] => text

def isLeap (year : Nat) : Bool := year % 4 == 0 && (year % 100 != 0 || year % 400 == 0)

def daysIn (year month : Nat) : Nat :=
  if month = 2 then (if isLeap year then 29 else 28)
  else if month = 4 ∨ month = 6 ∨ month = 9 ∨ month = 11 then 30
  else 31

/-- Year, month and day in the form of a date. -/
def dateFields : Reader (Nat × Nat × Nat) := fun text => do
  let year ← fixed 4 text
  let month ← field 1 12 (← mark '-' year.2)
  let day ← field 1 31 (← mark '-' month.2)
  pure ((year.1, month.1, day.1), day.2)

/-- What follows a date: a time of day with an offset, if there is one. -/
def afterDate (text : Text) : Text :=
  match text with
  | c :: rest =>
    if c = 'T' ∨ c = 't' ∨ c = ' ' then
      match time rest with
      | some more => skipOffset more
      | none => text
    else text
  | [] => text

def numberOrMoment : Reader Datum := fun text =>
  match dateFields text with
  | some ((year, month, day), rest) =>
    if 1 ≤ year ∧ day ≤ daysIn year month then some (.moment, afterDate rest) else none
  | none =>
    match time text with
    | some rest => some (.moment, rest)
    | none => number text

def truth : Reader Datum := fun text =>
  match Text.dropStart? "true".toList text, Text.dropStart? "false".toList text with
  | some rest, _ => some (.boolean true, rest)
  | none, some rest => some (.boolean false, rest)
  | none, none => none

/-- A value that has no parts. -/
def scalar : Reader Datum := fun text =>
  match text with
  | '"' :: _ | '\'' :: _ => (string text).map fun r => (.text r.1, r.2)
  | _ => (truth text).or (numberOrMoment text)

end Reckoner.Toml
