import Reckoner.Text.Numeral

/-! # Literals

A literal is a constant or a collection of literals: numbers with a sign or an imaginary part,
strings of characters and of bytes, `True`, `False`, `None`, `...`, tuples, sets and dictionaries.
Reading one needs its shape alone: which constants are numbers, and which values may be elements
of a set or keys of a dictionary.
-/
namespace Reckoner.Literal

inductive Lexeme
  | number (imaginary : Bool)
  | characters
  | bytes
  | word (name : Text)
  | mark (c : Char)
  | dots
  deriving DecidableEq

/-! ## Numbers -/

def digitsAfter? (isDigit : Char → Bool) : Text → Option (Text × Text)
  | [] => some ([], [])
  | [c] => if c = '_' then none else some (if isDigit c then ([c], []) else ([], [c]))
  | c :: d :: rest =>
    if c = '_' then
      if isDigit d then (digitsAfter? isDigit rest).map fun r => (d :: r.1, r.2) else none
    else if isDigit c then (digitsAfter? isDigit (d :: rest)).map fun r => (c :: r.1, r.2)
    else some ([], c :: d :: rest)

def digits? (isDigit : Char → Bool) : Text → Option (Text × Text)
  | [] => none
  | c :: rest =>
    if isDigit c then (digitsAfter? isDigit rest).map fun r => (c :: r.1, r.2) else none

def afterExponent? (text : Text) : Option Text :=
  match text with
  | c :: rest =>
    if c = 'e' ∨ c = 'E' then
      let unsigned := match rest with
        | '+' :: more => more
        | '-' :: more => more
        | _ => rest
      (digits? Text.isDigit unsigned).map (·.2)
    else some text
  | [] => some text

def afterFraction? (text : Text) : Option Text :=
  match text with
  | c :: _ => if Text.isDigit c then (digits? Text.isDigit text).map (·.2) else some text
  | [] => some text

/-- Whether what follows a number cannot be taken for a part of it or for a name. -/
def endsNumber (text : Text) : Bool :=
  match text with
  | c :: _ => !Text.isNamePart c && c.toNat < 0x80
  | [] => true

def endNumber? (imaginary : Bool) (rest : Text) : Option (Lexeme × Text) :=
  if endsNumber rest then some (.number imaginary, rest) else none

def endReal? (text : Text) : Option (Lexeme × Text) :=
  match text with
  | 'j' :: rest => endNumber? true rest
  | 'J' :: rest => endNumber? true rest
  | _ => endNumber? false text

/-- An integer has no leading zeros unless it is zero, and is not too long. -/
def isInteger (digits : Text) : Bool :=
  (digits.head? != some '0' || digits.all (· == '0')) && digits.length ≤ Numeral.longest

def readDecimal? (text : Text) : Option (Lexeme × Text) :=
  match text with
  | '.' :: rest => (afterFraction? rest).bind fun rest => (afterExponent? rest).bind endReal?
  | _ =>
    (digits? Text.isDigit text).bind fun (digits, rest) =>
      match rest with
      | '.' :: rest => (afterFraction? rest).bind fun rest => (afterExponent? rest).bind endReal?
      | 'e' :: _ => (afterExponent? rest).bind endReal?
      | 'E' :: _ => (afterExponent? rest).bind endReal?
      | 'j' :: rest => endNumber? true rest
      | 'J' :: rest => endNumber? true rest
      | _ => if isInteger digits then endNumber? false rest else none

def readBased? (isDigit : Char → Bool) (text : Text) : Option (Lexeme × Text) :=
  let digits := match text with
    | '_' :: rest => rest
    | _ => text
  (digits? isDigit digits).bind fun r => endNumber? false r.2

def readNumber? (text : Text) : Option (Lexeme × Text) :=
  match text with
  | '0' :: c :: rest =>
    if c = 'x' ∨ c = 'X' then readBased? (fun d => (Text.hexDigit? d).isSome) rest
    else if c = 'o' ∨ c = 'O' then readBased? (fun d => '0' ≤ d && d ≤ '7') rest
    else if c = 'b' ∨ c = 'B' then readBased? (fun d => d == '0' || d == '1') rest
    else readDecimal? text
  | _ => readDecimal? text

/-! ## Strings -/

/-- The content up to the closing quote on the same line, and the rest. A backslash keeps the
character after it from ending the string. -/
def content? (quote : Char) : Text → Option (Text × Text)
  | [] => none
  | [c] => if c = quote then some ([], []) else none
  | c :: d :: rest =>
    if c = quote then some ([], d :: rest)
    else if c = '\\' then (content? quote rest).map fun r => (c :: d :: r.1, r.2)
    else if c = '\n' then none
    else (content? quote (d :: rest)).map fun r => (c :: r.1, r.2)

def longContent? (quote : Char) : Text → Option (Text × Text)
  | [] => none
  | [_] => none
  | c :: d :: rest =>
    if c = '\\' then (longContent? quote rest).map fun r => (c :: d :: r.1, r.2)
    else if c = quote ∧ d = quote ∧ rest.head? = some quote then some ([], rest.drop 1)
    else (longContent? quote (d :: rest)).map fun r => (c :: r.1, r.2)

def startsHex (count : Nat) (text : Text) : Bool :=
  let digits := text.take count
  digits.length == count && digits.all fun c => (Text.hexDigit? c).isSome

/-- A character is named between braces. -/
def startsName (text : Text) : Bool :=
  match text with
  | '\x7b' :: rest => rest.contains '\x7d' && rest.head? != some '\x7d'
  | _ => false

/-- Whether every backslash that announces a number or a name is followed by one. -/
def isEscaped (ofBytes : Bool) : Text → Bool
  | [] => true
  | [_] => true
  | c :: d :: rest =>
    if c = '\\' then
      let announced :=
        if d = 'x' then startsHex 2 rest
        else if ofBytes then true
        else if d = 'u' then startsHex 4 rest
        else if d = 'U' then
          startsHex 8 rest &&
            Text.digitsValue 16 ((rest.take 8).filterMap Text.hexDigit?) ≤ 0x10ffff
        else if d = 'N' then startsName rest
        else true
      announced && isEscaped ofBytes rest
    else isEscaped ofBytes (d :: rest)

def readString? (raw ofBytes : Bool) (quote : Char) (text : Text) : Option (Lexeme × Text) :=
  let read := match text with
    | a :: b :: c :: rest =>
      if a = quote ∧ b = quote ∧ c = quote then longContent? quote rest
      else content? quote (b :: c :: rest)
    | _ :: rest => content? quote rest
    | [] => none
  read.bind fun (content, rest) =>
    if ofBytes && content.any (fun c => 0x80 ≤ c.toNat) then none
    else if !raw && !isEscaped ofBytes content then none
    else some (if ofBytes then .bytes else .characters, rest)

def isQuote (c : Char) : Bool := c == '\'' || c == '"'

def readWord? (text : Text) : Option (Lexeme × Text) :=
  let name := text.takeWhile Text.isNamePart
  let rest := text.dropWhile Text.isNamePart
  match rest with
  | c :: _ =>
    if isQuote c then
      let kind := Text.lower name
      if kind = "".toList ∨ kind = "u".toList then readString? false false c rest
      else if kind = "r".toList then readString? true false c rest
      else if kind = "b".toList then readString? false true c rest
      else if kind = "br".toList ∨ kind = "rb".toList then readString? true true c rest
      else none
    else if name.isEmpty then none
    else some (.word name, rest)
  | [] => if name.isEmpty then none else some (.word name, rest)

/-! ## Lexemes -/

/-- The lexeme at the start of text that is no bracket, blank or comment, and the rest. -/
def readLexeme? (text : Text) : Option (Lexeme × Text) :=
  match text with
  | [] => none
  | '.' :: '.' :: '.' :: rest => some (.dots, rest)
  | c :: rest =>
    if c = ',' ∨ c = ':' ∨ c = '+' ∨ c = '-' then some (.mark c, rest)
    else if Text.isDigit c then readNumber? text
    else if c = '.' then
      match rest with
      | d :: _ => if Text.isDigit d then readNumber? text else none
      | [] => none
    else readWord? text

def isGap (c : Char) : Bool := c == ' ' || c == '\t' || c == '\x0c'

def isBlankLine (line : Text) : Bool :=
  match line.dropWhile isGap with
  | [] => true
  | c :: _ => c == '#'

/-- A line that may stand before the first lexeme: a blank one, or a backslash that joins the next
line to nothing. -/
def isSkipped (line : Text) : Bool :=
  isBlankLine line || line.dropWhile (· == '\x0c') == ['\\']

def deepest : Nat := 200

/-- The lexemes of text within `depth` brackets, in at most `steps` steps. Outside brackets a line
end ends the literal. -/
def lexemesFrom? : Nat → Nat → Text → Option (List Lexeme)
  | _, _, [] => some []
  | 0, _, _ :: _ => none
  | steps + 1, depth, c :: rest =>
    if isGap c then lexemesFrom? steps depth rest
    else if c = '#' then lexemesFrom? steps depth (rest.dropWhile (· != '\n'))
    else if c = '\\' then
      match rest with
      | '\n' :: more => if more.isEmpty then none else lexemesFrom? steps depth more
      | _ => none
    else if c = '\n' then
      if 0 < depth then lexemesFrom? steps depth rest
      else if (Text.lines rest).all isBlankLine then some []
      else none
    else if c = '(' ∨ c = '\x7b' then
      if depth < deepest then (lexemesFrom? steps (depth + 1) rest).map (.mark c :: ·) else none
    else if c = ')' ∨ c = '\x7d' then
      (lexemesFrom? steps (depth - 1) rest).map (.mark c :: ·)
    else
      (readLexeme? (c :: rest)).bind fun (lexeme, rest) =>
        (lexemesFrom? steps depth rest).map (lexeme :: ·)

/-- The lexemes of a literal, which starts in the first column of its first line. -/
def lexemes? (text : Text) : Option (List Lexeme) :=
  let unified := (Text.contract '\r' '\n' '\n' text).map fun c => if c = '\r' then '\n' else c
  let text := Text.joined ['\n'] ((Text.lines unified).dropWhile isSkipped)
  if text.contains '\x00' || text.head? == some ' ' || text.head? == some '\t' then none
  else lexemesFrom? text.length 0 text

/-! ## Shapes -/

/-- What an expression is: a number, a number with a sign, another value, or the name that makes
an empty set when it is called. -/
inductive Shape
  | number (imaginary : Bool)
  | signed (imaginary : Bool)
  | value (hashable : Bool)
  | setName
  deriving DecidableEq

/-- Whether an expression that has a value may be a key. -/
def Shape.hashable? : Shape → Option Bool
  | .number _ => some true
  | .signed _ => some true
  | .value hashable => some hashable
  | .setName => none

def Shape.isKey (shape : Shape) : Bool := shape.hashable? == some true

def Shape.ofWord? (name : Text) : Option Shape :=
  if name = "True".toList ∨ name = "False".toList ∨ name = "None".toList then some (.value true)
  else if name = "set".toList then some .setName
  else none

/-- The sum of two numbers is a literal if it is a real part and an imaginary part. -/
def Shape.sum? : Shape → Shape → Option Shape
  | .number false, .number true => some (.value true)
  | .signed false, .number true => some (.value true)
  | _, _ => none

def called : Shape × List Lexeme → Shape × List Lexeme
  | (.setName, .mark '(' :: .mark ')' :: rest) => (.value false, rest)
  | r => r

mutual

/-- A constant, a group, a tuple, a set or a dictionary at the start, and the rest. -/
def atom? : Nat → List Lexeme → Option (Shape × List Lexeme)
  | 0, _ => none
  | _, [] => none
  | steps + 1, lexeme :: rest =>
    match lexeme with
    | .number imaginary => some (.number imaginary, rest)
    | .characters => some (.value true, rest.dropWhile (· = .characters))
    | .bytes => some (.value true, rest.dropWhile (· = .bytes))
    | .dots => some (.value true, rest)
    | .word name => (Shape.ofWord? name).map fun shape => called (shape, rest)
    | .mark '(' =>
      match rest with
      | .mark ')' :: rest => some (.value true, rest)
      | _ =>
        match sum? steps rest with
        | some (shape, .mark ')' :: rest) => some (called (shape, rest))
        | some (shape, .mark ',' :: rest) =>
          match shape.hashable?, tupleEnd? steps rest with
          | some h, some (hs, rest) => some (.value (h && hs), rest)
          | _, _ => none
        | _ => none
    | .mark '\x7b' =>
      match rest with
      | .mark '\x7d' :: rest => some (.value false, rest)
      | _ =>
        match sum? steps rest with
        | some (shape, .mark ':' :: rest) =>
          if shape.isKey then (entryEnd? steps rest).map ((Shape.value false, ·)) else none
        | some (shape, rest) =>
          if shape.isKey then (setEnd? steps rest).map ((Shape.value false, ·)) else none
        | none => none
    | .mark _ => none

def signed? : Nat → List Lexeme → Option (Shape × List Lexeme)
  | 0, _ => none
  | steps + 1, lexemes =>
    match lexemes with
    | .mark c :: rest =>
      if c = '+' ∨ c = '-' then
        match atom? steps rest with
        | some (.number imaginary, rest) => some (.signed imaginary, rest)
        | _ => none
      else atom? steps lexemes
    | _ => atom? steps lexemes

def sum? : Nat → List Lexeme → Option (Shape × List Lexeme)
  | 0, _ => none
  | steps + 1, lexemes =>
    match signed? steps lexemes with
    | some (left, .mark c :: rest) =>
      if c = '+' ∨ c = '-' then
        match atom? steps rest with
        | some (right, rest) => (left.sum? right).map (·, rest)
        | none => none
      else some (left, .mark c :: rest)
    | r => r

/-- The rest of a tuple from after a comma on: whether its elements may be keys. -/
def tupleEnd? : Nat → List Lexeme → Option (Bool × List Lexeme)
  | 0, _ => none
  | steps + 1, lexemes =>
    match lexemes with
    | .mark ')' :: rest => some (true, rest)
    | _ =>
      match sum? steps lexemes with
      | some (shape, .mark ')' :: rest) => shape.hashable?.map (·, rest)
      | some (shape, .mark ',' :: rest) =>
        match shape.hashable?, tupleEnd? steps rest with
        | some h, some (hs, rest) => some (h && hs, rest)
        | _, _ => none
      | _ => none

def setEnd? : Nat → List Lexeme → Option (List Lexeme)
  | 0, _ => none
  | steps + 1, lexemes =>
    match lexemes with
    | .mark '\x7d' :: rest => some rest
    | .mark ',' :: .mark '\x7d' :: rest => some rest
    | .mark ',' :: rest =>
      match sum? steps rest with
      | some (shape, rest) => if shape.isKey then setEnd? steps rest else none
      | none => none
    | _ => none

def entryEnd? : Nat → List Lexeme → Option (List Lexeme)
  | 0, _ => none
  | steps + 1, lexemes =>
    match sum? steps lexemes with
    | some (.setName, _) => none
    | some (_, .mark '\x7d' :: rest) => some rest
    | some (_, .mark ',' :: .mark '\x7d' :: rest) => some rest
    | some (_, .mark ',' :: rest) =>
      match sum? steps rest with
      | some (key, .mark ':' :: rest) => if key.isKey then entryEnd? steps rest else none
      | _ => none
    | _ => none

end

/-- Whether text is a literal. It is read as if it stood in brackets, so that a list with commas is
a tuple. -/
def isLiteral (text : Text) : Bool :=
  match lexemes? text with
  | none => false
  | some [] => false
  | some lexemes =>
    match atom? (4 * lexemes.length + 4) (.mark '(' :: lexemes ++ [.mark ')']) with
    | some (shape, []) => shape.hashable?.isSome
    | _ => false

end Reckoner.Literal
