import Reckoner.Console.Colour

/-! # Names of styles

A style is named by words: attributes, with short names for most and `not` to take one away, a
colour, `on` with a colour for the ground, and `link` with an address. Names that mean the same
style have one canonical form; words that name no style are only trimmed and put in lower case.
-/
namespace Reckoner.Style

def attributes : List (String × List String) :=
  [("bold", ["b"]), ("dim", ["d"]), ("italic", ["i"]), ("underline", ["u"]), ("blink", []),
    ("blink2", []), ("reverse", ["r"]), ("conceal", ["c"]), ("strike", ["s"]),
    ("underline2", ["uu"]), ("frame", []), ("encircle", []), ("overline", ["o"])]

def attribute? (word : Text) : Option String :=
  (attributes.find? fun entry => (entry.1 :: entry.2).any (·.toList == word)).map (·.1)

structure Definition where
  attributes : List (String × Bool)
  colour : Option Text
  ground : Option Text
  link : Option Text

def Definition.empty : Definition := ⟨[], none, none, none⟩

def Definition.set (d : Definition) (name : String) (value : Bool) : Definition :=
  { d with attributes := (name, value) :: d.attributes }

def define : Definition → List Text → Except Colour.Fault Definition
  | d, [] => .ok d
  | d, word :: rest =>
    let name := Case.lower word
    if name = "on".toList then
      match rest with
      | colour :: rest => do
        let ground ← Colour.read colour
        define { d with ground := some ground } rest
      | [] => .error .unknown
    else if name = "not".toList then
      match rest with
      | word :: rest =>
        match attribute? word with
        | some a => define (d.set a false) rest
        | none => .error .unknown
      | [] => .error .unknown
    else if name = "link".toList then
      match rest with
      | address :: rest => define { d with link := some address } rest
      | [] => .error .unknown
    else
      match attribute? name with
      | some a => define (d.set a true) rest
      | none => do
        let colour ← Colour.read name
        define { d with colour := some colour } rest

def Definition.words (d : Definition) : List Text :=
  let attributeWords := Style.attributes.filterMap fun entry =>
    match d.attributes.lookup entry.1 with
    | some true => some entry.1.toList
    | some false => some ("not ".toList ++ entry.1.toList)
    | none => none
  let marked (word : String) : Option Text → List Text
    | some t => [word.toList, t]
    | none => []
  attributeWords ++ d.colour.toList ++ marked "on" d.ground ++ marked "link" d.link

def words (text : Text) : List Text :=
  (Text.splitAt Blank.isSpace text).filter fun word => !word.isEmpty

/-- A mix of colours without a number for one of its parts. -/
inductive Fault
  | unreadableColour
  deriving DecidableEq

def canonical (name : Text) : Except Fault Text :=
  let trimmed := Text.trim Blank.isSpace name
  let parts := words name
  if parts.isEmpty || trimmed == "none".toList then .ok "none".toList
  else
    match define .empty parts with
    | .ok d => .ok (Text.joined [' '] d.words)
    | .error .unknown => .ok (Case.lower trimmed)
    | .error .unreadable => .error .unreadableColour

/-- Whether the words of a style, read from the left, come to an unreadable colour. -/
def isUnreadable (style : Text) : Bool :=
  match define .empty (words style) with
  | .error .unreadable => true
  | _ => false

end Reckoner.Style
