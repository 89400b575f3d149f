import Reckoner.Console.Emoji
import Reckoner.Console.Handler
import Reckoner.Console.Style

/-! # Markup

Text for the console may hold tags in square brackets. `[name]` opens a style, `[/name]` closes
the latest open one of that name and `[/]` the latest of all; none of them is shown. What follows
an equals sign in a tag belongs to its style, or to its handler if the name is that of one. A
backslash before a tag makes it ordinary text, and `escape` puts one there. What looks like no tag
is shown as it is, with emoji for their names.
-/
namespace Reckoner.Markup

structure Tag where
  name : Text
  parameters : Text
  deriving DecidableEq

def Tag.ofContent (content : Text) : Tag :=
  ⟨content.takeWhile (· != '='), (content.dropWhile (· != '=')).drop 1⟩

inductive Part
  | plain (text : Text)
  | tag (tag : Tag)

/-- A closing tag that nothing matches, a handler whose arguments are no literals, or a style with
an unreadable colour. -/
inductive Fault
  | unmatched (name : Text)
  | handler (parameters : Text)
  | style (fault : Style.Fault)
  deriving DecidableEq

def startsTag (c : Char) : Bool := ('a' ≤ c && c ≤ 'z') || c == '#' || c == '/' || c == '@'

/-- The content of a tag, from after its bracket, and the text after the tag. -/
def tagContent? (text : Text) : Option (Text × Text) :=
  match text with
  | [] => none
  | c :: rest =>
    let more := rest.takeWhile (· != ']')
    match rest.dropWhile (· != ']') with
    | _ :: after => if startsTag c && !more.contains '[' then some (c :: more, after) else none
    | [] => none

/-- A tag at the start with the backslashes before it: how many, the content, the rest. -/
def tagAt? (text : Text) : Option (Nat × Text × Text) :=
  match text.dropWhile (· == '\\') with
  | '[' :: rest =>
    (tagContent? rest).map fun r => ((text.takeWhile (· == '\\')).length, r.1, r.2)
  | _ => none

/-- Doubles the backslashes before each tag and adds one, in at most `steps` characters. -/
def escapeFrom : Nat → Text → Text
  | 0, text => text
  | _, [] => []
  | steps + 1, c :: rest =>
    match tagAt? (c :: rest) with
    | some (slashes, content, after) =>
      List.replicate (2 * slashes + 1) '\\' ++ '[' :: content ++ ']' :: escapeFrom steps after
    | none => c :: escapeFrom steps rest

/-- Text that is shown as it is. A single backslash at the end is doubled. -/
def escape (text : Text) : Text :=
  let escaped := escapeFrom text.length text
  if "\\".toList.isSuffixOf escaped && !"\\\\".toList.isSuffixOf escaped then escaped ++ ['\\']
  else escaped

/-- Splits text into tags and what is between them; `before` is collected in reverse. -/
def partsFrom : Nat → Text → Text → List Part
  | 0, before, text => [.plain (before.reverse ++ text)]
  | _, before, [] => [.plain before.reverse]
  | steps + 1, before, c :: rest =>
    match tagAt? (c :: rest) with
    | some (slashes, content, after) =>
      let shown : Part :=
        if slashes % 2 = 1 then .plain ('[' :: content ++ [']'])
        else .tag (.ofContent content)
      .plain before.reverse :: .plain (List.replicate (slashes / 2) '\\') :: shown ::
        partsFrom steps [] after
    | none => partsFrom steps (c :: before) rest

def parts (text : Text) : List Part := partsFrom text.length [] text

def close? (name : Text) : List Tag → Option (Tag × List Tag)
  | [] => none
  | latest :: earlier =>
    if latest.name = name then some (latest, earlier)
    else (close? name earlier).map fun r => (r.1, latest :: r.2)

def canonical (name : Text) : Except Fault Text :=
  match Style.canonical name with
  | .ok style => .ok style
  | .error fault => .error (.style fault)

def pass (opened : List Tag) (tag : Tag) : Except Fault (List Tag) :=
  match tag.name with
  | '/' :: name => do
    let closed ← if (Text.trim Blank.isSpace name).isEmpty then
        pure (opened.head?.map (·, opened.drop 1))
      else do
        let style ← canonical name
        pure (close? style opened)
    match closed with
    | none => .error (.unmatched tag.name)
    | some (latest, others) =>
      if Handler.isHandler latest.name && !Handler.isCallable latest.parameters then
        .error (.handler latest.parameters)
      else pure others
  | name => do
    let style ← canonical name
    pure (⟨style, tag.parameters⟩ :: opened)

def shownPlain (text : Text) : Text := Emoji.replace (Text.contract '\\' '[' '[' text)

def showParts : List Tag → List Part → Except Fault Text
  | _, [] => .ok []
  | opened, .plain text :: rest => (showParts opened rest).map (shownPlain text ++ ·)
  | opened, .tag tag :: rest => do
    let opened ← pass opened tag
    showParts opened rest

/-- Whether a tag that opens a style mixes a colour from something that is no number. -/
def isUnreadable : Part → Bool
  | .plain _ => false
  | .tag tag =>
    match canonical tag.name with
    | .ok name => Style.isUnreadable (name ++ ' ' :: tag.parameters)
    | .error _ => true

/-- The text that is shown for marked-up text. The tags are matched first, and then the styles are
applied. -/
def render (text : Text) : Except Fault Text := do
  let shown ← showParts [] (parts text)
  if (parts text).any isUnreadable then .error (.style .unreadableColour) else pure shown

end Reckoner.Markup
