import Reckoner.Console.Emoji.Names
import Reckoner.Text.Blank
import Reckoner.Text.Case

/-! # Emoji by name

In text for the console an emoji may be written as its name between colons. The name has no blanks
and its case does not matter. It may end in `-text` or `-emoji`, which asks for that form of the
emoji. A name that is not known stays as it is, with both its colons.
-/
namespace Reckoner.Emoji

/-- Neighbours as pairs: first and second, third and fourth, and so on. -/
def pairs {α : Type} : List α → List (α × α)
  | a :: b :: rest => (a, b) :: pairs rest
  | _ => []

def known : List (Text × Text) :=
  pairs ((Text.splitAt Blank.isSpace names.toList).filter fun word => !word.isEmpty)

/-- The name proper and the selector of the form that its end asks for. -/
def selected (name : Text) : Text × Text :=
  let before (ending : String) := name.take (name.length - ending.length)
  if "-text".toList.isSuffixOf name then (before "-text", ['\ufe0e'])
  else if "-emoji".toList.isSuffixOf name then (before "-emoji", ['\ufe0f'])
  else (name, [])

def find? (name : Text) : Option Text :=
  let (proper, selector) := selected name
  (known.lookup (Case.lower proper)).map (· ++ selector)

def shown (name : Text) : Text := (find? name).getD (':' :: name ++ [':'])

/-- The text of pieces that each follow a colon, with names replaced from the left. -/
def showPieces : List Text → Text
  | [] => []
  | [piece] => ':' :: piece
  | piece :: next :: rest =>
    if piece.any Blank.isSpace then ':' :: piece ++ showPieces (next :: rest)
    else shown piece ++ next ++ showPieces rest

def replace (text : Text) : Text :=
  match Text.splitAt (· == ':') text with
  | [] => []
  | start :: pieces => start ++ showPieces pieces

end Reckoner.Emoji
