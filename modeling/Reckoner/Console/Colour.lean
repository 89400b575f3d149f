import Reckoner.Text.Blank
import Reckoner.Text.Case
import Reckoner.Text.Numeral

/-! # Colours

A colour is given by name, by six digits in base sixteen after a number sign, by its number in a
palette of 256, or by three parts that are at most 255.
-/
namespace Reckoner.Colour

def names : List String := [
  "black", "red", "green", "yellow", "blue", "magenta", "cyan", "white", "bright_black",
  "bright_red", "bright_green", "bright_yellow", "bright_blue", "bright_magenta", "bright_cyan",
  "bright_white", "gray0", "grey0", "navy_blue", "dark_blue", "blue3", "blue1", "dark_green",
  "deep_sky_blue4", "dodger_blue3", "dodger_blue2", "green4", "spring_green4", "turquoise4",
  "deep_sky_blue3", "dodger_blue1", "dark_cyan", "light_sea_green", "deep_sky_blue2",
  "deep_sky_blue1", "green3", "spring_green3", "cyan3", "dark_turquoise", "turquoise2", "green1",
  "spring_green2", "spring_green1", "medium_spring_green", "cyan2", "cyan1", "purple4", "purple3",
  "blue_violet", "gray37", "grey37", "medium_purple4", "slate_blue3", "royal_blue1",
  "chartreuse4", "pale_turquoise4", "steel_blue", "steel_blue3", "cornflower_blue",
  "dark_sea_green4", "cadet_blue", "sky_blue3", "chartreuse3", "sea_green3", "aquamarine3",
  "medium_turquoise", "steel_blue1", "sea_green2", "sea_green1", "dark_slate_gray2", "dark_red",
  "dark_magenta", "orange4", "light_pink4", "plum4", "medium_purple3", "slate_blue1", "wheat4",
  "gray53", "grey53", "light_slate_gray", "light_slate_grey", "medium_purple", "light_slate_blue",
  "yellow4", "dark_sea_green", "light_sky_blue3", "sky_blue2", "chartreuse2", "pale_green3",
  "dark_slate_gray3", "sky_blue1", "chartreuse1", "light_green", "aquamarine1",
  "dark_slate_gray1", "deep_pink4", "medium_violet_red", "dark_violet", "purple",
  "medium_orchid3", "medium_orchid", "dark_goldenrod", "rosy_brown", "gray63", "grey63",
  "medium_purple2", "medium_purple1", "dark_khaki", "navajo_white3", "gray69", "grey69",
  "light_steel_blue3", "light_steel_blue", "dark_olive_green3", "dark_sea_green3", "light_cyan3",
  "light_sky_blue1", "green_yellow", "dark_olive_green2", "pale_green1", "dark_sea_green2",
  "pale_turquoise1", "red3", "deep_pink3", "magenta3", "dark_orange3", "indian_red", "hot_pink3",
  "hot_pink2", "orchid", "orange3", "light_salmon3", "light_pink3", "pink3", "plum3", "violet",
  "gold3", "light_goldenrod3", "tan", "misty_rose3", "thistle3", "plum2", "yellow3", "khaki3",
  "light_yellow3", "gray84", "grey84", "light_steel_blue1", "yellow2", "dark_olive_green1",
  "dark_sea_green1", "honeydew2", "light_cyan1", "red1", "deep_pink2", "deep_pink1", "magenta2",
  "magenta1", "orange_red1", "indian_red1", "hot_pink", "medium_orchid1", "dark_orange",
  "salmon1", "light_coral", "pale_violet_red1", "orchid2", "orchid1", "orange1", "sandy_brown",
  "light_salmon1", "light_pink1", "pink1", "plum1", "gold1", "light_goldenrod2", "navajo_white1",
  "misty_rose1", "thistle1", "yellow1", "light_goldenrod1", "khaki1", "wheat1", "cornsilk1",
  "gray100", "grey100", "gray3", "grey3", "gray7", "grey7", "gray11", "grey11", "gray15",
  "grey15", "gray19", "grey19", "gray23", "grey23", "gray27", "grey27", "gray30", "grey30",
  "gray35", "grey35", "gray39", "grey39", "gray42", "grey42", "gray46", "grey46", "gray50",
  "grey50", "gray54", "grey54", "gray58", "grey58", "gray62", "grey62", "gray66", "grey66",
  "gray70", "grey70", "gray74", "grey74", "gray78", "grey78", "gray82", "grey82", "gray85",
  "grey85", "gray89", "grey89", "gray93", "grey93"]

/-- Why a word gives no colour. `unreadable` is a mix of three parts one of which is no number. -/
inductive Fault
  | unknown
  | unreadable
  deriving DecidableEq

def between? (opening closing : String) (word : Text) : Option Text :=
  (Text.dropStart? opening.toList word).bind fun rest =>
    if closing.toList.isSuffixOf rest then some (rest.take (rest.length - closing.length)) else none

def isHex (word : Text) : Bool :=
  match word with
  | '#' :: digits => digits.length == 6 && digits.all fun c => (Text.hexDigit? c).isSome
  | _ => false

def isNumbered (word : Text) : Bool :=
  match between? "color(" ")" word with
  | some digits =>
    !digits.isEmpty && digits.length ≤ 3 && digits.all Text.isDigit &&
      Text.digitsValue 10 (digits.filterMap Text.digit?) < 256
  | none => false

def part? (digits : Text) : Option Nat :=
  if digits.isEmpty || Numeral.longest < digits.length then none
  else some (Text.digitsValue 10 (digits.filterMap Numeral.digit?))

/-- Checks the three parts of a mix: first that each is a number, then that none is too large. -/
def checkMix (parts : List Text) : Except Fault Unit :=
  match parts with
  | [red, green, blue] =>
    match part? red, part? green, part? blue with
    | some r, some g, some b =>
      if r < 256 ∧ g < 256 ∧ b < 256 then .ok () else .error .unknown
    | _, _, _ => .error .unreadable
  | _ => .error .unknown

def check (word : Text) : Except Fault Unit :=
  if word == "default".toList || names.any (·.toList == word) || isHex word || isNumbered word then
    .ok ()
  else
    match between? "rgb(" ")" word with
    | some mix =>
      if mix.all fun c => c == ',' || (Numeral.digit? c).isSome then
        checkMix (Text.splitAt (· == ',') mix)
      else .error .unknown
    | none => .error .unknown

def read (word : Text) : Except Fault Text := do
  let name := Case.lower word
  check name
  pure name

end Reckoner.Colour
