import FeatureLayout.Text.Blank
import FeatureLayout.Text.Digit
import FeatureLayout.Text.LowerCase

/-!
# Styles of printed texts

A style is written as words: attributes, which `not` switches off, a colour, a background behind
`on`, and an address behind `link`. Two texts mean the same style when they have the same normal
form: the attributes in a fixed order and by their long names, then the colour, the background and
the address. A text that means no style stands for itself, in lower case.
-/

namespace FeatureLayout

open Text

/-- Why a text means no style. -/
inductive StyleProblem where
  /-- A word is no part of a style, or another one has to follow it. -/
  | unknownWord
  /-- A part of a colour is empty where a number should be. -/
  | noNumber
  deriving DecidableEq, Repr

/-- How a text looks. -/
structure Style where
  /-- The attributes that are switched on or off, the last switch first. -/
  attributes : List (String × Bool)
  colour : Option String
  background : Option String
  link : Option String

namespace Style

/-- The style that changes nothing. -/
def plain : Style := ⟨[], none, none, none⟩

/-- The names of the attributes in the order of the normal form. -/
def attributeNames : List String := [
  "bold", "dim", "italic", "underline", "blink", "blink2", "reverse", "conceal", "strike",
  "underline2", "frame", "encircle", "overline"]

/-- The attribute with a long or a short name. -/
def attribute? : String → Option String
  | "b" => some "bold"
  | "d" => some "dim"
  | "i" => some "italic"
  | "u" => some "underline"
  | "r" => some "reverse"
  | "c" => some "conceal"
  | "s" => some "strike"
  | "uu" => some "underline2"
  | "o" => some "overline"
  | name => if attributeNames.contains name then some name else none

/-- The colours that have names. -/
def colourNames : List String := [
  "black", "red", "green", "yellow", "blue", "magenta", "cyan", "white", "bright_black",
  "bright_red", "bright_green", "bright_yellow", "bright_blue", "bright_magenta", "bright_cyan",
  "bright_white", "grey0", "gray0", "navy_blue", "dark_blue", "blue3", "blue1", "dark_green",
  "deep_sky_blue4", "dodger_blue3", "dodger_blue2", "green4", "spring_green4", "turquoise4",
  "deep_sky_blue3", "dodger_blue1", "green3", "spring_green3", "dark_cyan", "light_sea_green",
  "deep_sky_blue2", "deep_sky_blue1", "spring_green2", "cyan3", "dark_turquoise", "turquoise2",
  "green1", "spring_green1", "medium_spring_green", "cyan2", "cyan1", "dark_red", "deep_pink4",
  "purple4", "purple3", "blue_violet", "orange4", "grey37", "gray37", "medium_purple4",
  "slate_blue3", "royal_blue1", "chartreuse4", "dark_sea_green4", "pale_turquoise4",
  "steel_blue", "steel_blue3", "cornflower_blue", "chartreuse3", "cadet_blue", "sky_blue3",
  "steel_blue1", "pale_green3", "sea_green3", "aquamarine3", "medium_turquoise", "chartreuse2",
  "sea_green2", "sea_green1", "aquamarine1", "dark_slate_gray2", "dark_magenta", "dark_violet",
  "purple", "light_pink4", "plum4", "medium_purple3", "slate_blue1", "yellow4", "wheat4",
  "grey53", "gray53", "light_slate_grey", "light_slate_gray", "medium_purple",
  "light_slate_blue", "dark_olive_green3", "dark_sea_green", "light_sky_blue3", "sky_blue2",
  "dark_sea_green3", "dark_slate_gray3", "sky_blue1", "chartreuse1", "light_green",
  "pale_green1", "dark_slate_gray1", "red3", "medium_violet_red", "magenta3", "dark_orange3",
  "indian_red", "hot_pink3", "medium_orchid3", "medium_orchid", "medium_purple2",
  "dark_goldenrod", "light_salmon3", "rosy_brown", "grey63", "gray63", "medium_purple1", "gold3",
  "dark_khaki", "navajo_white3", "grey69", "gray69", "light_steel_blue3", "light_steel_blue",
  "yellow3", "dark_sea_green2", "light_cyan3", "light_sky_blue1", "green_yellow",
  "dark_olive_green2", "dark_sea_green1", "pale_turquoise1", "deep_pink3", "magenta2",
  "hot_pink2", "orchid", "medium_orchid1", "orange3", "light_pink3", "pink3", "plum3", "violet",
  "light_goldenrod3", "tan", "misty_rose3", "thistle3", "plum2", "khaki3", "light_goldenrod2",
  "light_yellow3", "grey84", "gray84", "light_steel_blue1", "yellow2", "dark_olive_green1",
  "honeydew2", "light_cyan1", "red1", "deep_pink2", "deep_pink1", "magenta1", "orange_red1",
  "indian_red1", "hot_pink", "dark_orange", "salmon1", "light_coral", "pale_violet_red1",
  "orchid2", "orchid1", "orange1", "sandy_brown", "light_salmon1", "light_pink1", "pink1",
  "plum1", "gold1", "navajo_white1", "misty_rose1", "thistle1", "yellow1", "light_goldenrod1",
  "khaki1", "wheat1", "cornsilk1", "grey100", "gray100", "grey3", "gray3", "grey7", "gray7",
  "grey11", "gray11", "grey15", "gray15", "grey19", "gray19", "grey23", "gray23", "grey27",
  "gray27", "grey30", "gray30", "grey35", "gray35", "grey39", "gray39", "grey42", "gray42",
  "grey46", "gray46", "grey50", "gray50", "grey54", "gray54", "grey58", "gray58", "grey62",
  "gray62", "grey66", "gray66", "grey70", "gray70", "grey74", "gray74", "grey78", "gray78",
  "grey82", "gray82", "grey85", "gray85", "grey89", "gray89", "grey93", "gray93"]

/-- The text between a start and a closing bracket, if that is what a text is. -/
def between? (start : String) (text : List Char) : Option (List Char) :=
  if start.toList.isPrefixOf text && text.getLast? == some ')' then
    some ((text.drop start.length).dropLast)
  else none

/-- Whether a text is a number sign and six hexadecimal digits. -/
def isHexColour : List Char → Bool
  | '#' :: digits => digits.length == 6 && digits.all fun c => c.isDigit || ('a' ≤ c && c ≤ 'f')
  | _ => false

/-- Checks the number of a colour in a palette. -/
def checkPalette (digits : List Char) : Except StyleProblem Unit :=
  if !digits.isEmpty && digits.length ≤ 3 && digits.all Char.isDigit &&
      numberOfDigits digits ≤ 255 then .ok ()
  else .error .unknownWord

/-- Checks the parts of a mixed colour. -/
def checkMixture (parts : List Char) : Except StyleProblem Unit :=
  let numbers := fields ',' parts
  if parts.isEmpty || !parts.all (fun c => c == ',' || isDecimal c) || numbers.length != 3 then
    .error .unknownWord
  else if numbers.any List.isEmpty then .error .noNumber
  else if numbers.all (numberOfDigits · ≤ 255) then .ok ()
  else .error .unknownWord

/-- Checks that a word in lower case is a colour. -/
def checkColour (word : List Char) : Except StyleProblem Unit :=
  let name := String.ofList word
  if name == "default" || colourNames.contains name || isHexColour word then .ok ()
  else
    match between? "color(" word, between? "rgb(" word with
    | some digits, _ => checkPalette digits
    | _, some parts => checkMixture parts
    | _, _ => .error .unknownWord

/-- Reads words on top of a style. -/
def readWords : Style → List (List Char) → Except StyleProblem Style
  | style, [] => .ok style
  | style, [word] => readWord style word
  | style, word :: next :: rest =>
    match String.ofList (lower word) with
    | "on" => do
      checkColour (lower next)
      readWords { style with background := some (String.ofList (lower next)) } rest
    | "not" =>
      match attribute? (String.ofList next) with
      | none => .error .unknownWord
      | some name => readWords { style with attributes := (name, false) :: style.attributes } rest
    | "link" => readWords { style with link := some (String.ofList next) } rest
    | _ => do readWords (← readWord style word) (next :: rest)
where
  /-- Reads a word that needs no other one. -/
  readWord (style : Style) (word : List Char) : Except StyleProblem Style :=
    let name := String.ofList (lower word)
    match attribute? name with
    | some long => .ok { style with attributes := (long, true) :: style.attributes }
    | none => do
      checkColour (lower word)
      return { style with colour := some name }

/-- The style that a text means. -/
def parse (text : List Char) : Except StyleProblem Style :=
  if trim text == "none".toList then .ok plain else readWords plain (words text)

/-- The normal form of a style. -/
def text (style : Style) : String :=
  let switched := attributeNames.filterMap fun name =>
    (style.attributes.find? (·.1 == name)).map fun switch =>
      if switch.2 then name else "not " ++ name
  let behind (word : String) (part : Option String) : List String :=
    (part.map fun part => word ++ part).toList
  let parts := switched ++ style.colour.toList ++ behind "on " style.background ++
    behind "link " style.link
  if parts.isEmpty then "none" else joinWith " " parts

/-- The normal form of the style that a text means, or the text itself in lower case. -/
def normalForm (text : List Char) : Except StyleProblem String :=
  match parse text with
  | .ok style => .ok style.text
  | .error .unknownWord => .ok (String.ofList (lower (trim text)))
  | .error .noNumber => .error .noNumber

example : (normalForm "RED b on #00ff00 not i".toList).toOption =
    some "bold not italic red on #00ff00" := by decide

example : (normalForm "ID".toList).toOption = some "id" := by decide

end Style

end FeatureLayout
