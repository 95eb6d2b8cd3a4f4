import CallAtlas.Failure
import CallAtlas.Number.Reading
import CallAtlas.Text.Basic
import CallAtlas.Text.Case

/-! Styles as text: attributes, colours and a link. A style has one canonical text, so that two
spellings of it can be told to be the same. -/
namespace CallAtlas.Console

def attributes : List (String × List String) :=
  [("bold", ["bold", "b"]), ("dim", ["dim", "d"]), ("italic", ["italic", "i"]),
    ("underline", ["underline", "u"]), ("blink", ["blink"]), ("blink2", ["blink2"]),
    ("reverse", ["reverse", "r"]), ("conceal", ["conceal", "c"]), ("strike", ["strike", "s"]),
    ("underline2", ["underline2", "uu"]), ("frame", ["frame"]), ("encircle", ["encircle"]),
    ("overline", ["overline", "o"])]

def attribute? (word : String) : Option String :=
  (attributes.find? (·.2.contains word)).map (·.1)

private def colorLines : List String :=
  ["black red green yellow blue magenta cyan white bright_black bright_red bright_green",
   "bright_yellow bright_blue bright_magenta bright_cyan bright_white grey0 gray0 navy_blue",
   "dark_blue blue3 blue1 dark_green deep_sky_blue4 dodger_blue3 dodger_blue2 green4",
   "spring_green4 turquoise4 deep_sky_blue3 dodger_blue1 green3 spring_green3 dark_cyan",
   "light_sea_green deep_sky_blue2 deep_sky_blue1 spring_green2 cyan3 dark_turquoise",
   "turquoise2 green1 spring_green1 medium_spring_green cyan2 cyan1 dark_red deep_pink4",
   "purple4 purple3 blue_violet orange4 grey37 gray37 medium_purple4 slate_blue3 royal_blue1",
   "chartreuse4 dark_sea_green4 pale_turquoise4 steel_blue steel_blue3 cornflower_blue",
   "chartreuse3 cadet_blue sky_blue3 steel_blue1 pale_green3 sea_green3 aquamarine3",
   "medium_turquoise chartreuse2 sea_green2 sea_green1 aquamarine1 dark_slate_gray2",
   "dark_magenta dark_violet purple light_pink4 plum4 medium_purple3 slate_blue1 yellow4",
   "wheat4 grey53 gray53 light_slate_grey light_slate_gray medium_purple light_slate_blue",
   "dark_olive_green3 dark_sea_green light_sky_blue3 sky_blue2 dark_sea_green3",
   "dark_slate_gray3 sky_blue1 chartreuse1 light_green pale_green1 dark_slate_gray1 red3",
   "medium_violet_red magenta3 dark_orange3 indian_red hot_pink3 medium_orchid3 medium_orchid",
   "medium_purple2 dark_goldenrod light_salmon3 rosy_brown grey63 gray63 medium_purple1 gold3",
   "dark_khaki navajo_white3 grey69 gray69 light_steel_blue3 light_steel_blue yellow3",
   "dark_sea_green2 light_cyan3 light_sky_blue1 green_yellow dark_olive_green2 dark_sea_green1",
   "pale_turquoise1 deep_pink3 magenta2 hot_pink2 orchid medium_orchid1 orange3 light_pink3",
   "pink3 plum3 violet light_goldenrod3 tan misty_rose3 thistle3 plum2 khaki3 light_goldenrod2",
   "light_yellow3 grey84 gray84 light_steel_blue1 yellow2 dark_olive_green1 honeydew2",
   "light_cyan1 red1 deep_pink2 deep_pink1 magenta1 orange_red1 indian_red1 hot_pink",
   "dark_orange salmon1 light_coral pale_violet_red1 orchid2 orchid1 orange1 sandy_brown",
   "light_salmon1 light_pink1 pink1 plum1 gold1 navajo_white1 misty_rose1 thistle1 yellow1",
   "light_goldenrod1 khaki1 wheat1 cornsilk1 grey100 gray100 grey3 gray3 grey7 gray7 grey11",
   "gray11 grey15 gray15 grey19 gray19 grey23 gray23 grey27 gray27 grey30 gray30 grey35 gray35",
   "grey39 gray39 grey42 gray42 grey46 gray46 grey50 gray50 grey54 gray54 grey58 gray58 grey62",
   "gray62 grey66 gray66 grey70 gray70 grey74 gray74 grey78 gray78 grey82 gray82 grey85 gray85",
   "grey89 gray89 grey93 gray93"]

def colorNames : List String :=
  colorLines.flatMap fun line => (Text.words (· == ' ') line.toList).map String.ofList

structure Style where
  flags : List (String × Bool) := []
  color : Option String := none
  background : Option String := none
  link : Option String := none
deriving DecidableEq, Inhabited

private def isHex (c : Char) : Bool :=
  c.isDigit || decide ('a' ≤ c ∧ c ≤ 'f')

private def inside? (opening : String) (cs : List Char) : Option (List Char) :=
  if opening.toList.isPrefixOf cs && cs.getLast? == some ')' then
    some ((cs.drop opening.length).dropLast)
  else none

/-- Whether three components make up a colour. A component that is left out is a failure of its
own. -/
private def isMixture (components : List (List Char)) : Except Failure Bool := do
  if components.length ≠ 3 then return false
  let values ← components.mapM fun cs =>
    if cs.isEmpty then throw (.notInteger "") else pure (Text.digitsValue cs)
  return values.all fun n => decide (n ≤ 255)

def isColor (word : String) : Except Failure Bool :=
  if word == "default" || colorNames.contains word then pure true
  else
    match word.toList, inside? "color(" word.toList, inside? "rgb(" word.toList with
    | '#' :: digits, _, _ => pure (digits.length == 6 && digits.all isHex)
    | _, some number, _ =>
      pure (decide (1 ≤ number.length ∧ number.length ≤ 3) && number.all Char.isDigit
        && decide (Text.digitsValue number ≤ 255))
    | _, _, some mixture =>
      if mixture.isEmpty || !mixture.all (fun c => c == ',' || Text.isDigit c) then pure false
      else isMixture (Text.parts (· == ',') mixture)
    | _, _, none => pure false

namespace Style

def withFlag (s : Style) (name : String) (value : Bool) : Style :=
  { s with flags := (s.flags.filter (·.1 != name)) ++ [(name, value)] }

private def small (word : String) : String :=
  String.ofList (Text.lower word.toList)

def addWords (s : Style) : List String → Except Failure (Option Style)
  | [] => pure (some s)
  | word :: rest => do
    let name := small word
    if name == "on" then
      match rest with
      | color :: rest =>
        if ← isColor (small color) then addWords { s with background := some (small color) } rest
        else return none
      | [] => return none
    else if name == "not" then
      match rest with
      | word :: rest =>
        match attribute? word with
        | some a => addWords (s.withFlag a false) rest
        | none => return none
      | [] => return none
    else if name == "link" then
      match rest with
      | url :: rest => addWords { s with link := some url } rest
      | [] => return none
    else
      match attribute? name with
      | some a => addWords (s.withFlag a true) rest
      | none =>
        if ← isColor name then addWords { s with color := some name } rest else return none

def ofText? (cs : List Char) : Except Failure (Option Style) :=
  if Text.trim cs == "none".toList then pure (some {})
  else addWords {} ((Text.words Text.isBlank cs).map String.ofList)

private def flagText (s : Style) (name : String) : Option String :=
  (s.flags.find? (·.1 == name)).map fun (_, value) => if value then name else "not " ++ name

def text (s : Style) : String :=
  let parts := attributes.filterMap (fun (name, _) => s.flagText name) ++ s.color.toList
    ++ (s.background.map ("on " ++ ·)).toList ++ (s.link.map ("link " ++ ·)).toList
  if parts.isEmpty then "none" else " ".intercalate parts

def nameOf (cs : List Char) : Except Failure String := do
  match ← ofText? cs with
  | some s => return s.text
  | none => return String.ofList (Text.lower (Text.trim cs))

end Style
end CallAtlas.Console
