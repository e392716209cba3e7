import CommandScript.Screen.Emoji
import CommandScript.Text.Decimal
import CommandScript.Text.Split

/-!
# Styles

A style is written as words: attributes, which `not` turns off, a colour, a
background behind `on`, and a link. The screen shows no styles, but a closing tag
answers every spelling of its style, so each style has one spelling of its own.
-/

namespace CommandScript.Screen

/-- The names of colours. -/
def colorTable : String :=
  "black red green yellow blue magenta cyan white bright_black bright_red bright_green
bright_yellow bright_blue bright_magenta bright_cyan bright_white grey0 gray0 navy_blue
dark_blue blue3 blue1 dark_green deep_sky_blue4 dodger_blue3 dodger_blue2 green4 spring_green4
turquoise4 deep_sky_blue3 dodger_blue1 green3 spring_green3 dark_cyan light_sea_green
deep_sky_blue2 deep_sky_blue1 spring_green2 cyan3 dark_turquoise turquoise2 green1
spring_green1 medium_spring_green cyan2 cyan1 dark_red deep_pink4 purple4 purple3 blue_violet
orange4 grey37 gray37 medium_purple4 slate_blue3 royal_blue1 chartreuse4 dark_sea_green4
pale_turquoise4 steel_blue steel_blue3 cornflower_blue chartreuse3 cadet_blue sky_blue3
steel_blue1 pale_green3 sea_green3 aquamarine3 medium_turquoise chartreuse2 sea_green2
sea_green1 aquamarine1 dark_slate_gray2 dark_magenta dark_violet purple light_pink4 plum4
medium_purple3 slate_blue1 yellow4 wheat4 grey53 gray53 light_slate_grey light_slate_gray
medium_purple light_slate_blue dark_olive_green3 dark_sea_green light_sky_blue3 sky_blue2
dark_sea_green3 dark_slate_gray3 sky_blue1 chartreuse1 light_green pale_green1
dark_slate_gray1 red3 medium_violet_red magenta3 dark_orange3 indian_red hot_pink3
medium_orchid3 medium_orchid medium_purple2 dark_goldenrod light_salmon3 rosy_brown grey63
gray63 medium_purple1 gold3 dark_khaki navajo_white3 grey69 gray69 light_steel_blue3
light_steel_blue yellow3 dark_sea_green2 light_cyan3 light_sky_blue1 green_yellow
dark_olive_green2 dark_sea_green1 pale_turquoise1 deep_pink3 magenta2 hot_pink2 orchid
medium_orchid1 orange3 light_pink3 pink3 plum3 violet light_goldenrod3 tan misty_rose3
thistle3 plum2 khaki3 light_goldenrod2 light_yellow3 grey84 gray84 light_steel_blue1 yellow2
dark_olive_green1 honeydew2 light_cyan1 red1 deep_pink2 deep_pink1 magenta1 orange_red1
indian_red1 hot_pink dark_orange salmon1 light_coral pale_violet_red1 orchid2 orchid1 orange1
sandy_brown light_salmon1 light_pink1 pink1 plum1 gold1 navajo_white1 misty_rose1 thistle1
yellow1 light_goldenrod1 khaki1 wheat1 cornsilk1 grey100 gray100 grey3 gray3 grey7 gray7
grey11 gray11 grey15 gray15 grey19 gray19 grey23 gray23 grey27 gray27 grey30 gray30 grey35
gray35 grey39 gray39 grey42 gray42 grey46 gray46 grey50 gray50 grey54 gray54 grey58 gray58
grey62 gray62 grey66 gray66 grey70 gray70 grey74 gray74 grey78 gray78 grey82 gray82 grey85
gray85 grey89 gray89 grey93 gray93"

def colorNames : List Text := blankSeparated colorTable

def isHexDigit (c : Char) : Bool := ('0' ≤ c && c ≤ '9') || ('a' ≤ c && c ≤ 'f')

def between? (front tail t : Text) : Option Text :=
  match Text.after? front t with
  | none => none
  | some rest =>
    if Text.endsWith rest tail then some (rest.take (rest.length - tail.length)) else none

def isComponent (digits : Text) : Bool :=
  digits != [] && digits.all isDecimalDigit && Text.decimalValue digits ≤ 255

/-- A name, a number, or the parts of a colour, in small letters. -/
def isColor (t : Text) : Bool :=
  t = "default".toList || colorNames.contains t ||
    (match t with
    | '#' :: digits => digits.length = 6 && digits.all isHexDigit
    | _ => false) ||
    (match between? "color(" ")" t with
    | some digits => digits.length ≤ 3 && digits.all Char.isDigit && isComponent digits
    | none => false) ||
    (match between? "rgb(" ")" t with
    | some parts =>
      (Text.splitAt ',' parts).length = 3 && (Text.splitAt ',' parts).all isComponent
    | none => false)

/-- The attributes in the order in which a style names them, with their
abbreviations. -/
def attributeNames : List (String × String) :=
  [("bold", "b"), ("dim", "d"), ("italic", "i"), ("underline", "u"), ("blink", ""),
    ("blink2", ""), ("reverse", "r"), ("conceal", "c"), ("strike", "s"), ("underline2", "uu"),
    ("frame", ""), ("encircle", ""), ("overline", "o")]

def attribute? (word : Text) : Option String :=
  (attributeNames.find? fun entry =>
    word != [] && (entry.1.toList = word || entry.2.toList = word)).map (·.1)

structure Style where
  /-- The attributes that are turned on or off, the last word first. -/
  attributes : List (String × Bool) := []
  color : Option Text := none
  background : Option Text := none
  link : Option Text := none
  deriving DecidableEq, Repr

namespace Style

def lower (t : Text) : Text := t.map Char.toLower

/-- Reads the words of a style; none where one has no meaning. -/
def ofWords? (style : Style) : List Text → Option Style
  | [] => some style
  | word :: rest =>
    if lower word = "on".toList then
      match rest with
      | color :: rest =>
        if isColor (lower color) then
          ofWords? { style with background := some (lower color) } rest
        else none
      | [] => none
    else if lower word = "not".toList then
      match rest with
      | name :: rest =>
        match attribute? name with
        | some name => ofWords? { style with attributes := (name, false) :: style.attributes } rest
        | none => none
      | [] => none
    else if lower word = "link".toList then
      match rest with
      | target :: rest => ofWords? { style with link := some target } rest
      | [] => none
    else
      match attribute? (lower word) with
      | some name => ofWords? { style with attributes := (name, true) :: style.attributes } rest
      | none =>
        if isColor (lower word) then ofWords? { style with color := some (lower word) } rest
        else none

def toWords (style : Style) : List Text :=
  attributeNames.filterMap (fun entry =>
    (style.attributes.find? (·.1 = entry.1)).map fun (name, on) =>
      if on then name.toList else "not ".toList ++ name.toList)
  ++ style.color.toList
  ++ style.background.toList.map ("on ".toList ++ ·)
  ++ style.link.toList.map ("link ".toList ++ ·)

end Style

/-- The one spelling of a style; a name that is none, only in small letters. -/
def styleName (name : Text) : Text :=
  match Style.ofWords? {} (blankSeparated name) with
  | some style => Text.joinWith [' '] style.toWords
  | none => Style.lower (Text.trim name)

end CommandScript.Screen
