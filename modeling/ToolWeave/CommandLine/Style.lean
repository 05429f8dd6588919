import ToolWeave.Text.Blank

/-!
# Styles

What a tag says about the look of a text: attributes, the colour of the text and of what is behind
it, and a link.  The same style can be written in several ways.

## Main definitions

* `Style.isColor`: whether a word is a colour.
* `Style.parse?`: the style that some words describe.
* `Style.normal`: the one way to write a style among all that describe it.
-/

namespace ToolWeave

/-- How a text looks. -/
structure Style where
  /-- Whether attributes are there or expressly not there. -/
  attributes : List (String × Bool)
  color : Option String
  background : Option String
  link : Option String

namespace Style

/-- The attributes, in the order in which they are written. -/
def attributeOrder : List String :=
  ["bold", "dim", "italic", "underline", "blink", "blink2", "reverse", "conceal", "strike",
    "underline2", "frame", "encircle", "overline"]

/-- The short names of attributes. -/
def shortNames : List (String × String) :=
  [("d", "dim"), ("b", "bold"), ("i", "italic"), ("u", "underline"), ("r", "reverse"),
    ("c", "conceal"), ("s", "strike"), ("uu", "underline2"), ("o", "overline")]

/-- The attribute of a word. -/
def attribute? (word : String) : Option String :=
  if attributeOrder.contains word then some word
  else (shortNames.find? fun entry => entry.1 == word).map Prod.snd

/-- The names of colours. -/
def colorNames : List String :=
  Text.words
    "black red green yellow blue magenta cyan white bright_black bright_red bright_green
    bright_yellow bright_blue bright_magenta bright_cyan bright_white grey0 gray0 navy_blue
    dark_blue blue3 blue1 dark_green deep_sky_blue4 dodger_blue3 dodger_blue2 green4
    spring_green4 turquoise4 deep_sky_blue3 dodger_blue1 green3 spring_green3 dark_cyan
    light_sea_green deep_sky_blue2 deep_sky_blue1 spring_green2 cyan3 dark_turquoise
    turquoise2 green1 spring_green1 medium_spring_green cyan2 cyan1 dark_red deep_pink4
    purple4 purple3 blue_violet orange4 grey37 gray37 medium_purple4 slate_blue3 royal_blue1
    chartreuse4 dark_sea_green4 pale_turquoise4 steel_blue steel_blue3 cornflower_blue
    chartreuse3 cadet_blue sky_blue3 steel_blue1 pale_green3 sea_green3 aquamarine3
    medium_turquoise chartreuse2 sea_green2 sea_green1 aquamarine1 dark_slate_gray2
    dark_magenta dark_violet purple light_pink4 plum4 medium_purple3 slate_blue1 yellow4
    wheat4 grey53 gray53 light_slate_grey light_slate_gray medium_purple light_slate_blue
    dark_olive_green3 dark_sea_green light_sky_blue3 sky_blue2 dark_sea_green3
    dark_slate_gray3 sky_blue1 chartreuse1 light_green pale_green1 dark_slate_gray1 red3
    medium_violet_red magenta3 dark_orange3 indian_red hot_pink3 medium_orchid3
    medium_orchid medium_purple2 dark_goldenrod light_salmon3 rosy_brown grey63 gray63
    medium_purple1 gold3 dark_khaki navajo_white3 grey69 gray69 light_steel_blue3
    light_steel_blue yellow3 dark_sea_green2 light_cyan3 light_sky_blue1 green_yellow
    dark_olive_green2 dark_sea_green1 pale_turquoise1 deep_pink3 magenta2 hot_pink2 orchid
    medium_orchid1 orange3 light_pink3 pink3 plum3 violet light_goldenrod3 tan misty_rose3
    thistle3 plum2 khaki3 light_goldenrod2 light_yellow3 grey84 gray84 light_steel_blue1
    yellow2 dark_olive_green1 honeydew2 light_cyan1 red1 deep_pink2 deep_pink1 magenta1
    orange_red1 indian_red1 hot_pink dark_orange salmon1 light_coral pale_violet_red1
    orchid2 orchid1 orange1 sandy_brown light_salmon1 light_pink1 pink1 plum1 gold1
    navajo_white1 misty_rose1 thistle1 yellow1 light_goldenrod1 khaki1 wheat1 cornsilk1
    grey100 gray100 grey3 gray3 grey7 gray7 grey11 gray11 grey15 gray15 grey19 gray19 grey23
    gray23 grey27 gray27 grey30 gray30 grey35 gray35 grey39 gray39 grey42 gray42 grey46
    gray46 grey50 gray50 grey54 gray54 grey58 gray58 grey62 gray62 grey66 gray66 grey70
    gray70 grey74 gray74 grey78 gray78 grey82 gray82 grey85 gray85 grey89 gray89 grey93
    gray93"

/-- Whether a text is a number up to 255, with three digits at most. -/
def isByte (cs : List Char) : Bool :=
  !cs.isEmpty && cs.length ≤ 3 && cs.all Char.isDigit && (String.ofList cs).toNat?.any (· ≤ 255)

/-- What stands between parentheses after a word. -/
def argument? (word : String) (cs : List Char) : Option (List Char) :=
  let front := word.toList ++ ['(']
  if front.isPrefixOf cs && cs.getLast? == some ')' then some ((cs.drop front.length).dropLast)
  else none

/-- Whether a word is a colour: a name, a number, three numbers, or six hexadecimal digits. -/
def isColor (word : String) : Bool :=
  let cs := word.toList
  let isHex (c : Char) : Bool := c.isDigit || ('a' ≤ c && c ≤ 'f')
  word == "default" || colorNames.contains word ||
    (cs.head? == some '#' && cs.length == 7 && (cs.drop 1).all isHex) ||
    (argument? "color" cs).any isByte ||
    (argument? "rgb" cs).any fun inside =>
      let parts := inside.splitOn ','
      parts.length == 3 && parts.all isByte

/-- A style with an attribute that is there or not. -/
def withAttribute (style : Style) (name : String) (present : Bool) : Style :=
  let others := style.attributes.filter fun entry => entry.1 != name
  { style with attributes := others ++ [(name, present)] }

/-- Adds what some words describe to a style. -/
def read? (style : Style) : List String → Option Style
  | [] => some style
  | word :: rest =>
    match word.toLower, rest with
    | "on", color :: rest =>
      if isColor color.toLower then read? { style with background := some color.toLower } rest
      else none
    | "not", name :: rest =>
      match attribute? name with
      | some name => read? (style.withAttribute name false) rest
      | none => none
    | "link", target :: rest => read? { style with link := some target } rest
    | "on", [] | "not", [] | "link", [] => none
    | word, rest =>
      match attribute? word with
      | some name => read? (style.withAttribute name true) rest
      | none => if isColor word then read? { style with color := some word } rest else none

/-- The style that a text describes, if it describes one. -/
def parse? (text : String) : Option Style :=
  let nothing : Style := ⟨[], none, none, none⟩
  if Text.strip text = "none" then some nothing else nothing.read? (Text.words text)

/-- A style in words. -/
def written (style : Style) : String :=
  let attributes := attributeOrder.filterMap fun name =>
    (style.attributes.find? fun entry => entry.1 == name).map fun entry =>
      if entry.2 then name else "not " ++ name
  let parts :=
    attributes ++ style.color.toList ++ (style.background.map ("on " ++ ·)).toList ++
      (style.link.map ("link " ++ ·)).toList
  if parts.isEmpty then "none" else String.intercalate " " parts

/-- The one way to write what a text describes; a text that describes no style is only stripped of
blanks and put into lower case. -/
def normal (text : String) : String :=
  match parse? text with
  | some style => style.written
  | none => (Text.strip text).toLower

end Style

end ToolWeave
