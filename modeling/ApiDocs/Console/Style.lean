import ApiDocs.Text.Blank
import ApiDocs.Text.Digit
import ApiDocs.Text.LowerCase
/-!
Styles of text, as they are spelled.

A style is spelled by words: attributes (`bold`, `not dim`), a colour, `on` a colour, and `link` to an
address.  Spellings of the same style have one normal form, and a text that spells no style is its own,
in small letters and without blanks at its ends.
-/

namespace ApiDocs.Console

/-! ## Colours -/

def colorTable : List String :=
  ["black red green yellow blue magenta cyan white bright_black bright_red bright_green",
   "bright_yellow bright_blue bright_magenta bright_cyan bright_white grey0 gray0 navy_blue",
   "dark_blue blue3 blue1 dark_green deep_sky_blue4 dodger_blue3 dodger_blue2 green4",
   "spring_green4 turquoise4 deep_sky_blue3 dodger_blue1 green3 spring_green3 dark_cyan",
   "light_sea_green deep_sky_blue2 deep_sky_blue1 spring_green2 cyan3 dark_turquoise turquoise2",
   "green1 spring_green1 medium_spring_green cyan2 cyan1 dark_red deep_pink4 purple4 purple3",
   "blue_violet orange4 grey37 gray37 medium_purple4 slate_blue3 royal_blue1 chartreuse4",
   "dark_sea_green4 pale_turquoise4 steel_blue steel_blue3 cornflower_blue chartreuse3",
   "cadet_blue sky_blue3 steel_blue1 pale_green3 sea_green3 aquamarine3 medium_turquoise",
   "chartreuse2 sea_green2 sea_green1 aquamarine1 dark_slate_gray2 dark_magenta dark_violet",
   "purple light_pink4 plum4 medium_purple3 slate_blue1 yellow4 wheat4 grey53 gray53",
   "light_slate_grey light_slate_gray medium_purple light_slate_blue dark_olive_green3",
   "dark_sea_green light_sky_blue3 sky_blue2 dark_sea_green3 dark_slate_gray3 sky_blue1",
   "chartreuse1 light_green pale_green1 dark_slate_gray1 red3 medium_violet_red magenta3",
   "dark_orange3 indian_red hot_pink3 medium_orchid3 medium_orchid medium_purple2 dark_goldenrod",
   "light_salmon3 rosy_brown grey63 gray63 medium_purple1 gold3 dark_khaki navajo_white3 grey69",
   "gray69 light_steel_blue3 light_steel_blue yellow3 dark_sea_green2 light_cyan3",
   "light_sky_blue1 green_yellow dark_olive_green2 dark_sea_green1 pale_turquoise1 deep_pink3",
   "magenta2 hot_pink2 orchid medium_orchid1 orange3 light_pink3 pink3 plum3 violet",
   "light_goldenrod3 tan misty_rose3 thistle3 plum2 khaki3 light_goldenrod2 light_yellow3 grey84",
   "gray84 light_steel_blue1 yellow2 dark_olive_green1 honeydew2 light_cyan1 red1 deep_pink2",
   "deep_pink1 magenta1 orange_red1 indian_red1 hot_pink dark_orange salmon1 light_coral",
   "pale_violet_red1 orchid2 orchid1 orange1 sandy_brown light_salmon1 light_pink1 pink1 plum1",
   "gold1 navajo_white1 misty_rose1 thistle1 yellow1 light_goldenrod1 khaki1 wheat1 cornsilk1",
   "grey100 gray100 grey3 gray3 grey7 gray7 grey11 gray11 grey15 gray15 grey19 gray19 grey23",
   "gray23 grey27 gray27 grey30 gray30 grey35 gray35 grey39 gray39 grey42 gray42 grey46 gray46",
   "grey50 gray50 grey54 gray54 grey58 gray58 grey62 gray62 grey66 gray66 grey70 gray70 grey74",
   "gray74 grey78 gray78 grey82 gray82 grey85 gray85 grey89 gray89 grey93 gray93"]

def colorNames : List Text :=
  ("default" : Text) :: colorTable.flatMap fun (line : String) => Text.splitOn 0x20 line

inductive StyleError where
  | unknownWord
  | numberMissing
  deriving DecidableEq, Repr

/-- The value of decimal digits of any script, if the text has no other code points. -/
def decimalNumber? (t : Text) : Option Nat :=
  t.foldl (fun n c => n.bind fun n => (decimalValue? c).map (10 * n + ·)) (some 0)

def between? (head tail t : Text) : Option Text :=
  if t.startsWith head && t.endsWith tail && head.length + tail.length ≤ t.length then
    some ((t.drop head.length).take (t.length - head.length - tail.length))
  else none

/-- A colour of a terminal by its number, which has up to three digits. -/
def isNumberedColor (t : Text) : Bool :=
  match between? "color(" ")" t with
  | some n => !n.isEmpty && n.length ≤ 3 && n.all Text.isDigit && Text.digitsValue n ≤ 255
  | none => false

def isHexColor (t : Text) : Bool :=
  t.startsWith "#" && t.length == 7 && (t.drop 1).all fun c => (Text.hexValue? c).isSome

/-- The numbers of the three parts of a colour, if it has the form of one. -/
def colorParts? (t : Text) : Option (List Text) :=
  match between? "rgb(" ")" t with
  | some body =>
    let parts := Text.splitOn 0x2C body
    if !body.isEmpty && parts.length == 3 && parts.all (fun p => (decimalNumber? p).isSome) then
      some parts
    else none
  | none => none

def colorOf (word : Text) : Except StyleError Text :=
  let name := word.lower
  if colorNames.contains name || isNumberedColor name || isHexColor name then .ok name
  else match colorParts? name with
    | none => .error .unknownWord
    | some parts =>
      if parts.any List.isEmpty then .error .numberMissing
      else if parts.all fun p => (decimalNumber? p).all (· ≤ 255) then .ok name
      else .error .unknownWord

/-! ## Styles -/

/-- The attributes in the order of the normal form. -/
def attributeNames : List Text :=
  ["bold","dim","italic","underline","blink","blink2","reverse","conceal","strike",
    "underline2","frame","encircle","overline"]

def shortAttributes : List (Text × Text) :=
  [("d","dim"),("b","bold"),("i","italic"),("u","underline"),("r","reverse"),
    ("c","conceal"),("s","strike"),("uu","underline2"),("o","overline")]

def attributeOf? (word : Text) : Option Text :=
  if attributeNames.contains word then some word
  else (shortAttributes.find? (·.1 = word)).map (·.2)

/-- What words say about a style; the last attribute is the first of the list. -/
structure Style where
  attributes : List (Text × Bool) := []
  color : Option Text := none
  background : Option Text := none
  link : Option Text := none
  deriving DecidableEq, Repr

namespace Style

def addWords (s : Style) : List Text → Except StyleError Style
  | [] => .ok s
  | original :: rest =>
    let word := original.lower
    if word = ("on" : Text) then
      match rest with
      | [] => .error .unknownWord
      | ground :: rest =>
        match colorOf ground with
        | .error e => .error e
        | .ok name => addWords { s with background := some name } rest
    else if word = ("not" : Text) then
      match rest with
      | [] => .error .unknownWord
      | name :: rest =>
        match attributeOf? name with
        | none => .error .unknownWord
        | some name => addWords { s with attributes := (name,false) :: s.attributes } rest
    else if word = ("link" : Text) then
      match rest with
      | [] => .error .unknownWord
      | target :: rest => addWords { s with link := some target } rest
    else match attributeOf? word with
      | some name => addWords { s with attributes := (name,true) :: s.attributes } rest
      | none =>
        match colorOf word with
        | .error e => .error e
        | .ok name => addWords { s with color := some name } rest

def attributeWords (s : Style) (name : Text) : List Text :=
  match s.attributes.find? (·.1 = name) with
  | some (_,true) => [name]
  | some (_,false) => ["not",name]
  | none => []

def words (s : Style) : List Text :=
  attributeNames.flatMap s.attributeWords ++ s.color.toList ++
    (s.background.elim [] fun name => [("on" : Text),name]) ++
    (s.link.elim [] fun target => [("link" : Text),target])

/-- The normal form of a style; the one that says nothing is called `none`. -/
def toText (s : Style) : Text :=
  if s.words.isEmpty then "none" else Text.join [0x20] s.words

end Style

/-- The normal form of the style that a text spells, or the text itself if it spells none.  Only a
colour that lacks a number has no normal form. -/
def normalStyle (t : Text) : Except StyleError Text :=
  if t.trim = ("none" : Text) then .ok "none"
  else match ({} : Style).addWords t.words with
    | .ok s => .ok s.toText
    | .error .unknownWord => .ok t.trim.lower
    | .error .numberMissing => .error .numberMissing

end ApiDocs.Console
