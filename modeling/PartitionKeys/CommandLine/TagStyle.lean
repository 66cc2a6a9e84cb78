import PartitionKeys.Text.Blank
import PartitionKeys.Text.Digit
import PartitionKeys.Text.LetterCase

/-!
# TagStyle — what the words of a tag ask for

A tag names traits such as bold, a colour, a background after `on`, and a link after `link`; `not`
takes a trait back.  Two names with the same effect have the same normal form, by which a closing
tag finds its opening one.  A name that is no style is its own normal form, in small letters.
The names are a library's, and the program itself uses `bold red` only (`Terminal.errorMark`).

* `Colour.read?`: the name of a colour in small letters;
* `TagStyle.read?`: the style that some words ask for;
* `TagStyle.normalize`: the normal form of a name.
-/

namespace PartitionKeys

/-! ## Colours -/

/-- A part of a colour that stands where a number has to. -/
inductive ColourFault where
  | noDigits
  | tooLong (digits : Nat)
  deriving DecidableEq, Repr

def ColourFault.message : ColourFault → String
  | .noDigits => "invalid literal for int() with base 10: ''"
  | .tooLong digits =>
      "Exceeds the limit (4300 digits) for integer string conversion: value has " ++
        toString digits ++ " digits; use sys.set_int_max_str_digits() to increase the limit"

namespace Colour

def block : String :=
"black red green yellow blue magenta cyan white bright_black bright_red bright_green
bright_yellow bright_blue bright_magenta bright_cyan bright_white grey0 gray0 navy_blue
dark_blue blue3 blue1 dark_green deep_sky_blue4 dodger_blue3 dodger_blue2 green4 spring_green4
turquoise4 deep_sky_blue3 dodger_blue1 green3 spring_green3 dark_cyan light_sea_green
deep_sky_blue2 deep_sky_blue1 spring_green2 cyan3 dark_turquoise turquoise2 green1 spring_green1
medium_spring_green cyan2 cyan1 dark_red deep_pink4 purple4 purple3 blue_violet orange4 grey37
gray37 medium_purple4 slate_blue3 royal_blue1 chartreuse4 dark_sea_green4 pale_turquoise4
steel_blue steel_blue3 cornflower_blue chartreuse3 cadet_blue sky_blue3 steel_blue1 pale_green3
sea_green3 aquamarine3 medium_turquoise chartreuse2 sea_green2 sea_green1 aquamarine1
dark_slate_gray2 dark_magenta dark_violet purple light_pink4 plum4 medium_purple3 slate_blue1
yellow4 wheat4 grey53 gray53 light_slate_grey light_slate_gray medium_purple light_slate_blue
dark_olive_green3 dark_sea_green light_sky_blue3 sky_blue2 dark_sea_green3 dark_slate_gray3
sky_blue1 chartreuse1 light_green pale_green1 dark_slate_gray1 red3 medium_violet_red magenta3
dark_orange3 indian_red hot_pink3 medium_orchid3 medium_orchid medium_purple2 dark_goldenrod
light_salmon3 rosy_brown grey63 gray63 medium_purple1 gold3 dark_khaki navajo_white3 grey69
gray69 light_steel_blue3 light_steel_blue yellow3 dark_sea_green2 light_cyan3 light_sky_blue1
green_yellow dark_olive_green2 dark_sea_green1 pale_turquoise1 deep_pink3 magenta2 hot_pink2
orchid medium_orchid1 orange3 light_pink3 pink3 plum3 violet light_goldenrod3 tan misty_rose3
thistle3 plum2 khaki3 light_goldenrod2 light_yellow3 grey84 gray84 light_steel_blue1 yellow2
dark_olive_green1 honeydew2 light_cyan1 red1 deep_pink2 deep_pink1 magenta1 orange_red1
indian_red1 hot_pink dark_orange salmon1 light_coral pale_violet_red1 orchid2 orchid1 orange1
sandy_brown light_salmon1 light_pink1 pink1 plum1 gold1 navajo_white1 misty_rose1 thistle1
yellow1 light_goldenrod1 khaki1 wheat1 cornsilk1 grey100 gray100 grey3 gray3 grey7 gray7 grey11
gray11 grey15 gray15 grey19 gray19 grey23 gray23 grey27 gray27 grey30 gray30 grey35 gray35
grey39 gray39 grey42 gray42 grey46 gray46 grey50 gray50 grey54 gray54 grey58 gray58 grey62
gray62 grey66 gray66 grey70 gray70 grey74 gray74 grey78 gray78 grey82 gray82 grey85 gray85
grey89 gray89 grey93 gray93"

def names : List (List Char) :=
  ['d', 'e', 'f', 'a', 'u', 'l', 't'] :: Blank.words block.toList

def isHexDigit (c : Char) : Bool :=
  c.isDigit || ('a' ≤ c && c ≤ 'f')

/-- What stands between a name with an opening bracket and a closing bracket at the end. -/
def argument? (name : List Char) (cs : List Char) : Option (List Char) :=
  let rest := cs.drop name.length
  if name.isPrefixOf cs && rest.getLast? == some ')' then some rest.dropLast else none

def number (digits : List Char) : Nat :=
  digits.foldl (fun n c => n * 10 + (Digit.value? c).getD 0) 0

/-- The longest number that is read. -/
def digitLimit : Nat :=
  4300

def part (digits : List Char) : Except ColourFault Nat :=
  if digits.isEmpty then .error .noDigits
  else if digitLimit < digits.length then .error (.tooLong digits.length)
  else .ok (number digits)

/-- Three numbers below 256; all are read before any is compared. -/
def isMix (parts : List (List Char)) : Except ColourFault Bool :=
  if parts.length = 3 then do
    let values ← parts.mapM part
    return values.all (· ≤ 255)
  else .ok false

/-- A colour has a name, six hexadecimal digits, an index or a mix of three parts. -/
def read? (word : List Char) : Except ColourFault (Option (List Char)) :=
  let name := (LetterCase.lower (String.ofList word)).toList
  let known (holds : Bool) := if holds then some name else none
  if names.contains name then .ok (some name)
  else if name.head? = some '#' then
    .ok (known (name.tail.length == 6 && name.tail.all isHexDigit))
  else
    match argument? ['c', 'o', 'l', 'o', 'r', '('] name with
    | some index =>
        .ok (known (!index.isEmpty && index.length ≤ 3 && index.all Char.isDigit &&
          number index ≤ 255))
    | none =>
        match argument? ['r', 'g', 'b', '('] name with
        | some mix =>
            if !mix.isEmpty && mix.all (fun c => c == ',' || Digit.holds c) then
              (isMix (Blank.linesFrom (· == ',') [] mix)).map known
            else .ok none
        | none => .ok none

end Colour

/-! ## Traits -/

inductive Trait where
  | bold | dim | italic | underline | blink | blink2 | reverse | conceal | strike | underline2
  | frame | encircle | overline
  deriving DecidableEq, Repr

namespace Trait

def name : Trait → String
  | bold => "bold"
  | dim => "dim"
  | italic => "italic"
  | underline => "underline"
  | blink => "blink"
  | blink2 => "blink2"
  | reverse => "reverse"
  | conceal => "conceal"
  | strike => "strike"
  | underline2 => "underline2"
  | frame => "frame"
  | encircle => "encircle"
  | overline => "overline"

/-- In the order in which they are written. -/
def all : List Trait :=
  [bold, dim, italic, underline, blink, blink2, reverse, conceal, strike, underline2, frame,
    encircle, overline]

def short : List (String × Trait) :=
  [("d", dim), ("b", bold), ("i", italic), ("u", underline), ("r", reverse), ("c", conceal),
    ("s", strike), ("uu", underline2), ("o", overline)]

def find? (word : String) : Option Trait :=
  (all.find? fun t => t.name == word).or (short.lookup word)

end Trait

/-! ## Styles -/

structure TagStyle where
  /-- The latest wish on a trait comes first. -/
  traits : List (Trait × Bool) := []
  colour : Option (List Char) := none
  background : Option (List Char) := none
  link : Option (List Char) := none

namespace TagStyle

def wish (s : TagStyle) (t : Trait) (wanted : Bool) : TagStyle :=
  { s with traits := (t, wanted) :: s.traits }

def readFrom (s : TagStyle) : List (List Char) → Except ColourFault (Option TagStyle)
  | [] => .ok (some s)
  | word :: rest =>
      let lowered := LetterCase.lower (String.ofList word)
      if lowered = "on" then
        match rest with
        | [] => .ok none
        | word :: rest => do
            match ← Colour.read? word with
            | none => return none
            | some colour => readFrom { s with background := some colour } rest
      else if lowered = "not" then
        match rest with
        | [] => .ok none
        | word :: rest =>
            match Trait.find? (String.ofList word) with
            | none => .ok none
            | some t => readFrom (s.wish t false) rest
      else if lowered = "link" then
        match rest with
        | [] => .ok none
        | word :: rest => readFrom { s with link := some word } rest
      else
        match Trait.find? lowered with
        | some t => readFrom (s.wish t true) rest
        | none => do
            match ← Colour.read? word with
            | none => return none
            | some colour => readFrom { s with colour := some colour } rest

/-- The style that a name asks for, or nothing when the name is no style. -/
def read? (name : String) : Except ColourFault (Option TagStyle) :=
  if String.ofList (Blank.strip name.toList) = "none" then .ok (some {})
  else readFrom {} (Blank.words name.toList)

def traitText (s : TagStyle) (t : Trait) : Option String :=
  (s.traits.lookup t).map fun wanted => if wanted then t.name else "not " ++ t.name

def text (s : TagStyle) : String :=
  let parts :=
    Trait.all.filterMap s.traitText ++ (s.colour.map String.ofList).toList ++
      (s.background.map fun c => "on " ++ String.ofList c).toList ++
      (s.link.map fun l => "link " ++ String.ofList l).toList
  if parts.isEmpty then "none" else " ".intercalate parts

def normalize (name : String) : Except ColourFault String := do
  match ← read? name with
  | some s => return s.text
  | none => return LetterCase.lower (String.ofList (Blank.strip name.toList))

end TagStyle
end PartitionKeys
