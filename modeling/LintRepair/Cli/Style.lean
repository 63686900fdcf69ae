/-
Styles that text is shown in, as a mark names them.

* `Style.Attribute`: what is on or off in a style;
* `Style`: attributes, two colors and a link;
* `Style.ofWords?`: the style that words describe, if they do;
* `Style.normalize`: one name for all descriptions of a style.
-/
import LintRepair.Text.Basic

namespace LintRepair.Cli

/-- Why a text with marks cannot be shown: a mark closes what is not open or
holds what is no value, or a color lacks one of its numbers. -/
inductive MarkFault
  | mismatch
  | noNumber
  deriving DecidableEq, Repr

namespace Style

/-! ### Attributes -/

/-- What is on or off in a style. -/
inductive Attribute
  | bold | dim | italic | underline | blink | blink2 | reverse | conceal | strike | underline2
  | frame | encircle | overline
  deriving DecidableEq, Repr

namespace Attribute

/-- The attributes in the order in which a style lists them, each with its
name and its short name. -/
def table : List (Attribute × String × Option String) :=
  [(bold, "bold", some "b"), (dim, "dim", some "d"), (italic, "italic", some "i"),
    (underline, "underline", some "u"), (blink, "blink", none), (blink2, "blink2", none),
    (reverse, "reverse", some "r"), (conceal, "conceal", some "c"), (strike, "strike", some "s"),
    (underline2, "underline2", some "uu"), (frame, "frame", none), (encircle, "encircle", none),
    (overline, "overline", some "o")]

/-- The attribute with a name or a short name. -/
def ofName? (name : String) : Option Attribute :=
  (table.find? fun (_, long, short) => long == name || short == some name).map (·.1)

end Attribute

/-! ### Colors -/

/-- The names of colors. -/
def colorNames : List String := [
  "default",
  "black", "red", "green", "yellow", "blue", "magenta", "cyan", "white", "bright_black",
  "bright_red", "bright_green", "bright_yellow", "bright_blue", "bright_magenta", "bright_cyan",
  "bright_white", "grey0", "gray0", "navy_blue", "dark_blue", "blue3", "blue1", "dark_green",
  "deep_sky_blue4", "dodger_blue3", "dodger_blue2", "green4", "spring_green4", "turquoise4",
  "deep_sky_blue3", "dodger_blue1", "green3", "spring_green3", "dark_cyan", "light_sea_green",
  "deep_sky_blue2", "deep_sky_blue1", "spring_green2", "cyan3", "dark_turquoise", "turquoise2",
  "green1", "spring_green1", "medium_spring_green", "cyan2", "cyan1", "dark_red", "deep_pink4",
  "purple4", "purple3", "blue_violet", "orange4", "grey37", "gray37", "medium_purple4",
  "slate_blue3", "royal_blue1", "chartreuse4", "dark_sea_green4", "pale_turquoise4", "steel_blue",
  "steel_blue3", "cornflower_blue", "chartreuse3", "cadet_blue", "sky_blue3", "steel_blue1",
  "pale_green3", "sea_green3", "aquamarine3", "medium_turquoise", "chartreuse2", "sea_green2",
  "sea_green1", "aquamarine1", "dark_slate_gray2", "dark_magenta", "dark_violet", "purple",
  "light_pink4", "plum4", "medium_purple3", "slate_blue1", "yellow4", "wheat4", "grey53", "gray53",
  "light_slate_grey", "light_slate_gray", "medium_purple", "light_slate_blue", "dark_olive_green3",
  "dark_sea_green", "light_sky_blue3", "sky_blue2", "dark_sea_green3", "dark_slate_gray3",
  "sky_blue1", "chartreuse1", "light_green", "pale_green1", "dark_slate_gray1", "red3",
  "medium_violet_red", "magenta3", "dark_orange3", "indian_red", "hot_pink3", "medium_orchid3",
  "medium_orchid", "medium_purple2", "dark_goldenrod", "light_salmon3", "rosy_brown", "grey63",
  "gray63", "medium_purple1", "gold3", "dark_khaki", "navajo_white3", "grey69", "gray69",
  "light_steel_blue3", "light_steel_blue", "yellow3", "dark_sea_green2", "light_cyan3",
  "light_sky_blue1", "green_yellow", "dark_olive_green2", "dark_sea_green1", "pale_turquoise1",
  "deep_pink3", "magenta2", "hot_pink2", "orchid", "medium_orchid1", "orange3", "light_pink3",
  "pink3", "plum3", "violet", "light_goldenrod3", "tan", "misty_rose3", "thistle3", "plum2",
  "khaki3", "light_goldenrod2", "light_yellow3", "grey84", "gray84", "light_steel_blue1", "yellow2",
  "dark_olive_green1", "honeydew2", "light_cyan1", "red1", "deep_pink2", "deep_pink1", "magenta1",
  "orange_red1", "indian_red1", "hot_pink", "dark_orange", "salmon1", "light_coral",
  "pale_violet_red1", "orchid2", "orchid1", "orange1", "sandy_brown", "light_salmon1",
  "light_pink1", "pink1", "plum1", "gold1", "navajo_white1", "misty_rose1", "thistle1", "yellow1",
  "light_goldenrod1", "khaki1", "wheat1", "cornsilk1", "grey100", "gray100", "grey3", "gray3",
  "grey7", "gray7", "grey11", "gray11", "grey15", "gray15", "grey19", "gray19", "grey23", "gray23",
  "grey27", "gray27", "grey30", "gray30", "grey35", "gray35", "grey39", "gray39", "grey42",
  "gray42", "grey46", "gray46", "grey50", "gray50", "grey54", "gray54", "grey58", "gray58",
  "grey62", "gray62", "grey66", "gray66", "grey70", "gray70", "grey74", "gray74", "grey78",
  "gray78", "grey82", "gray82", "grey85", "gray85", "grey89", "gray89", "grey93", "gray93"]

/-- Whether the parts of a color are three numbers below 256. -/
def areShades (parts : List Text) : Except MarkFault Bool :=
  if parts.length ≠ 3 then .ok false
  else if parts.any (·.isEmpty) then .error .noNumber
  else .ok (parts.all fun part =>
    part.foldl (fun n c => 10 * n + (Text.decimalValue? c).getD 0) 0 < 256)

/-- What stands between a head and a closing parenthesis. -/
def argument? (head : String) (t : Text) : Option Text :=
  if Text.startsWith t head.toList ∧ Text.endsWith t [')'] then
    some ((t.drop head.length).dropLast)
  else none

/-- Whether a text is a color: a name, six hexadecimal digits, a number of the
palette or the three shades that are mixed. -/
def isColor (t : Text) : Except MarkFault Bool :=
  let isHex (c : Char) : Bool := Text.isAsciiDigit c || ('a' ≤ c && c ≤ 'f')
  if colorNames.contains (String.ofList t) then .ok true
  else match t with
  | '#' :: digits => .ok (digits.length = 6 ∧ digits.all isHex)
  | _ =>
    match argument? "color(" t, argument? "rgb(" t with
    | some digits, _ =>
      .ok (1 ≤ digits.length ∧ digits.length ≤ 3 ∧ digits.all Text.isAsciiDigit ∧
        (String.ofList digits).toNat?.any (· < 256))
    | none, some shades =>
      if shades.isEmpty ∨ shades.any (fun c => (Text.decimalValue? c).isNone && c != ',') then
        .ok false
      else areShades (shades.splitOn ',')
    | none, none => .ok false

end Style

/-! ### Styles -/

/-- How text is shown. -/
structure Style where
  /-- What is on or off; the latest word on an attribute comes first. -/
  attributes : List (Style.Attribute × Bool) := []
  color? : Option Text := none
  /-- The color behind the text. -/
  ground? : Option Text := none
  link? : Option Text := none

namespace Style

/-- A style with what some words add to it; none if they describe no style. -/
def with? (s : Style) : List Text → Except MarkFault (Option Style)
  | [] => .ok (some s)
  | word :: rest =>
    let low := Text.lower word
    match String.ofList low, rest with
    | "on", color :: rest => do
      if ← isColor (Text.lower color) then with? { s with ground? := some (Text.lower color) } rest
      else return none
    | "link", address :: rest => with? { s with link? := some address } rest
    | "not", name :: rest =>
      match Attribute.ofName? (String.ofList name) with
      | some a => with? { s with attributes := (a, false) :: s.attributes } rest
      | none => .ok none
    | name, rest =>
      match Attribute.ofName? name with
      | some a => with? { s with attributes := (a, true) :: s.attributes } rest
      | none => do
        if ← isColor low then with? { s with color? := some low } rest
        else return none
termination_by words => words.length
decreasing_by all_goals simp only [List.length_cons] at *; omega

/-- The words of a description. -/
def wordsOf (t : Text) : List Text := (t.splitOnP Text.isBlank).filter (!·.isEmpty)

/-- The style that words describe; none if they describe no style. -/
def ofWords? (words : List Text) : Except MarkFault (Option Style) := with? {} words

/-- The words that describe a style, in a fixed order. -/
def toWords (s : Style) : List Text :=
  let attributes := Attribute.table.filterMap fun (a, name, _) =>
    (s.attributes.lookup a).map fun set => (if set then name else "not " ++ name).toList
  let words := attributes ++ s.color?.toList ++
    (s.ground?.map fun c => "on ".toList ++ c).toList ++
    (s.link?.map fun l => "link ".toList ++ l).toList
  if words.isEmpty then ["none".toList] else words

/-- One name for all descriptions of a style. What describes no style is its
own name, in small letters. -/
def normalize (t : Text) : Except MarkFault Text := do
  match ← ofWords? (wordsOf t) with
  | some s => return [' '].intercalate s.toWords
  | none => return Text.lower (Text.trim t)

end Style

end LintRepair.Cli
