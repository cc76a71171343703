/-!
# Styled text

Messages are text with changes of style in between. Written plainly, the changes are left out;
written for a terminal, each becomes the control sequences that first reset the style and then set
weight and colour.
-/
namespace Kaleidoscope

/-- A colour. -/
inductive Hue where
  /-- Errors. -/
  | red
  /-- Success. -/
  | green
  /-- Borders and numbers. -/
  | blue
  /-- Faults of the program itself, and what is being done. -/
  | magenta
  /-- Information. -/
  | cyan
deriving DecidableEq

namespace Hue

/-- The number of a colour on a terminal. -/
def code : Hue → Nat
  | red => 1
  | green => 2
  | blue => 4
  | magenta => 5
  | cyan => 6

end Hue

/-- The look of text. -/
structure Style where
  /-- Its colour, if it is not the usual one. -/
  hue : Option Hue
  /-- Whether the colour is a bright one. -/
  bright : Bool
  /-- Whether the text is bold. -/
  bold : Bool
deriving DecidableEq

namespace Style

/-- The usual look. -/
def usual : Style := ⟨none, false, false⟩

/-- A dim colour. -/
def dim (hue : Hue) : Style := ⟨some hue, false, false⟩

/-- Bold text in the usual colour. -/
def strong : Style := ⟨none, false, true⟩

/-- Bold text in a bright colour. -/
def vivid (hue : Hue) : Style := ⟨some hue, true, true⟩

/-- The control sequences that set a style. -/
def sequence (style : Style) : String :=
  let weight := if style.bold then "\x1b[1m" else ""
  let colour := match style.hue with
    | none => ""
    | some hue =>
      if style.bright then "\x1b[38;5;" ++ Nat.repr (8 + hue.code) ++ "m"
      else "\x1b[3" ++ Nat.repr hue.code ++ "m"
  "\x1b[0m" ++ weight ++ colour

end Style

/-- A change of style or some characters. -/
inductive Ink where
  /-- What follows has this style. -/
  | style (style : Style)
  /-- Characters. -/
  | text (text : String)
deriving DecidableEq

namespace Ink

/-- Characters in a style of their own. -/
def painted (style : Style) (text : String) : List Ink := [.style style, .text text, .style .usual]

/-- The end of a line. -/
def newline : Ink := .text "\n"

/-- The characters without their styles. -/
def plain (inks : List Ink) : String :=
  String.join (inks.map fun
    | .style _ => ""
    | .text chars => chars)

/-- The characters with control sequences for their styles. -/
def terminal (inks : List Ink) : String :=
  String.join (inks.map fun
    | .style look => look.sequence
    | .text chars => chars)

/-- The characters, with control sequences if colour is wanted. -/
def write (colour : Bool) (inks : List Ink) : String := if colour then terminal inks else plain inks

end Ink

end Kaleidoscope
