import Kaleidoscope.Source.Span
import Kaleidoscope.Text.Width

/-!
# Lines of a source

A source is cut after every line break; what follows the last one is a line too, even if it is
empty. Places are shown as a line and a column, both counted from one; the column counts
characters. Where text is drawn, tabs reach to the next multiple of four columns.
-/
namespace Kaleidoscope

/-- A line of a source. -/
structure SourceLine where
  /-- The offset of its first byte. -/
  start : Nat
  /-- Its characters, the line break included. -/
  text : List Char

namespace SourceLine

/-- The offset after its last byte. -/
def stop (line : SourceLine) : Nat := line.start + Span.width line.text

/-- Cut a text that starts at an offset; `taken` holds the characters of the line so far, the last
one first. -/
def cut (start : Nat) (taken : List Char) : List Char → List SourceLine
  | [] => [⟨start, taken.reverse⟩]
  | c :: rest =>
    if c = '\n' then
      let line : SourceLine := ⟨start, (c :: taken).reverse⟩
      line :: cut line.stop [] rest
    else cut start (c :: taken) rest

/-- The lines of a source, at least one. -/
def ofSource (source : String) : List SourceLine := cut 0 [] source.toList

/-- The position of the line that holds an offset: the last line that starts at or before it. -/
def indexAt (lines : List SourceLine) (offset : Nat) : Nat :=
  (lines.takeWhile (·.start ≤ offset)).length - 1

/-- How many characters end at or before a number of bytes. -/
def charactersWithin : Nat → List Char → Nat
  | _, [] => 0
  | room, c :: rest => if c.utf8Size ≤ room then charactersWithin (room - c.utf8Size) rest + 1 else 0

/-- The column of an offset, counted from one. -/
def column (line : SourceLine) (offset : Nat) : Nat :=
  charactersWithin (min offset line.stop - line.start) line.text + 1

/-- The characters of a line as they are shown: line breaks and null characters at its end are
left out. -/
def shown (line : SourceLine) : List Char :=
  (line.text.reverse.dropWhile fun c => c = '\n' || c = '\r' || c = '\x00').reverse

end SourceLine

/-- A character as it is drawn. -/
structure Drawn where
  /-- Its offset within the line. -/
  offset : Nat
  /-- How many columns it takes. -/
  columns : Nat
  /-- The character. -/
  char : Char

namespace Drawn

/-- The offset just after the character. -/
def stop (drawn : Drawn) : Nat := drawn.offset + drawn.char.utf8Size

/-- Draw characters from an offset and a column on. -/
def ofChars (offset column : Nat) : List Char → List Drawn
  | [] => []
  | c :: rest =>
    let width := if c = '\t' then 4 - column % 4 else Text.columns c
    ⟨offset, width, c⟩ :: ofChars (offset + c.utf8Size) (column + width) rest

/-- The text of a character: spaces for a tab. -/
def text (drawn : Drawn) : String :=
  if drawn.char = '\t' then String.ofList (List.replicate drawn.columns ' ')
  else drawn.char.toString

end Drawn

end Kaleidoscope
