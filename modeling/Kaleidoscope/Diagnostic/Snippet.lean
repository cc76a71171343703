import Kaleidoscope.Diagnostic.Style
import Kaleidoscope.Source.Lines
import Kaleidoscope.Text.Blank

/-!
# Snippets of source

An error is shown in the lines of source it belongs to. The place is named first, then the lines
follow with their numbers; below them carets mark the text in question and carry the message. A
message stands beside its carets if it is the last of the line and overlaps no other, and hangs
below them otherwise. Text over several lines is marked by a bracket on the left, which starts in
front of the first line or below it and ends below the last.

Of a marked text over many lines only its first four lines and its last two are shown. A single
line between two that are shown is shown as well; more of them give way to a dot.
-/
namespace Kaleidoscope

/-- How important marked text is. -/
inductive Rank where
  /-- The text in question. -/
  | primary
  /-- Text that matters for it. -/
  | secondary
deriving DecidableEq

namespace Rank

/-- The look of a mark. -/
def style : Rank → Style
  | primary => .dim .red
  | secondary => .dim .blue

/-- The mark under a character. -/
def caret : Rank → String
  | primary => "^"
  | secondary => "-"

/-- The end of a bracket. -/
def hook : Rank → String
  | primary => "^"
  | secondary => "'"

/-- The more important of some ranks. -/
def highest? (ranks : List Rank) : Option Rank :=
  if ranks.contains primary then some primary
  else if ranks.contains secondary then some secondary
  else none

end Rank

/-- Marked text and the message about it. -/
structure Label where
  /-- The text. -/
  span : Span
  /-- The message; none if empty. -/
  message : String

/-- A mark within one line. -/
structure Mark where
  /-- How important it is. -/
  rank : Rank
  /-- The offset of its first byte within the line. -/
  start : Nat
  /-- The offset after its last byte. -/
  stop : Nat
  /-- The message. -/
  message : String

namespace Mark

/-- Whether two ranges share a byte. -/
def overlaps (start stop otherStart otherStop : Nat) : Bool :=
  max start otherStart < min stop otherStop

/-- Whether a mark covers a part of a character. -/
def covers (mark : Mark) (drawn : Drawn) : Bool :=
  overlaps mark.start mark.stop drawn.offset drawn.stop

/-- Whether a mark comes before another: by start and then by end. -/
def precedes (mark other : Mark) : Bool :=
  mark.start < other.start || (mark.start = other.start && mark.stop < other.stop)

/-- Whether two marks cover the same text. -/
def isLevel (mark other : Mark) : Bool := mark.start = other.start && mark.stop = other.stop

/-- Put a mark among others that are in order. Of marks over the same text the first that was put
there stays the last, and the others stand before it in the order they came. -/
def insert (mark : Mark) : List Mark → List Mark
  | [] => [mark]
  | other :: rest =>
    if other.precedes mark || (other.isLevel mark && rest.head?.any mark.isLevel) then
      other :: insert mark rest
    else mark :: other :: rest

end Mark

/-- What a bracket does at a line. -/
inductive BracketPart where
  /-- It starts at an offset of the line. -/
  | top (start : Nat)
  /-- It runs along the line. -/
  | left
  /-- It ends at an offset of the line, with its message. -/
  | bottom (stop : Nat) (message : String)

/-- A part of a bracket, in a column of its own. -/
structure Bracket where
  /-- The column, counted from zero. -/
  column : Nat
  /-- How important the bracket is. -/
  rank : Rank
  /-- What it does here. -/
  part : BracketPart

/-- A line that is shown. -/
structure ShownLine where
  /-- Its number, counted from one. -/
  number : Nat
  /-- Its characters. -/
  chars : List Char
  /-- The marks within it, in order. -/
  marks : List Mark
  /-- The brackets at it, by column. -/
  brackets : List Bracket

namespace ShownLine

/-- The characters as they are drawn. -/
def drawn (line : ShownLine) : List Drawn := Drawn.ofChars 0 0 line.chars

/-- The width of the blank characters at the start of the line. -/
def indent (line : ShownLine) : Nat := Span.width (line.chars.takeWhile Text.isBlank)

/-- Whether a bracket that starts at an offset starts in front of the line. -/
def startsInFront (line : ShownLine) (start : Nat) : Bool := start ≤ line.indent

end ShownLine

namespace Snippet

/-- The margins of a snippet. -/
structure Margins where
  /-- The width of line numbers. -/
  numbers : Nat
  /-- How many columns the brackets take. -/
  brackets : Nat

/-- Spaces. -/
def spaces (count : Nat) : Ink := .text (String.ofList (List.replicate count ' '))

/-- The same text some number of times. -/
def repeated (count : Nat) (text : String) : String := String.join (List.replicate count text)

/-- The vertical border. -/
def border : List Ink := Ink.painted (.dim .blue) "│"

/-- The left margin of a line without number, the border included. -/
def gutter (margins : Margins) : List Ink := spaces margins.numbers :: .text " " :: border

/-- The left margin of a line with a number, the border included. -/
def numberedGutter (margins : Margins) (number : Nat) : List Ink :=
  let digits := Nat.repr number
  let padding := String.ofList (List.replicate (margins.numbers - digits.length) ' ')
  Ink.painted (.dim .blue) (padding ++ digits) ++ .text " " :: border

/-- The bracket found in a column. -/
def bracketAt (brackets : List Bracket) (column : Nat) : Option Bracket :=
  brackets.find? (·.column = column)

/-- The left side of a bracket, after a space or the underline that crosses it. -/
def leftSide (rank : Rank) (underline : Option Rank) : List Ink :=
  let before := match underline with
    | none => [.text " "]
    | some crossing => Ink.painted crossing.style "─"
  before ++ Ink.painted rank.style "│"

/-- The upper corner of a bracket. -/
def upperCorner (rank : Rank) : List Ink := .text " " :: Ink.painted rank.style "╭"

/-- The lower corner of a bracket. -/
def lowerCorner (rank : Rank) : List Ink := .text " " :: Ink.painted rank.style "╰"

/-- A column without bracket, or the underline that crosses it. -/
def emptyColumn : Option Rank → List Ink
  | none => [.text "  "]
  | some crossing => Ink.painted crossing.style "──"

/-- The brackets beside a line of carets: those that have started and not ended. -/
def innerGutter (margins : Margins) (brackets : List Bracket) : List Ink :=
  ((List.range margins.brackets).map fun column =>
    match bracketAt brackets column with
    | some ⟨_, rank, .left⟩ | some ⟨_, rank, .bottom ..⟩ => leftSide rank none
    | _ => emptyColumn none).flatten

/-- The brackets beside a line of source. -/
def sourceGutter (margins : Margins) (line : ShownLine) : List Ink :=
  ((List.range margins.brackets).map fun column =>
    match bracketAt line.brackets column with
    | some ⟨_, rank, .top start⟩ =>
      if line.startsInFront start then upperCorner rank else emptyColumn none
    | some ⟨_, rank, _⟩ => leftSide rank none
    | none => emptyColumn none).flatten

/-- Whether a character is part of the text in question. -/
def isPrimary (line : ShownLine) (drawn : Drawn) : Bool :=
  (line.marks.any fun mark => mark.rank = .primary && mark.covers drawn) ||
    line.brackets.any fun bracket => bracket.rank = .primary &&
      match bracket.part with
      | .top start => start ≤ drawn.offset
      | .left => true
      | .bottom stop _ => drawn.stop ≤ stop

/-- The characters of a line, those in question in their style. -/
def sourceText (line : ShownLine) (painting : Bool) : List Drawn → List Ink
  | [] => if painting then [.style .usual] else []
  | drawn :: rest =>
    let primary := isPrimary line drawn
    let change :=
      if primary && !painting then [Ink.style Rank.primary.style]
      else if !primary && painting then [Ink.style .usual]
      else []
    change ++ .text drawn.text :: sourceText line primary rest

/-- A line of source with its number. -/
def sourceLine (margins : Margins) (line : ShownLine) : List Ink :=
  numberedGutter margins line.number ++ sourceGutter margins line ++ .text " " ::
    (sourceText line false line.drawn ++ [.newline])

/-- The mark whose message stands beside the carets: the last one that reaches farthest, if it has
a message and overlaps no other. The position among the marks comes with it. -/
def trailing? (marks : List Mark) : Option (Nat × Mark) :=
  let indexed := marks.mapIdx fun index mark => (index, mark)
  let (_, candidate) := indexed.foldl (fun (reach, candidate) (index, mark) =>
    let reach := max reach mark.stop
    if mark.stop = reach then
      (reach, if mark.message.isEmpty then none else some (index, mark))
    else (reach, candidate)) ((0 : Nat), (none : Option (Nat × Mark)))
  candidate.filter fun (chosen, mark) =>
    !indexed.any fun (index, other) =>
      index ≠ chosen && Mark.overlaps mark.start mark.stop other.start other.stop

/-- The marks whose messages hang below the carets. -/
def hanging (marks : List Mark) (trailing : Option (Nat × Mark)) : List Mark :=
  (marks.mapIdx fun index mark => (index, mark)).filterMap fun (index, mark) =>
    if mark.message.isEmpty || trailing.any (·.1 = index) then none else some mark

/-- The carets under some characters, up to an offset. -/
def carets (marks : List Mark) (reach : Nat) (previous : Option Rank) : List Drawn → List Ink
  | [] => if previous.isSome then [.style .usual] else []
  | drawn :: rest =>
    let rank := Rank.highest? ((marks.filter (·.covers drawn)).map (·.rank))
    let change :=
      if rank = previous then []
      else match rank with
        | none => [Ink.style .usual]
        | some rank => [Ink.style rank.style]
    let drawing := match rank with
      | some rank => [Ink.text (repeated drawn.columns rank.caret)]
      | none => if drawn.offset < reach then [Ink.text (repeated drawn.columns " ")] else []
    change ++ drawing ++ carets marks reach rank rest

/-- The lines from hanging messages up to their carets. -/
def pointers (marks : List Mark) (farthest : Nat) (drawn : List Drawn) : List Ink :=
  (drawn.map fun char =>
    let starting := marks.filter fun mark => char.offset ≤ mark.start && mark.start < char.stop
    let (pointer, used) := match Rank.highest? (starting.map (·.rank)) with
      | none => ([], 0)
      | some rank => (Ink.painted rank.style "│", 1)
    if char.offset ≤ farthest then pointer ++ [spaces (char.columns - used)] else pointer).flatten

/-- The carets and messages of the marks of a line. -/
def markLines (margins : Margins) (line : ShownLine) : List Ink :=
  if line.marks.isEmpty then []
  else
    let front := gutter margins ++ innerGutter margins line.brackets ++ [.text " "]
    let reach := (line.marks.map (·.stop)).foldl max 0
    let farthest := (line.marks.map (·.start)).foldl max 0
    let ending : Drawn := ⟨Span.width line.chars, 1, '\x00'⟩
    let trailing := trailing? line.marks
    let message := match trailing with
      | some (_, mark) => .text " " :: Ink.painted mark.rank.style mark.message
      | none => []
    let below := hanging line.marks trailing
    let stems := if below.isEmpty then []
      else front ++ pointers below farthest line.drawn ++ [.newline]
    let messages := (below.reverse.map fun mark =>
      front ++ pointers below farthest (line.drawn.takeWhile (·.offset < mark.start)) ++
        Ink.painted mark.rank.style mark.message ++ [.newline]).flatten
    front ++ carets line.marks reach none (line.drawn ++ [ending]) ++ message ++ [.newline] ++
      stems ++ messages

/-- The columns of the brackets beside the corner of one of them, and the underline that leads from
the corner to the right. -/
def cornerGutter (brackets : List Bracket) (corner : Bracket) :
    Option Rank → List Nat → List Ink
  | _, [] => []
  | underline, column :: rest =>
    match bracketAt brackets column with
    | none => emptyColumn underline ++ cornerGutter brackets corner underline rest
    | some bracket =>
      if column = corner.column then
        let drawing := match bracket.part with
          | .bottom .. => lowerCorner corner.rank
          | _ => upperCorner corner.rank
        drawing ++ cornerGutter brackets corner (some bracket.rank) rest
      else
        let runs := match bracket.part with
          | .left => true
          | .top _ => column < corner.column
          | .bottom .. => corner.column < column
        (if runs then leftSide bracket.rank underline else emptyColumn underline) ++
          cornerGutter brackets corner underline rest

/-- The underline from the corner of a bracket to the text, and its message. -/
def underline (line : ShownLine) (rank : Rank) (reach : Nat) (message : String) : List Ink :=
  let columns := (line.drawn.takeWhile (·.offset < reach)).foldr (·.columns + ·) 0
  let text := repeated columns "─" ++ rank.hook ++ if message.isEmpty then "" else " " ++ message
  Ink.painted rank.style text ++ [.newline]

/-- The upper and lower ends of the brackets at a line. -/
def bracketLines (margins : Margins) (line : ShownLine) : List Ink :=
  (line.brackets.map fun bracket =>
    let corner (reach : Nat) (message : String) :=
      gutter margins ++
        cornerGutter line.brackets bracket none (List.range margins.brackets) ++
        underline line bracket.rank reach message
    match bracket.part with
    | .left => []
    | .top start => if line.startsInFront start then [] else corner (start + 1) ""
    | .bottom stop message => corner stop message).flatten

/-- A line of source and everything below it. -/
def fullLine (margins : Margins) (line : ShownLine) : List Ink :=
  sourceLine margins line ++ markLines margins line ++ bracketLines margins line

end Snippet

/-- Marked text in a source. -/
structure Snippet where
  /-- The name of the source. -/
  path : String
  /-- Its text. -/
  source : String
  /-- The text in question. -/
  label : Label
  /-- Other text that matters for it. -/
  others : List Label

namespace Snippet

/-- Marked text with its rank and the positions of its first and last line. -/
structure Placed where
  /-- How important it is. -/
  rank : Rank
  /-- The text and its message. -/
  label : Label
  /-- The line it starts in. -/
  first : Nat
  /-- The line it ends in. -/
  last : Nat

/-- All labels with their lines, the one in question first. -/
def placed (snippet : Snippet) (lines : List SourceLine) : List Placed :=
  ((Rank.primary, snippet.label) :: snippet.others.map (Rank.secondary, ·)).map
    fun (rank, label) =>
      ⟨rank, label, SourceLine.indexAt lines label.span.start.toNat,
        SourceLine.indexAt lines label.span.stop.toNat⟩

/-- The marks of a line. A mark covers at least one byte. -/
def marksAt (labels : List Placed) (index : Nat) (line : SourceLine) : List Mark :=
  (labels.filter fun placed => placed.first = placed.last && placed.first = index).foldl
    (fun marks placed =>
      let start := placed.label.span.start.toNat - line.start
      Mark.insert
        ⟨placed.rank, start, max (placed.label.span.stop.toNat - line.start) (start + 1),
          placed.label.message⟩ marks)
    []

/-- The parts of brackets at a line; each label over several lines has a column of its own. -/
def bracketsAt (labels : List Placed) (index : Nat) (line : SourceLine) : List Bracket :=
  ((labels.filter fun placed => placed.first ≠ placed.last).mapIdx fun column placed =>
    if placed.first = index then
      some ⟨column, placed.rank, .top (placed.label.span.start.toNat - line.start)⟩
    else if placed.last = index then
      some ⟨column, placed.rank,
        .bottom (placed.label.span.stop.toNat - line.start) placed.label.message⟩
    else if placed.first < index && index < placed.last then some ⟨column, placed.rank, .left⟩
    else none).filterMap id

/-- Whether a label makes a line be shown. -/
def shows (placed : Placed) (index : Nat) : Bool :=
  index = placed.first || index = placed.last ||
    (placed.first < index && index < placed.last &&
      (index - placed.first ≤ 3 || placed.last - index ≤ 1))

/-- The lines with everything marked in them. -/
def markedLines (lines : List SourceLine) (labels : List Placed) : List ShownLine :=
  lines.mapIdx fun index line =>
    ⟨index + 1, line.shown, marksAt labels index line, bracketsAt labels index line⟩

/-- The lines to show, from a position on, with what fills the gaps between them. Beside the dot of
a gap run the brackets of the line before it, one that has just ended included. -/
def body (margins : Margins) (lines : List ShownLine) : List Nat → List Ink
  | [] => []
  | index :: rest =>
    let current := match lines[index]? with
      | some line => fullLine margins line
      | none => []
    let gap := match rest with
      | [] => []
      | next :: _ =>
        if next = index + 1 then []
        else if next = index + 2 then
          match lines[index + 1]? with
          | some line => fullLine margins { line with marks := [] }
          | none => []
        else
          let brackets := match lines[index]? with
            | some line => line.brackets
            | none => []
          spaces margins.numbers :: .text " " :: Ink.painted (.dim .blue) "·" ++
            innerGutter margins brackets ++ [.newline]
    current ++ gap ++ body margins lines rest

/-- A snippet with the place it starts at. -/
def render (snippet : Snippet) : List Ink :=
  let lines := SourceLine.ofSource snippet.source
  let labels := snippet.placed lines
  let widest := (labels.map fun placed => max placed.first placed.last + 1).foldl max 0
  let margins : Margins :=
    ⟨(Nat.repr widest).length, (labels.filter fun placed => placed.first ≠ placed.last).length⟩
  let offset := snippet.label.span.start.toNat
  let position := SourceLine.indexAt lines offset
  let column := match lines[position]? with
    | some line => line.column offset
    | none => 1
  let place := snippet.path ++ ":" ++ Nat.repr (position + 1) ++ ":" ++ Nat.repr column
  let shown := (List.range lines.length).filter fun index => labels.any (shows · index)
  spaces margins.numbers :: .text " " :: Ink.painted (.dim .blue) "┌─" ++ .text " " ::
    .text place :: .newline ::
    (gutter margins ++ innerGutter margins [] ++ [.newline] ++
      body margins (markedLines lines labels) shown)

end Snippet

end Kaleidoscope
