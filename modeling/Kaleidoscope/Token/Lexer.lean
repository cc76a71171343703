import Kaleidoscope.Decimal.Read
import Kaleidoscope.Text.Blank
import Kaleidoscope.Text.Letter
import Kaleidoscope.Text.Quoted
import Kaleidoscope.Token.Basic
import Kaleidoscope.Token.Error

/-!
# Reading tokens from a source

A lexer sees a source through a window of two characters, the current one and the one that follows.
Every character comes with its offset; past the last one the offsets are counted on
(`Lexer.advance`). The lexer moves the window over white space and comments, then over the characters
of a token or of a malformed number, whose span goes from the offset before these moves to the one
after them (`Lexer.read`). Reading goes on after errors and ends with the token that marks the end of
the input; `Token.scan` keeps only what precedes the first error.

The main statement here is that whatever is read before the end takes some characters
(`Lexer.remaining_read_lt`), which is why reading a source comes to an end.
-/
namespace Kaleidoscope

/-- What the characters of a token stand for. -/
def Token.literalOf (kind : Token.Kind) (text : List Char) : Option Token.Literal :=
  match kind with
  | .ident | .operator => some (.word (String.ofList text))
  | .number => some (.value (Decimal.ofLiteral text))
  | _ => none

/-- A token or an error. -/
abbrev Item := Except LexicalError Token

/-- Whether an item is the end of the input. -/
def Item.isEnd : Item → Bool
  | .ok token => token.kind = .eof
  | .error _ => false

/-- A window of two characters on a source, and the characters behind it. -/
structure Lexer where
  /-- The offset of the current character. -/
  position : UInt32
  /-- The offset of the character that follows. -/
  nextPosition : UInt32
  /-- The current character. -/
  current : Option Char
  /-- The character that follows. -/
  following : Option Char
  /-- The line reached, counted from one. -/
  line : UInt32
  /-- Whether the end of the input has been read. -/
  finished : Bool
  /-- The characters behind the window with their offsets. -/
  input : List (UInt32 × Char)

namespace Lexer

/-- Characters with their offsets, of which the first is given. -/
def indices (offset : Nat) : List Char → List (UInt32 × Char)
  | [] => []
  | c :: rest => (.ofNat offset, c) :: indices (offset + c.utf8Size) rest

/-- Move the window by one character. Behind the last character there is no offset to take over: the
one after it is counted on by the width of the character, and by one from there on. -/
def advance (lexer : Lexer) : Lexer :=
  match lexer.input with
  | (offset, c) :: input =>
    { lexer with
      position := lexer.nextPosition
      nextPosition := offset
      current := lexer.following
      following := some c
      input := input }
  | [] =>
    let width : UInt32 := match lexer.following with
      | some c => .ofNat c.utf8Size
      | none => 1
    { lexer with
      position := lexer.nextPosition
      nextPosition := lexer.nextPosition + width
      current := lexer.following
      following := none }

/-- A lexer in front of some characters: the window is empty until it has been moved twice. -/
def start (input : List (UInt32 × Char)) : Lexer :=
  let empty : Lexer := ⟨0, 0, none, none, 1, false, input⟩
  empty.advance.advance

/-- A lexer at the start of a source. -/
def ofSource (source : String) : Lexer := start (indices 0 source.toList)

/-- The number of characters in the window and behind it. -/
def remaining (lexer : Lexer) : Nat :=
  lexer.current.toList.length + lexer.following.toList.length + lexer.input.length

/-- Moving the window takes the current character, if there is one. -/
theorem remaining_advance (lexer : Lexer) :
    lexer.advance.remaining + lexer.current.toList.length = lexer.remaining := by
  obtain ⟨position, nextPosition, current, following, line, finished, input⟩ := lexer
  cases input with
  | nil =>
    simp only [advance, remaining, Option.toList_none, List.length_nil]
    omega
  | cons pair input =>
    simp only [advance, remaining, Option.toList_some, List.length_cons, List.length_nil]
    omega

/-- Moving the window adds no characters. -/
theorem remaining_advance_le (lexer : Lexer) : lexer.advance.remaining ≤ lexer.remaining :=
  remaining_advance lexer ▸ Nat.le_add_right _ _

/-- Moving the window over a character leaves fewer. -/
theorem remaining_advance_lt {lexer : Lexer} {c : Char} (here : lexer.current = some c) :
    lexer.advance.remaining < lexer.remaining := by
  rw [← remaining_advance lexer, here]
  exact Nat.lt_succ_self _

/-- Move over a number of characters and collect them. -/
def take : Nat → Lexer → List Char × Lexer
  | 0, lexer => ([], lexer)
  | count + 1, lexer =>
    let (text, last) := take count lexer.advance
    (lexer.current.toList ++ text, last)

/-- Move over all characters of some kind and collect them. -/
def takeWhile (holds : Char → Bool) (lexer : Lexer) : List Char × Lexer :=
  match _here : lexer.current with
  | some c =>
    if holds c then
      let (text, last) := lexer.advance.takeWhile holds
      (c :: text, last)
    else ([], lexer)
  | none => ([], lexer)
termination_by lexer.remaining
decreasing_by exact remaining_advance_lt _here

section Collected

variable {holds : Char → Bool} {lexer : Lexer} {c : Char}

/-- A character of the kind is collected. -/
theorem takeWhile_of_holds (here : lexer.current = some c) (own : holds c = true) :
    lexer.takeWhile holds =
      (c :: (lexer.advance.takeWhile holds).1, (lexer.advance.takeWhile holds).2) := by
  rw [takeWhile]
  split
  · next d found =>
    obtain rfl := Option.some.inj (here.symm.trans found)
    rw [if_pos own]
  · next none => exact absurd (none.symm.trans here) (by simp)

/-- A character of another kind is not collected. -/
theorem takeWhile_of_not (other : ∀ c ∈ lexer.current, holds c = false) :
    lexer.takeWhile holds = ([], lexer) := by
  rw [takeWhile]
  split
  · next c found => rw [if_neg (by simp [other c found])]
  · rfl

/-- Collecting characters adds none. -/
theorem remaining_take_le (count : Nat) : ∀ lexer : Lexer,
    (lexer.take count).2.remaining ≤ lexer.remaining := by
  induction count with
  | zero => exact fun _ => Nat.le_refl _
  | succ count hypothesis =>
    exact fun lexer => Nat.le_trans (hypothesis lexer.advance) (remaining_advance_le lexer)

/-- Collecting characters of some kind adds none. -/
theorem remaining_takeWhile_le (holds : Char → Bool) (lexer : Lexer) :
    (lexer.takeWhile holds).2.remaining ≤ lexer.remaining := by
  fun_induction takeWhile holds lexer with
  | case1 lexer c here own text last collected hypothesis =>
    rw [collected] at hypothesis
    exact Nat.le_trans hypothesis (remaining_advance_le lexer)
  | case2 => exact Nat.le_refl _
  | case3 => exact Nat.le_refl _

/-- Collecting characters from one of the kind on leaves fewer. -/
theorem remaining_takeWhile_lt (here : lexer.current = some c) (own : holds c = true) :
    (lexer.takeWhile holds).2.remaining < lexer.remaining := by
  rw [takeWhile_of_holds here own]
  exact Nat.lt_of_le_of_lt (remaining_takeWhile_le holds _) (remaining_advance_lt here)

end Collected

/-- Whether a character belongs to the comment it stands in, which ends before a line break. -/
def staysInComment (c : Char) : Bool := c ≠ '\n' && c ≠ '\r'

/-- Move over white space and comments. A comment starts with a number sign. -/
def skip (lexer : Lexer) : Lexer :=
  match _here : lexer.current with
  | some c =>
    if c = '\n' then skip { lexer.advance with line := lexer.line + 1 }
    else if Text.isBlank c then skip lexer.advance
    else if _sign : c = '#' then skip (lexer.takeWhile staysInComment).2
    else lexer
  | none => lexer
termination_by lexer.remaining
decreasing_by
  · exact remaining_advance_lt _here
  · exact remaining_advance_lt _here
  · exact remaining_takeWhile_lt _here (_sign ▸ by decide)

/-- The token of some characters from one place of the window to another. -/
def token (start last : Lexer) (kind : Token.Kind) (text : List Char) : Item :=
  .ok ⟨kind, String.ofList text, last.line, ⟨start.position, last.position⟩,
    Token.literalOf kind text⟩

/-- The malformed number from one place of the window to another. -/
def failure (start last : Lexer) (cause : LexicalCause) : Item :=
  .error ⟨cause, ⟨start.position, last.position⟩, last.line⟩

/-- A token of as many characters as are given. -/
def mark (lexer : Lexer) (count : Nat) (kind : Token.Kind) : Item × Lexer :=
  let (text, last) := lexer.take count
  (lexer.token last kind text, last)

/-- The longest word ahead: a reserved word or an identifier. -/
def word (lexer : Lexer) : Item × Lexer :=
  let (text, last) := lexer.takeWhile Text.isAlphanumeric
  let kind := match Keyword.ofText? (String.ofList text) with
    | some keyword => Token.Kind.keyword keyword
    | none => .ident
  (lexer.token last kind text, last)

/-- The number ahead. A point needs a digit after it, and a second point makes the whole number
malformed. -/
def number (lexer : Lexer) : Item × Lexer :=
  let (whole, middle) := lexer.takeWhile Char.isDigit
  if middle.current = some '.' then
    if middle.following.any Char.isDigit then
      let (fraction, last) := middle.advance.takeWhile Char.isDigit
      if last.current = some '.' then
        let last := (last.advance.takeWhile Char.isDigit).2
        (lexer.failure last .repeatedPoint, last)
      else (lexer.token last .number (whole ++ '.' :: fraction), last)
    else (lexer.failure middle.advance .missingFraction, middle.advance)
  else (lexer.token middle .number whole, middle)

/-- The token or error that starts with a character, the current one. -/
def readFrom (lexer : Lexer) (c : Char) : Item × Lexer :=
  match c with
  | '(' => lexer.mark 1 .leftParen
  | ')' => lexer.mark 1 .rightParen
  | ',' => lexer.mark 1 .comma
  | ';' => lexer.mark 1 .semicolon
  | '=' => if lexer.following = some '=' then lexer.mark 2 .operator else lexer.mark 1 .equal
  | c =>
    if Text.isAlphabetic c then lexer.word
    else if c.isDigit then lexer.number
    else if c = '.' && lexer.following.any Char.isDigit then
      let last := (lexer.advance.takeWhile Char.isDigit).2
      (lexer.failure last .missingWhole, last)
    else lexer.mark 1 .operator

/-- What starts with none of the signs that are tokens of their own kind. -/
theorem readFrom_of_other {c : Char} (other : c ∉ ['(', ')', ',', ';', '=']) (lexer : Lexer) :
    lexer.readFrom c =
      if Text.isAlphabetic c then lexer.word
      else if c.isDigit then lexer.number
      else if c = '.' && lexer.following.any Char.isDigit then
        (lexer.failure (lexer.advance.takeWhile Char.isDigit).2 .missingWhole,
          (lexer.advance.takeWhile Char.isDigit).2)
      else lexer.mark 1 .operator := by
  simp only [List.mem_cons, List.not_mem_nil, or_false, not_or] at other
  unfold readFrom
  split <;> simp_all

/-- The next token or error, and the lexer after it. -/
def read (lexer : Lexer) : Item × Lexer :=
  let place := lexer.skip
  match place.current with
  | some c => place.readFrom c
  | none => (.ok (.endOfInput place.line place.position), place)

/-- The next token or error, unless the end of the input has been read. -/
def next? (lexer : Lexer) : Option (Item × Lexer) :=
  if lexer.finished then none
  else
    let next := lexer.read
    some (next.1, { next.2 with finished := next.1.isEnd })

section Progress

variable {lexer last : Lexer} {item : Item} {c : Char}

/-- Moving over white space and comments adds no characters. -/
theorem remaining_skip_le (lexer : Lexer) : lexer.skip.remaining ≤ lexer.remaining := by
  fun_induction skip lexer with
  | case1 lexer here hypothesis => exact Nat.le_trans hypothesis (remaining_advance_le lexer)
  | case2 lexer c here _ _ hypothesis => exact Nat.le_trans hypothesis (remaining_advance_le lexer)
  | case3 lexer here _ _ hypothesis =>
    exact Nat.le_trans hypothesis (remaining_takeWhile_le staysInComment lexer)
  | case4 => exact Nat.le_refl _
  | case5 => exact Nat.le_refl _

/-- A token takes the current character. -/
theorem remaining_mark_lt (here : lexer.current = some c) (more : Nat) (kind : Token.Kind) :
    (lexer.mark (more + 1) kind).2.remaining < lexer.remaining :=
  Nat.lt_of_le_of_lt (remaining_take_le more lexer.advance) (remaining_advance_lt here)

/-- A number takes the current digit. -/
theorem remaining_number_lt (here : lexer.current = some c) (digit : c.isDigit = true) :
    lexer.number.2.remaining < lexer.remaining := by
  have whole := remaining_takeWhile_lt here digit
  unfold number
  simp only
  generalize (lexer.takeWhile Char.isDigit).2 = middle at whole
  have point := Nat.lt_of_le_of_lt (remaining_advance_le middle) whole
  have fraction := Nat.lt_of_le_of_lt (remaining_takeWhile_le Char.isDigit middle.advance) point
  split
  · split
    · split
      · refine Nat.lt_of_le_of_lt (remaining_takeWhile_le _ _) ?_
        exact Nat.lt_of_le_of_lt (remaining_advance_le _) fraction
      · exact fraction
    · exact point
  · exact whole

/-- Whatever is read takes the current character. -/
theorem remaining_readFrom_lt (here : lexer.current = some c) :
    (lexer.readFrom c).2.remaining < lexer.remaining := by
  unfold readFrom
  split
  case h_5 =>
    split
    · exact remaining_mark_lt here 1 _
    · exact remaining_mark_lt here 0 _
  case h_6 =>
    split
    · next letter => exact remaining_takeWhile_lt here (Text.isAlphanumeric_of_isAlphabetic letter)
    · split
      · next digit => exact remaining_number_lt here digit
      · split
        · exact Nat.lt_of_le_of_lt (remaining_takeWhile_le _ _) (remaining_advance_lt here)
        · exact remaining_mark_lt here 0 _
  all_goals exact remaining_mark_lt here 0 _

/-- Whatever is read before the end of the input takes some characters. -/
theorem remaining_read_lt (before : lexer.read.1.isEnd = false) :
    lexer.read.2.remaining < lexer.remaining := by
  unfold read at before ⊢
  simp only at before ⊢
  split
  · next c here => exact Nat.lt_of_lt_of_le (remaining_readFrom_lt here) (remaining_skip_le lexer)
  · next none =>
    rw [none] at before
    contradiction

/-- Reading adds no characters. -/
theorem remaining_read_le (lexer : Lexer) : lexer.read.2.remaining ≤ lexer.remaining := by
  unfold read
  simp only
  split
  · next c here =>
    exact Nat.le_trans (Nat.le_of_lt (remaining_readFrom_lt here)) (remaining_skip_le lexer)
  · exact remaining_skip_le lexer

/-- The number of characters ahead, and one more for the end of the input until it has been read. -/
def pending (lexer : Lexer) : Nat := lexer.remaining + bif lexer.finished then 0 else 1

/-- Every item brings a lexer closer to its end. -/
theorem pending_lt_of_next? (more : lexer.next? = some (item, last)) :
    last.pending < lexer.pending := by
  unfold next? at more
  split at more
  · contradiction
  · next unfinished =>
    have fewer := @remaining_read_lt lexer
    have noMore := remaining_read_le lexer
    generalize lexer.read = next at more fewer noMore
    cases more
    unfold pending
    rw [Bool.eq_false_iff.2 unfinished]
    cases isEnd : next.1.isEnd with
    | false => exact Nat.add_lt_add_right (fewer isEnd) 1
    | true => exact Nat.lt_succ_of_le noMore

end Progress

/-- Everything ahead, errors included, each item with the lexer before it. -/
def items (lexer : Lexer) : List (Lexer × Item) :=
  match _more : lexer.next? with
  | some (item, last) => (lexer, item) :: last.items
  | none => []
termination_by lexer.pending
decreasing_by exact pending_lt_of_next? _more

/-- Behind the end of the input, nothing is ahead. -/
theorem items_of_finished {lexer : Lexer} (finished : lexer.finished = true) : lexer.items = [] := by
  have none : lexer.next? = none := by
    unfold next?
    rw [if_pos finished]
  rw [items]
  split
  · next more => exact absurd (none.symm.trans more) (by simp)
  · rfl

/-- Before the end of the input has been read, an item is ahead. -/
theorem items_of_unfinished {lexer : Lexer} (unfinished : lexer.finished = false) :
    lexer.items =
      (lexer, lexer.read.1) ::
        items { lexer.read.2 with finished := lexer.read.1.isEnd } := by
  have some : lexer.next? =
      some (lexer.read.1, { lexer.read.2 with finished := lexer.read.1.isEnd }) := by
    unfold next?
    rw [if_neg (Bool.eq_false_iff.1 unfinished)]
  rw [items]
  split
  · next more =>
    cases some.symm.trans more
    rfl
  · next none => exact absurd (some.symm.trans none) (by simp)

/-- The state of reading in words. -/
def describe (lexer : Lexer) : String :=
  let shown : Option Char → String
    | some c => "Some(" ++ Text.quotedChar c ++ ")"
    | none => "None"
  "Lexer \x7b\n\tposition: " ++ Nat.repr lexer.position.toNat ++ ",\n\tline: " ++
    Nat.repr lexer.line.toNat ++ ",\n\tch: " ++ shown lexer.current ++ ", next_ch: " ++
    shown lexer.following ++ "\n\x7d"

end Lexer

/-- The tokens of a source, ending with the end of the input, or its first lexical error. -/
def Token.scan (source : String) : Except LexicalError (List Token) :=
  (Lexer.ofSource source).items.mapM (·.2)

end Kaleidoscope
