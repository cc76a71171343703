import Kaleidoscope.Proofs.Token.Names
import Kaleidoscope.Proofs.Token.Separators

/-!
# Reading line by line

No token and no malformed number reaches over a line break, and a comment ends before it, so what
stands before a line break and what stands behind it are read independently: reading both in one go
gives the items of the first part without their end, and then those of the second part, further on by
the bytes and lines before it (`Token.scan_append_newline`).

Two facts about a cursor carry this. Its place is only ever counted on from, so a cursor that starts
elsewhere reads the same things elsewhere (`Cursor.items_shift`), as it does behind white space
(`Token.scan_append_blanks`). And with a line break and more text
behind it, it reads what it would have read without, up to the end (`Cursor.items_before`). Both hold
of sources of any length. What a lexer counts is further on by the same number as long as it can count
that far (`Item.isShift_shift`).
-/
namespace Kaleidoscope

/-- A span further on. -/
def Span.shift (bytes : Nat) (span : Span) : Span :=
  ⟨span.start + .ofNat bytes, span.stop + .ofNat bytes⟩

/-- A token further on and further down. -/
def Token.shift (bytes lines : Nat) (token : Token) : Token :=
  { token with line := token.line + .ofNat lines, span := token.span.shift bytes }

/-- An error further on and further down. -/
def LexicalError.shift (bytes lines : Nat) (error : LexicalError) : LexicalError :=
  { error with line := error.line + .ofNat lines, span := error.span.shift bytes }

/-- A token or an error further on and further down. -/
def Item.shift (bytes lines : Nat) : Item → Item
  | .ok token => .ok (token.shift bytes lines)
  | .error error => .error (error.shift bytes lines)

namespace Cursor

/-- A cursor further on and further down, with the same text ahead. -/
def shift (bytes lines : Nat) (cursor : Cursor) : Cursor :=
  ⟨cursor.position + bytes, cursor.line + lines, cursor.rest⟩

/-- A cursor with more text behind what is ahead. -/
def before (back : List Char) (cursor : Cursor) : Cursor :=
  { cursor with rest := cursor.rest ++ back }

section Items

variable {cursor : Cursor}

/-- Where no lexeme is ahead, only the end of the input is read. -/
theorem items_of_nil (done : cursor.skip.rest = []) :
    cursor.items =
      [.ok (.endOfInput (.ofNat cursor.skip.line) (.ofNat cursor.skip.position))] := by
  rw [items, dif_pos done]
  simp only [next, done]

/-- Where a lexeme is ahead, it is read, and then what stands behind it. -/
theorem items_of_ne_nil (ahead : cursor.skip.rest ≠ []) :
    cursor.items = cursor.next.1 :: cursor.next.2.items := by
  rw [items, dif_neg ahead]

/-- The end of the input is read last, and nothing else is the end. -/
theorem items_eq_concat (cursor : Cursor) : ∃ front line offset,
    cursor.items = front ++ [.ok (.endOfInput line offset)] ∧ ∀ item ∈ front, item.isEnd = false := by
  fun_induction items cursor with
  | case1 cursor done =>
    refine ⟨[], .ofNat cursor.skip.line, .ofNat cursor.skip.position, ?_, List.forall_mem_nil _⟩
    simp only [next, done, List.nil_append]
  | case2 cursor ahead hypothesis =>
    obtain ⟨front, line, offset, rest, before⟩ := hypothesis
    rw [rest]
    exact ⟨_ :: front, line, offset, rfl, List.forall_mem_cons.2 ⟨isEnd_next ahead, before⟩⟩

/-- Something is read at any place. -/
theorem items_ne_nil (cursor : Cursor) : cursor.items ≠ [] := by
  obtain ⟨front, line, offset, same, _⟩ := items_eq_concat cursor
  rw [same]
  exact List.concat_ne_nil _ _

/-- What is read depends on the place of the next lexeme alone. -/
theorem items_eq_of_skip_eq {other : Cursor} (same : cursor.skip = other.skip) :
    cursor.items = other.items := by
  by_cases done : other.skip.rest = []
  · rw [items_of_nil done, items_of_nil (same ▸ done), same]
  · have next : cursor.next = other.next := by rw [Cursor.next, same, Cursor.next]
    rw [items_of_ne_nil done, items_of_ne_nil (same ▸ done), next]

end Items

section Shifts

variable (bytes lines : Nat)

/-- White space and comments are the same everywhere. -/
theorem skipFrom_shift (comment : Bool) (position line : Nat) (ahead : List Char) :
    skipFrom comment (position + bytes) (line + lines) ahead =
      (skipFrom comment position line ahead).shift bytes lines := by
  induction ahead generalizing comment position line with
  | nil => rfl
  | cons c rest hypothesis =>
    have onward : ∀ inside : Bool,
        skipFrom inside (position + bytes + c.utf8Size) (line + lines) rest =
          (skipFrom inside (position + c.utf8Size) line rest).shift bytes lines := by
      intro inside
      rw [← hypothesis, Nat.add_right_comm]
    have downward : skipFrom false (position + bytes + c.utf8Size) (line + lines + 1) rest =
        (skipFrom false (position + c.utf8Size) (line + 1) rest).shift bytes lines := by
      rw [← hypothesis, Nat.add_right_comm, Nat.add_right_comm line]
    rw [skipFrom_cons, skipFrom_cons]
    simp only [onward, downward]
    split
    · rfl
    · split
      · rfl
      · split
        · rfl
        · split <;> rfl

/-- The next lexeme is the same everywhere. -/
theorem skip_shift (cursor : Cursor) :
    (cursor.shift bytes lines).skip = cursor.skip.shift bytes lines :=
  skipFrom_shift ..

/-- A lexeme is the same item everywhere, except for its place. -/
theorem item_shift (cursor : Cursor) (lexeme : Lexeme) :
    (cursor.shift bytes lines).item lexeme = Item.shift bytes lines (cursor.item lexeme) := by
  have stop : cursor.position + bytes + Span.width lexeme.text =
      cursor.position + Span.width lexeme.text + bytes := Nat.add_right_comm ..
  unfold item spanTo behind shift
  simp only [stop, UInt32.ofNat_add _ bytes, UInt32.ofNat_add _ lines]
  cases lexeme.shape <;> rfl

/-- The place behind a lexeme is further on by as much as the lexeme. -/
theorem behind_shift (cursor : Cursor) (lexeme : Lexeme) :
    (cursor.shift bytes lines).behind lexeme = (cursor.behind lexeme).shift bytes lines := by
  simp only [behind, shift, Nat.add_right_comm _ bytes]

/-- What is read is the same everywhere, except for its place. -/
theorem next_shift (cursor : Cursor) :
    (cursor.shift bytes lines).next =
      (Item.shift bytes lines cursor.next.1, cursor.next.2.shift bytes lines) := by
  unfold next
  rw [skip_shift]
  generalize cursor.skip = place
  obtain ⟨position, line, rest⟩ := place
  cases rest with
  | nil => simp [shift, Item.shift, Token.shift, Span.shift, Token.endOfInput, Span.point]
  | cons c rest => exact Prod.ext (item_shift ..) (behind_shift ..)

/-- Everything that is read is the same everywhere, except for its places. -/
theorem items_shift (cursor : Cursor) :
    (cursor.shift bytes lines).items = cursor.items.map (Item.shift bytes lines) := by
  fun_induction items cursor with
  | case1 cursor done =>
    rw [items, dif_pos (by rwa [skip_shift]), next_shift]
    rfl
  | case2 cursor ahead hypothesis =>
    rw [items, dif_neg (by rwa [skip_shift]), next_shift]
    exact congrArg (_ :: ·) hypothesis

end Shifts

section Breaks

variable (back : List Char)

/-- Over white space and comments in front of a line break, a cursor comes to the same place as
without the line break, or, if nothing else is ahead of that, to the next line. -/
theorem skipFrom_before (comment : Bool) (position line : Nat) (ahead : List Char) :
    let place := skipFrom comment position line ahead
    skipFrom comment position line (ahead ++ '\n' :: back) =
      if place.rest = [] then skipFrom false (place.position + 1) (place.line + 1) back
      else place.before ('\n' :: back) := by
  induction ahead generalizing comment position line with
  | nil => rfl
  | cons c rest hypothesis =>
    simp only at hypothesis ⊢
    rw [List.cons_append, skipFrom_cons, skipFrom_cons]
    simp only [hypothesis]
    split
    · rfl
    · split
      · rfl
      · split
        · rfl
        · split
          · rfl
          · exact (if_neg (List.cons_ne_nil _ _)).symm

variable {cursor : Cursor} {back}

/-- In front of a line break a cursor finds the same lexeme as without. -/
theorem skip_before (ahead : cursor.skip.rest ≠ []) :
    (cursor.before ('\n' :: back)).skip = cursor.skip.before ('\n' :: back) :=
  (skipFrom_before ..).trans (if_neg ahead)

/-- Where no lexeme is ahead of a line break, a cursor finds the first one behind it. -/
theorem skip_before_of_nil (done : cursor.skip.rest = []) :
    (cursor.before ('\n' :: back)).skip =
      (Cursor.mk (cursor.skip.position + 1) (cursor.skip.line + 1) back).skip :=
  (skipFrom_before ..).trans (if_pos done)

/-- In front of a line break a cursor reads the same as without. -/
theorem next_before (ahead : cursor.skip.rest ≠ []) :
    (cursor.before ('\n' :: back)).next =
      (cursor.next.1, cursor.next.2.before ('\n' :: back)) := by
  unfold next
  rw [skip_before ahead]
  generalize cursor.skip = place at ahead
  obtain ⟨position, line, rest⟩ := place
  cases rest with
  | nil => exact absurd rfl ahead
  | cons c rest =>
    simp only [before, List.cons_append, Lexeme.next_append Text.isSeparator_newline]
    rfl

/-- The place behind everything ahead of a cursor, and one line break. -/
def nextLine (cursor : Cursor) (back : List Char) : Cursor :=
  ⟨cursor.position + Span.width cursor.rest + 1, cursor.line + cursor.rest.count '\n' + 1, back⟩

/-- Moving on does not change what lies behind everything ahead. -/
theorem Moves.nextLine_eq {late : Cursor} {text : List Char} (moves : Moves cursor late text)
    (back : List Char) : cursor.nextLine back = late.nextLine back := by
  obtain ⟨rest, position, line⟩ := moves
  simp only [nextLine, rest, position, line, Span.width_append, List.count_append, Nat.add_assoc]

/-- With a line break and more text behind it, a cursor reads what it would have read without, up to
the end, and then what stands behind the line break. -/
theorem items_before (cursor : Cursor) :
    (cursor.before ('\n' :: back)).items =
      cursor.items.dropLast ++ (cursor.nextLine back).items := by
  fun_induction items cursor with
  | case1 cursor done =>
    obtain ⟨gap, moves, _⟩ := skip_moves cursor
    refine items_eq_of_skip_eq ((skip_before_of_nil done).trans ?_)
    rw [moves.nextLine_eq back, nextLine, done]
    rfl
  | case2 cursor ahead hypothesis =>
    have further : (cursor.before ('\n' :: back)).skip.rest ≠ [] := by
      rw [skip_before ahead]
      exact List.append_ne_nil_of_left_ne_nil ahead _
    obtain ⟨text, moves⟩ := moves_next ahead
    rw [items_of_ne_nil further, next_before ahead, hypothesis, ← moves.nextLine_eq back,
      List.dropLast_cons_of_ne_nil (items_ne_nil _)]
    rfl

end Breaks

/-- Two sources with a line break between them are read one after the other. -/
theorem items_append_newline (front : String) {back : String} (nonempty : back ≠ "") :
    (start (front ++ "\n" ++ back)).items =
      (Cursor.mk 0 1 front.toList).items.dropLast ++
        (start back).items.map
          (Item.shift (front.utf8ByteSize + 1) (front.toList.count '\n' + 1)) := by
  have whole : (front ++ "\n" ++ back).toList = front.toList ++ '\n' :: back.toList := by simp
  have some : front ++ "\n" ++ back ≠ "" := by
    intro empty
    rw [← String.toList_inj, whole] at empty
    simp at empty
  have begins : (start back).shift (front.utf8ByteSize + 1) (front.toList.count '\n' + 1) =
      (Cursor.mk 0 1 front.toList).nextLine back.toList := by
    rw [start_of_ne_empty nonempty, nextLine, Span.width_eq, String.ofList_toList, shift]
    simp only [Nat.zero_add, Nat.add_assoc]
  rw [← items_shift, begins, start_of_ne_empty some, whole]
  exact items_before ⟨0, 1, front.toList⟩

section Blanks

variable {front : List Char} (blank : ∀ c ∈ front, Text.isBlank c = true ∧ c ≠ '\n')
include blank

/-- White space without a line break is moved over. -/
theorem skipFrom_blanks (position line : Nat) (back : List Char) :
    skipFrom false position line (front ++ back) =
      skipFrom false (position + Span.width front) line back := by
  induction front generalizing position with
  | nil => rfl
  | cons c front hypothesis =>
    obtain ⟨⟨own, plain⟩, others⟩ := List.forall_mem_cons.1 blank
    rw [List.cons_append, skipFrom_cons, if_neg plain, Bool.false_and, if_neg Bool.false_ne_true,
      if_pos own, hypothesis others, Span.width_cons, Nat.add_assoc]

/-- A source behind white space is read as if that were not there, only further on. -/
theorem items_append_blanks {back : String} (nonempty : back ≠ "") :
    (start (String.ofList front ++ back)).items =
      (start back).items.map (Item.shift (Span.width front) 0) := by
  have whole : (String.ofList front ++ back).toList = front ++ back.toList := by simp
  have some : String.ofList front ++ back ≠ "" := fun empty => by
    rw [← String.toList_inj, whole] at empty
    simp [nonempty] at empty
  rw [← items_shift, start_of_ne_empty some, start_of_ne_empty nonempty, whole]
  exact items_eq_of_skip_eq (skipFrom_blanks blank 0 1 back.toList)

end Blanks

end Cursor

/-- A span is another one, further on by a number of bytes. -/
structure Span.IsShift (bytes : Nat) (span moved : Span) : Prop where
  /-- It starts so many bytes further on. -/
  start_eq : moved.start.toNat = span.start.toNat + bytes
  /-- It ends so many bytes further on. -/
  stop_eq : moved.stop.toNat = span.stop.toNat + bytes

/-- A token is another one, further on by a number of bytes and further down by a number of lines. -/
structure Token.IsShift (bytes lines : Nat) (token moved : Token) : Prop extends
    Span.IsShift bytes token.span moved.span where
  /-- It is further down. -/
  line_eq : moved.line.toNat = token.line.toNat + lines
  /-- It is of the same kind. -/
  kind_eq : moved.kind = token.kind
  /-- It has the same text. -/
  lexeme_eq : moved.lexeme = token.lexeme
  /-- It stands for the same. -/
  literal_eq : moved.literal = token.literal

/-- An error is another one, further on by a number of bytes and further down by a number of lines. -/
structure LexicalError.IsShift (bytes lines : Nat) (error moved : LexicalError) : Prop extends
    Span.IsShift bytes error.span moved.span where
  /-- It is further down. -/
  line_eq : moved.line.toNat = error.line.toNat + lines
  /-- It has the same cause. -/
  cause_eq : moved.cause = error.cause

/-- An item stands within some bytes and lines. -/
structure Item.IsWithin (bytes lines : Nat) (item : Item) : Prop where
  /-- It starts within the bytes. -/
  start_le : (Item.span item).start.toNat ≤ bytes
  /-- It ends within the bytes. -/
  stop_le : (Item.span item).stop.toNat ≤ bytes
  /-- It starts within the lines. -/
  line_le : (Item.line item).toNat ≤ lines

/-- What is read from a source stands within its bytes and lines. -/
theorem Covers.isWithin {source : List Char} {start : UInt32} {items : List Item}
    (covers : Covers source start items) :
    ∀ item ∈ items, Item.IsWithin (Span.width source) (1 + source.count '\n') item := by
  obtain ⟨line, offset, last, lines, bytes⟩ := covers.last
  intro item member
  rw [← List.dropLast_append_getLast? _ last, List.mem_append, List.mem_singleton] at member
  rcases member with inner | rfl
  · obtain ⟨before, text, after, rfl, _, starts, stops, lines, _⟩ := covers.stands item inner
    refine ⟨?_, ?_, ?_⟩
    · rw [starts]
      simp only [Span.width_append]
      omega
    · rw [stops]
      simp only [Span.width_append]
      omega
    · rw [lines]
      simp only [List.count_append]
      omega
  · exact ⟨Nat.le_of_eq bytes, Nat.le_of_eq bytes, Nat.le_of_eq lines⟩

/-- A word counts on without starting again as long as the sum fits. -/
theorem toNat_add_ofNat {word : UInt32} {further : Nat} (fits : word.toNat + further < UInt32.size) :
    (word + .ofNat further).toNat = word.toNat + further := by
  have own : (UInt32.ofNat further).toNat = further :=
    UInt32.toNat_ofNat_of_lt' (Nat.lt_of_le_of_lt (Nat.le_add_left ..) fits)
  rw [UInt32.toNat_add, own]
  exact Nat.mod_eq_of_lt fits

section Fitting

variable {bytes lines moreBytes moreLines : Nat} (fits : bytes + moreBytes < UInt32.size)
  (further : lines + moreLines < UInt32.size)
include fits further

/-- A token that stands within some bytes and lines is further on as long as more can be counted. -/
theorem Token.isShift_shift {token : Token} (within : Item.IsWithin bytes lines (.ok token)) :
    token.IsShift moreBytes moreLines (token.shift moreBytes moreLines) where
  start_eq := toNat_add_ofNat (Nat.lt_of_le_of_lt (Nat.add_le_add_right within.start_le _) fits)
  stop_eq := toNat_add_ofNat (Nat.lt_of_le_of_lt (Nat.add_le_add_right within.stop_le _) fits)
  line_eq := toNat_add_ofNat (Nat.lt_of_le_of_lt (Nat.add_le_add_right within.line_le _) further)
  kind_eq := rfl
  lexeme_eq := rfl
  literal_eq := rfl

/-- And so is an error. -/
theorem LexicalError.isShift_shift {error : LexicalError}
    (within : Item.IsWithin bytes lines (.error error)) :
    error.IsShift moreBytes moreLines (error.shift moreBytes moreLines) where
  start_eq := toNat_add_ofNat (Nat.lt_of_le_of_lt (Nat.add_le_add_right within.start_le _) fits)
  stop_eq := toNat_add_ofNat (Nat.lt_of_le_of_lt (Nat.add_le_add_right within.stop_le _) fits)
  line_eq := toNat_add_ofNat (Nat.lt_of_le_of_lt (Nat.add_le_add_right within.line_le _) further)
  cause_eq := rfl

end Fitting

namespace Token

/-- Tokens and errors are collected up to the first error, wherever they stand. -/
theorem mapM_shift (bytes lines : Nat) (items : List Item) :
    (items.map (Item.shift bytes lines)).mapM id =
      match items.mapM id with
      | .ok tokens => .ok (tokens.map (Token.shift bytes lines))
      | .error error => .error (error.shift bytes lines) := by
  induction items with
  | nil => rfl
  | cons item items hypothesis =>
    rw [List.map_cons, List.mapM_cons, List.mapM_cons, hypothesis]
    cases item with
    | error error => rfl
    | ok token => cases items.mapM id <;> rfl

/-- The tokens of a source are those before its end, and then the end. -/
theorem scan_eq_dropLast (source : String) :
    ∃ line offset, scan source =
      match (Cursor.mk 0 1 source.toList).items.dropLast.mapM id with
      | .ok tokens => .ok (tokens ++ [.endOfInput line offset])
      | .error error => .error error := by
  have ends : (Cursor.start source).items.dropLast =
      (Cursor.mk 0 1 source.toList).items.dropLast := by
    by_cases nonempty : source = ""
    · subst nonempty
      rw [Cursor.items_of_nil (rfl : (Cursor.start "").skip.rest = []),
        Cursor.items_of_nil (rfl : (Cursor.mk 0 1 "".toList).skip.rest = [])]
      rfl
    · rw [Cursor.start_of_ne_empty nonempty]
  obtain ⟨front, line, offset, items, _⟩ := Cursor.items_eq_concat (Cursor.start source)
  refine ⟨line, offset, ?_⟩
  rw [scan_eq_mapM, ← ends, items, List.dropLast_concat, List.mapM_append]
  cases front.mapM id <;> rfl

/-- None of the tokens before the end of a source stands for the end. -/
theorem kind_ne_eof_of_dropLast {source : List Char} {tokens : List Token}
    (read : (Cursor.mk 0 1 source).items.dropLast.mapM id = .ok tokens) :
    ∀ token ∈ tokens, token.kind ≠ .eof := by
  intro token member
  obtain ⟨front, _, _, items, before⟩ := Cursor.items_eq_concat (Cursor.mk 0 1 source)
  rw [items, List.dropLast_concat] at read
  have same := map_eq_of_mapM read
  rw [List.map_id] at same
  have inside : Except.ok token ∈ front := same ▸ List.mem_map_of_mem member
  exact of_decide_eq_false (before _ inside)

/-- Without the end, just the tokens before it are left. -/
theorem filter_append_endOfInput {tokens : List Token} (before : ∀ token ∈ tokens, token.kind ≠ .eof)
    (line offset : UInt32) :
    (tokens ++ [endOfInput line offset]).filter (·.kind ≠ .eof) = tokens := by
  rw [List.filter_append, List.filter_eq_self.2 (by simpa using before)]
  exact List.append_nil tokens

/-- Reading line by line, with what stands behind the line break counted on in words. -/
theorem scan_eq_shift (front : String) {back : String} (nonempty : back ≠ "") :
    scan (front ++ "\n" ++ back) =
      match scan front, scan back with
      | .error error, _ => .error error
      | .ok _, .error error =>
        .error (error.shift (front.utf8ByteSize + 1) (front.toList.count '\n' + 1))
      | .ok tokens, .ok others =>
        .ok (tokens.filter (·.kind ≠ .eof) ++
          others.map (Token.shift (front.utf8ByteSize + 1) (front.toList.count '\n' + 1))) := by
  obtain ⟨line, offset, ofFront⟩ := scan_eq_dropLast front
  simp only [scan_eq_mapM (front ++ "\n" ++ back), Cursor.items_append_newline front nonempty,
    List.mapM_append, mapM_shift, ← scan_eq_mapM back, ofFront]
  cases read : (Cursor.mk 0 1 front.toList).items.dropLast.mapM id with
  | error error => rfl
  | ok tokens =>
    have kept := filter_append_endOfInput (kind_ne_eof_of_dropLast read) line offset
    cases scan back with
    | error error => rfl
    | ok others => exact congrArg (fun kept => Except.ok (kept ++ others.map _)) kept.symm

/-- The tokens of a source behind white space are those of the source, further on. -/
theorem scan_append_blanks {front : List Char}
    (blank : ∀ c ∈ front, Text.isBlank c = true ∧ c ≠ '\n') {back : String} (nonempty : back ≠ "")
    {tokens : List Token} (scanned : scan back = .ok tokens) :
    scan (String.ofList front ++ back) = .ok (tokens.map (Token.shift (Span.width front) 0)) := by
  rw [scan_eq_mapM, Cursor.items_append_blanks blank nonempty, mapM_shift, ← scan_eq_mapM, scanned]

/-- Reading line by line: what stands before a line break is read as if nothing followed. If that is
in order, what stands behind the line break is read as if nothing preceded, further on by the bytes
and further down by the lines before it, if the bytes of all can be counted. -/
theorem scan_append_newline (front : String) {back : String} (nonempty : back ≠ "")
    (short : (front ++ "\n" ++ back).utf8ByteSize < UInt32.size - 1) :
    match scan front, scan back with
    | .error error, _ => scan (front ++ "\n" ++ back) = .error error
    | .ok _, .error error =>
      ∃ moved, scan (front ++ "\n" ++ back) = .error moved ∧
        error.IsShift (front.utf8ByteSize + 1) (front.toList.count '\n' + 1) moved
    | .ok tokens, .ok others =>
      ∃ moved, scan (front ++ "\n" ++ back) = .ok (tokens.filter (·.kind ≠ .eof) ++ moved) ∧
        List.Forall₂ (IsShift (front.utf8ByteSize + 1) (front.toList.count '\n' + 1)) others
          moved := by
  have whole := scan_eq_shift front nonempty
  have bytes : (front ++ "\n" ++ back).utf8ByteSize = front.utf8ByteSize + 1 + back.utf8ByteSize := by
    rw [String.utf8ByteSize_append, String.utf8ByteSize_append]
    rfl
  have covers : Covers back.toList 0 (Cursor.start back).items := by
    rw [Cursor.start_of_ne_empty nonempty]
    exact Cursor.covers_mk (by omega)
  have within := covers.isWithin
  have breaks := Span.count_le_width front.toList
  have more := Span.count_le_width back.toList
  rw [Span.width_eq, String.ofList_toList] at within breaks more
  have fits : back.utf8ByteSize + (front.utf8ByteSize + 1) < UInt32.size := by omega
  have further : 1 + back.toList.count '\n' + (front.toList.count '\n' + 1) < UInt32.size := by omega
  cases ofFront : scan front with
  | error error =>
    rw [ofFront] at whole
    exact whole
  | ok tokens =>
    cases ofBack : scan back with
    | error error =>
      obtain ⟨item, inside, same⟩ := exists_of_mapM_error ((scan_eq_mapM back).symm.trans ofBack)
      obtain rfl : item = .error error := same
      rw [ofFront, ofBack] at whole
      exact ⟨_, whole, LexicalError.isShift_shift fits further (within _ inside)⟩
    | ok others =>
      have items := items_of_scan ofBack
      rw [ofFront, ofBack] at whole
      refine ⟨_, whole, List.forall₂_map_right_iff.2 (List.forall₂_same.2 fun token member => ?_)⟩
      exact isShift_shift fits further (within _ (items ▸ List.mem_map_of_mem member))

/-- A comment and an equals sign end at a line break, behind which a number is malformed. -/
theorem scan_append_newline_malformed :
    let front := "x = # é\ny ="
    let back := "= .5"
    back ≠ "" ∧ (front ++ "\n" ++ back).utf8ByteSize < UInt32.size - 1 ∧ (scan front).isOk = true ∧
      scan back = .error ⟨.missingWhole, ⟨2, 4⟩, 1⟩ ∧
      ∃ moved, scan (front ++ "\n" ++ back) = .error moved ∧
        LexicalError.IsShift 13 2 ⟨.missingWhole, ⟨2, 4⟩, 1⟩ moved := by
  intro front back
  have nonempty : back ≠ "" := by decide
  have short : (front ++ "\n" ++ back).utf8ByteSize < UInt32.size - 1 := by decide
  have ofFront : (scan front).isOk = true := by decide +kernel
  have ofBack : scan back = .error ⟨.missingWhole, ⟨2, 4⟩, 1⟩ := by decide +kernel
  have bytes : front.utf8ByteSize = 12 := by decide
  have lines : front.toList.count '\n' = 1 := by decide
  have moved := scan_append_newline front nonempty short
  refine ⟨nonempty, short, ofFront, ofBack, ?_⟩
  rw [ofBack, bytes, lines] at moved
  cases inOrder : scan front with
  | error error =>
    rw [inOrder] at ofFront
    contradiction
  | ok tokens =>
    rw [inOrder] at moved
    exact moved

end Token

end Kaleidoscope
