import Mathlib.Data.List.Chain
import Kaleidoscope.Proofs.Token.Cursor

/-!
# What reading covers

Reading a source loses nothing, reads nothing twice and misplaces nothing. The tokens and errors
stand one after the other at the places that their spans give, with nothing but white space and
comments before, between and after them (`Covers`), and no token could have been longer
(`Token.Kind.IsMaximal`).

A cursor that has come to some place has moved over the text before it (`Cursor.Moves`): its offset
is the width of that text, and its line the number of line breaks there, counted from one. This is
kept by moving over white space and comments (`Cursor.skipFrom_moves`) and over a lexeme. In a source
of fewer than 2³² - 1 bytes a lexer, which counts in words of 32 bits, counts the same
(`Cursor.Moves.toNat_position`, `Cursor.Moves.toNat_line`), so what is said of cursors holds of lexers
(`Lexer.covers_items`).
-/
namespace Kaleidoscope

/-- White space and comments, before some text. A comment starts with a number sign and ends before
the next line break, or at the end of the source. -/
inductive IsTrivia (after : List Char) : List Char → Prop
  /-- Nothing. -/
  | nil : IsTrivia after []
  /-- A character of white space. -/
  | blank {c : Char} {gap : List Char} (blank : Text.isBlank c = true) (rest : IsTrivia after gap) :
      IsTrivia after (c :: gap)
  /-- A comment. -/
  | comment {body gap : List Char} (inside : ∀ c ∈ body, c ≠ '\n' ∧ c ≠ '\r')
      (ends : ∀ c ∈ (gap ++ after).head?, c = '\n' ∨ c = '\r') (rest : IsTrivia after gap) :
      IsTrivia after ('#' :: (body ++ gap))

namespace Item

/-- Where an item stands. -/
def span : Item → Span
  | .ok token => token.span
  | .error error => error.span

/-- The line on which an item starts. -/
def line : Item → UInt32
  | .ok token => token.line
  | .error error => error.line

/-- An item that stands for a text of the source, not the end of the input: its span is that of the
text, its line the one that the text starts on, and a token has the text as its lexeme and could not
have been longer. -/
def Stands (source : List Char) (item : Item) : Prop :=
  ∃ before text after, source = before ++ text ++ after ∧ text ≠ [] ∧
    (span item).start.toNat = Span.width before ∧
    (span item).stop.toNat = Span.width (before ++ text) ∧
    (line item).toNat = 1 + before.count '\n' ∧
    ∀ token, item = .ok token → token.kind ≠ .eof ∧ token.lexeme = String.ofList text ∧
      token.kind.IsMaximal after

end Item

/-- Between two offsets a source has white space and comments alone. -/
def IsGap (source : List Char) (start stop : Nat) : Prop :=
  ∃ before gap after, source = before ++ gap ++ after ∧ start = Span.width before ∧
    stop = Span.width (before ++ gap) ∧ IsTrivia after gap

/-- What has been read covers a source from an offset on. -/
structure Covers (source : List Char) (start : UInt32) (items : List Item) : Prop where
  /-- The last item is the end of the input, at the end of the source. -/
  last : ∃ line offset, items.getLast? = some (.ok (.endOfInput line offset)) ∧
    line.toNat = 1 + source.count '\n' ∧ offset.toNat = Span.width source
  /-- All others stand for a text of the source. -/
  stands : ∀ item ∈ items.dropLast, Item.Stands source item
  /-- Before the first item and between any two that follow each other, white space and comments
  stand. -/
  gaps : (.point start :: items.map Item.span).IsChain fun early late =>
    IsGap source early.stop.toNat late.start.toNat

namespace Cursor

/-- A cursor has moved over a text. -/
structure Moves (early late : Cursor) (text : List Char) : Prop where
  /-- The text was ahead. -/
  rest_eq : early.rest = text ++ late.rest
  /-- The offset counts its bytes. -/
  position_eq : late.position = early.position + Span.width text
  /-- The line counts its line breaks. -/
  line_eq : late.line = early.line + text.count '\n'

variable {early middle late : Cursor} {front back : List Char}

/-- A cursor that stays has moved over nothing. -/
theorem Moves.refl (cursor : Cursor) : Moves cursor cursor [] := ⟨rfl, rfl, rfl⟩

/-- Texts that a cursor moves over add up. -/
theorem Moves.trans (first : Moves early middle front) (second : Moves middle late back) :
    Moves early late (front ++ back) where
  rest_eq := by rw [first.rest_eq, second.rest_eq, List.append_assoc]
  position_eq := by rw [second.position_eq, first.position_eq, Span.width_append, Nat.add_assoc]
  line_eq := by rw [second.line_eq, first.line_eq, List.count_append, Nat.add_assoc]

/-- A cursor moves over a line break to the next line. -/
theorem moves_newline (position line : Nat) (rest : List Char) :
    Moves ⟨position, line, '\n' :: rest⟩ ⟨position + '\n'.utf8Size, line + 1, rest⟩ ['\n'] :=
  ⟨rfl, rfl, rfl⟩

/-- A cursor moves over a character that is no line break. -/
theorem moves_char {c : Char} (position line : Nat) (rest : List Char) (plain : c ≠ '\n') :
    Moves ⟨position, line, c :: rest⟩ ⟨position + c.utf8Size, line, rest⟩ [c] :=
  ⟨rfl, rfl, by simp [plain]⟩

end Cursor

namespace IsTrivia

variable {after gap : List Char}

/-- A comment that says nothing may stand before a line break or at the end. -/
theorem comment_nil (ends : ∀ c ∈ (gap ++ after).head?, c = '\n' ∨ c = '\r')
    (trivia : IsTrivia after gap) : IsTrivia after ('#' :: gap) :=
  .comment (List.forall_mem_nil fun c => c ≠ '\n' ∧ c ≠ '\r') ends trivia

/-- A comment may say one more character. -/
theorem comment_cons {c : Char} (plain : c ≠ '\n' ∧ c ≠ '\r')
    (trivia : IsTrivia after ('#' :: gap)) : IsTrivia after ('#' :: c :: gap) := by
  generalize same : '#' :: gap = text at trivia
  cases trivia with
  | nil => cases same
  | blank blank rest =>
    cases same
    contradiction
  | @comment body gap inside ends rest =>
    cases same
    exact .comment (List.forall_mem_cons.2 ⟨plain, inside⟩) ends rest

end IsTrivia

namespace Cursor

/-- Moving over white space and comments ends before a character that is no line break. Inside of a
comment, what is moved over is trivia together with the number sign before. -/
theorem skipFrom_moves (comment : Bool) (position line : Nat) (ahead : List Char) :
    ∃ gap, Moves ⟨position, line, ahead⟩ (skipFrom comment position line ahead) gap ∧
      IsTrivia (skipFrom comment position line ahead).rest (if comment then '#' :: gap else gap) ∧
      ∀ c ∈ (skipFrom comment position line ahead).rest.head?, c ≠ '\n' := by
  induction ahead generalizing comment position line with
  | nil =>
    refine ⟨[], .refl _, ?_, by simp [skipFrom]⟩
    cases comment
    · exact .nil
    · exact .comment_nil (by simp [skipFrom]) .nil
  | cons c rest hypothesis =>
    unfold skipFrom
    split
    · next newline =>
      subst newline
      obtain ⟨gap, moves, trivia, stops⟩ := hypothesis false (position + '\n'.utf8Size) (line + 1)
      have blank := trivia.blank (by decide : Text.isBlank '\n' = true)
      refine ⟨'\n' :: gap, (moves_newline ..).trans moves, ?_, stops⟩
      cases comment
      · exact blank
      · exact .comment_nil (by simp) blank
    · next plain =>
      split
      · next inside =>
        obtain ⟨rfl, other⟩ : comment = true ∧ c ≠ '\r' := by simpa using inside
        obtain ⟨gap, moves, trivia, stops⟩ := hypothesis true (position + c.utf8Size) line
        exact ⟨c :: gap, (moves_char _ _ _ plain).trans moves, trivia.comment_cons ⟨plain, other⟩,
          stops⟩
      · next outside =>
        split
        · next blank =>
          obtain ⟨gap, moves, trivia, stops⟩ := hypothesis false (position + c.utf8Size) line
          refine ⟨c :: gap, (moves_char _ _ _ plain).trans moves, ?_, stops⟩
          cases comment
          · exact .blank blank trivia
          · obtain rfl : c = '\r' := by simpa using outside
            exact .comment_nil (by simp) (.blank blank trivia)
        · next visible =>
          cases comment
          · split
            · next sign =>
              subst sign
              obtain ⟨gap, moves, trivia, stops⟩ := hypothesis true (position + '#'.utf8Size) line
              exact ⟨'#' :: gap, (moves_char _ _ _ plain).trans moves, trivia, stops⟩
            · exact ⟨[], .refl _, .nil, by simpa using plain⟩
          · obtain rfl : c = '\r' := by simpa using outside
            exact absurd (by decide) visible

/-- The place of the next lexeme, and what stands before it. -/
theorem skip_moves (cursor : Cursor) :
    ∃ gap, Moves cursor cursor.skip gap ∧ IsTrivia cursor.skip.rest gap ∧
      ∀ c ∈ cursor.skip.rest.head?, c ≠ '\n' :=
  skipFrom_moves false cursor.position cursor.line cursor.rest

end Cursor

/-- Every character takes some bytes. -/
theorem Span.length_le_width (text : List Char) : text.length ≤ Span.width text := by
  induction text with
  | nil => exact Nat.le_refl _
  | cons c text hypothesis =>
    have own := c.utf8Size_pos
    rw [List.length_cons, Span.width_cons]
    omega

/-- And so does every line break. -/
theorem Span.count_le_width (text : List Char) : text.count '\n' ≤ Span.width text :=
  Nat.le_trans List.count_le_length (length_le_width text)

namespace Item

/-- The span of a lexeme goes from its place to the place behind it. -/
theorem span_item (cursor : Cursor) (lexeme : Lexeme) :
    span (cursor.item lexeme) = cursor.spanTo (cursor.behind lexeme) := by
  unfold Cursor.item
  split <;> rfl

/-- The line of a lexeme is that of its place. -/
theorem line_item (cursor : Cursor) (lexeme : Lexeme) :
    line (cursor.item lexeme) = .ofNat cursor.line := by
  unfold Cursor.item
  split <;> rfl

end Item

namespace Cursor

variable {source before : List Char} {cursor : Cursor}

section Counting

variable (short : Span.width source < UInt32.size - 1) (reached : Moves ⟨0, 1, source⟩ cursor before)
include short reached

/-- The bytes before a place are among those of the source. -/
theorem Moves.width_lt : Span.width before < UInt32.size - 1 := by
  have whole : source = before ++ cursor.rest := reached.rest_eq
  rw [whole, Span.width_append] at short
  exact Nat.lt_of_le_of_lt (Nat.le_add_right _ _) short

/-- A word can count the bytes before any place of a source that is short enough. -/
theorem Moves.toNat_position : (UInt32.ofNat cursor.position).toNat = Span.width before := by
  have inside := reached.width_lt short
  rw [reached.position_eq, Nat.zero_add]
  exact UInt32.toNat_ofNat_of_lt' (Nat.lt_trans inside (by decide))

/-- It can count the lines as well. -/
theorem Moves.toNat_line : (UInt32.ofNat cursor.line).toNat = 1 + before.count '\n' := by
  have inside := reached.width_lt short
  have breaks := Span.count_le_width before
  rw [reached.line_eq]
  exact UInt32.toNat_ofNat_of_lt' (show 1 + before.count '\n' < UInt32.size by omega)

end Counting

/-- Reading a lexeme moves the cursor over its text. -/
theorem moves_behind {lexeme : Lexeme} (ahead : cursor.rest = lexeme.text ++ lexeme.rest)
    (plain : '\n' ∉ lexeme.text) : Moves cursor (cursor.behind lexeme) lexeme.text :=
  ⟨ahead, rfl, by rw [List.count_eq_zero.2 plain, Nat.add_zero]; rfl⟩

/-- Where characters are ahead, a lexeme is read, behind white space and comments. -/
theorem exists_next (ahead : cursor.skip.rest ≠ []) : ∃ gap lexeme, Moves cursor cursor.skip gap ∧
    IsTrivia cursor.skip.rest gap ∧ cursor.skip.rest = lexeme.text ++ lexeme.rest ∧
    lexeme.text ≠ [] ∧ '\n' ∉ lexeme.text ∧
    (∀ kind, lexeme.shape = .ok kind → kind ≠ .eof ∧ kind.IsMaximal lexeme.rest) ∧
    cursor.next = (cursor.skip.item lexeme, cursor.skip.behind lexeme) := by
  obtain ⟨gap, skipped, trivia, stops⟩ := skip_moves cursor
  obtain ⟨c, rest, found⟩ := List.exists_cons_of_ne_nil ahead
  refine ⟨gap, Lexeme.next c rest, skipped, trivia, ?_, Lexeme.text_ne_nil c rest, ?_,
    fun _ => Lexeme.isMaximal_next, ?_⟩
  · exact found.trans (Lexeme.text_append_rest c rest).symm
  · exact Lexeme.newline_notMem_text (stops c (by rw [found]; rfl))
  · simp only [next, found]

/-- Reading moves the cursor over some text. -/
theorem moves_next (ahead : cursor.skip.rest ≠ []) : ∃ text, Moves cursor cursor.next.2 text := by
  obtain ⟨gap, lexeme, skipped, _, split, _, plain, _, read⟩ := exists_next ahead
  rw [read]
  exact ⟨gap ++ lexeme.text, skipped.trans (moves_behind split plain)⟩

/-- What reading gives at a place where characters are ahead: an item that stands for the text of a
lexeme, over which the cursor moves. -/
theorem next_moves (short : Span.width source < UInt32.size - 1)
    (reached : Moves ⟨0, 1, source⟩ cursor before) (ahead : cursor.skip.rest ≠ []) :
    ∃ gap text, IsGap source (Span.width before) (Item.span cursor.next.1).start.toNat ∧
      Moves ⟨0, 1, source⟩ cursor.next.2 (before ++ gap ++ text) ∧
      (Item.span cursor.next.1).stop.toNat = Span.width (before ++ gap ++ text) ∧
      Item.Stands source cursor.next.1 := by
  obtain ⟨gap, lexeme, skipped, trivia, split, nonempty, plain, maximal, read⟩ := exists_next ahead
  have place := reached.trans skipped
  have moved := place.trans (moves_behind split plain)
  have start := place.toNat_position short
  have stop := moved.toNat_position short
  have line := place.toNat_line short
  have whole : source = before ++ gap ++ lexeme.text ++ lexeme.rest := by
    rw [List.append_assoc, ← split]
    exact place.rest_eq
  rw [read]
  refine ⟨gap, lexeme.text, ?_, moved, ?_, before ++ gap, lexeme.text, lexeme.rest, whole, nonempty,
    ?_, ?_, ?_, ?_⟩
  · rw [Item.span_item]
    exact ⟨before, gap, cursor.skip.rest, place.rest_eq, rfl, start, trivia⟩
  · rw [Item.span_item]
    exact stop
  · rw [Item.span_item]
    exact start
  · rw [Item.span_item]
    exact stop
  · rw [Item.line_item]
    exact line
  · intro token same
    unfold item at same
    cases shape : lexeme.shape with
    | error cause =>
      rw [shape] at same
      contradiction
    | ok kind =>
      rw [shape] at same
      cases same
      exact ⟨(maximal kind shape).1, rfl, (maximal kind shape).2⟩

/-- What reading gives where nothing is ahead but white space and comments. -/
theorem next_last (short : Span.width source < UInt32.size - 1)
    (reached : Moves ⟨0, 1, source⟩ cursor before) (done : cursor.skip.rest = []) :
    ∃ line offset, cursor.next.1 = .ok (.endOfInput line offset) ∧
      line.toNat = 1 + source.count '\n' ∧ offset.toNat = Span.width source ∧
      IsGap source (Span.width before) (Span.width source) := by
  obtain ⟨gap, skipped, trivia, _⟩ := skip_moves cursor
  have place := reached.trans skipped
  have whole : source = before ++ gap := by
    have split := place.rest_eq
    rwa [done, List.append_nil] at split
  have line := place.toNat_line short
  have offset := place.toNat_position short
  rw [← whole] at line offset
  refine ⟨_, _, by simp only [next, done], line, offset, before, gap, [], ?_, rfl, by rw [← whole],
    done ▸ trivia⟩
  rw [List.append_nil]
  exact whole

end Cursor

/-- An item in front of items that cover the source behind it. -/
theorem Covers.cons {source : List Char} {start : UInt32} {item : Item} {items : List Item}
    (rest : Covers source (Item.span item).stop items) (stands : Item.Stands source item)
    (gap : IsGap source start.toNat (Item.span item).start.toNat) :
    Covers source start (item :: items) := by
  obtain ⟨last, inner, gaps⟩ := rest
  cases items with
  | nil =>
    obtain ⟨_, _, none, _⟩ := last
    contradiction
  | cons next items =>
    obtain ⟨first, others⟩ := List.isChain_cons_cons.1 gaps
    exact ⟨last, List.forall_mem_cons.2 ⟨stands, inner⟩, .cons_cons gap (.cons_cons first others)⟩

namespace Cursor

variable {source : List Char}

/-- From any place that it has come to, reading covers the rest of the source. -/
theorem covers_of_moves (short : Span.width source < UInt32.size - 1) (cursor : Cursor) :
    ∀ {before : List Char} {start : UInt32}, Moves ⟨0, 1, source⟩ cursor before →
      start.toNat = Span.width before → Covers source start cursor.items := by
  fun_induction items cursor with
  | case1 cursor done =>
    intro before start reached starts
    obtain ⟨line, offset, item, lines, bytes, gap⟩ := next_last short reached done
    rw [item]
    rw [← starts, ← bytes] at gap
    exact ⟨⟨line, offset, rfl, lines, bytes⟩, List.forall_mem_nil _, .cons_cons gap (.singleton _)⟩
  | case2 cursor ahead hypothesis =>
    intro before start reached starts
    obtain ⟨gap, text, isGap, moves, stop, stands⟩ := next_moves short reached ahead
    exact (hypothesis moves stop).cons stands (starts ▸ isGap)

end Cursor

/-- A text that is not empty takes some bytes. -/
theorem Span.width_pos {text : List Char} (nonempty : text ≠ []) : 0 < Span.width text := by
  obtain ⟨c, rest, rfl⟩ := List.exists_cons_of_ne_nil nonempty
  exact Nat.add_pos_left c.utf8Size_pos _

/-- The width of a text is the number of its bytes. -/
theorem Span.width_eq (text : List Char) : Span.width text = (String.ofList text).utf8ByteSize := by
  induction text with
  | nil => rfl
  | cons c rest hypothesis =>
    rw [String.ofList_cons, String.utf8ByteSize_append, String.utf8ByteSize_singleton, ← hypothesis]
    rfl

/-- The span of an item that stands for a text is not empty. -/
theorem Item.Stands.start_lt_stop {source : List Char} {item : Item}
    (stands : Item.Stands source item) : (Item.span item).start < (Item.span item).stop := by
  obtain ⟨before, text, after, _, nonempty, start, stop, _⟩ := stands
  have taken := Span.width_pos nonempty
  rw [UInt32.lt_iff_toNat_lt, start, stop, Span.width_append]
  omega

/-- A gap ends no earlier than it starts. -/
theorem IsGap.le {source : List Char} {start stop : Nat} (gap : IsGap source start stop) :
    start ≤ stop := by
  obtain ⟨before, gap, after, _, rfl, rfl, _⟩ := gap
  rw [Span.width_append]
  exact Nat.le_add_right _ _

/-- Spans with gaps between them stand in order, if none ends before it starts. -/
theorem ordered_of_gaps {source : List Char} {spans : List Span} : ∀ {first : Span},
    (first :: spans).IsChain (fun early late =>
      IsGap source early.stop.toNat late.start.toNat) →
    (∀ span ∈ spans, span.start ≤ span.stop) →
    (first :: spans).Pairwise fun early late => early.stop ≤ late.start := by
  induction spans with
  | nil => exact fun _ _ => .cons (List.forall_mem_nil _) .nil
  | cons next spans hypothesis =>
    intro first gaps forward
    obtain ⟨gap, gaps⟩ := List.isChain_cons_cons.1 gaps
    obtain ⟨own, forward⟩ := List.forall_mem_cons.1 forward
    have ordered := hypothesis gaps forward
    have before : first.stop ≤ next.start := UInt32.le_iff_toNat_le.2 gap.le
    refine .cons (List.forall_mem_cons.2 ⟨before, fun span member => ?_⟩) ordered
    exact UInt32.le_trans (UInt32.le_trans before own) (List.rel_of_pairwise_cons ordered member)

/-- Items that cover a source stand in order, and their spans do not overlap. -/
theorem Covers.ordered {source : List Char} {start : UInt32} {items : List Item}
    (covers : Covers source start items) :
    (items.map Item.span).Pairwise fun early late => early.stop ≤ late.start := by
  obtain ⟨line, offset, last, _⟩ := covers.last
  refine (ordered_of_gaps covers.gaps fun span member => ?_).of_cons
  obtain ⟨item, inside, rfl⟩ := List.mem_map.1 member
  rw [← List.dropLast_append_getLast? _ last, List.mem_append, List.mem_singleton] at inside
  rcases inside with inner | rfl
  · exact UInt32.le_of_lt (covers.stands item inner).start_lt_stop
  · exact UInt32.le_refl _

/-- A lexer in front of a source that is not empty starts at its first byte. -/
theorem Cursor.start_of_ne_empty {source : String} (nonempty : source ≠ "") :
    start source = ⟨0, 1, source.toList⟩ := by
  have some : source.toList ≠ [] := by simpa using nonempty
  unfold start Lexer.ofSource Lexer.start
  generalize source.toList = chars at some
  match chars with
  | [] => contradiction
  | [c] => rfl
  | c :: d :: rest => rfl

variable {source : String}

/-- Whatever a source is, it is covered from its first byte on, if its bytes can be counted. -/
theorem Cursor.covers_mk (short : source.utf8ByteSize < UInt32.size - 1) :
    Covers source.toList 0 (Cursor.mk 0 1 source.toList).items :=
  covers_of_moves (by rwa [Span.width_eq, String.ofList_toList]) _ (.refl _) rfl

namespace Lexer

/-- The items of a source that is not empty cover it. -/
theorem covers_ofSource (nonempty : source ≠ "") (short : source.utf8ByteSize < UInt32.size - 1) :
    Covers source.toList 0 ((ofSource source).items.map (·.2)) := by
  rw [items_ofSource, Cursor.start_of_ne_empty nonempty]
  exact Cursor.covers_mk short

/-- The items of a source that is not empty and whose bytes can be counted cover it: the spans stand
in order and do not overlap, and all but that of the end of the input have some bytes. -/
theorem covers_items (nonempty : source ≠ "") (short : source.utf8ByteSize < UInt32.size - 1) :
    let items := (ofSource source).items.map (·.2)
    Covers source.toList 0 items ∧
      (items.map Item.span).Pairwise (fun early late => early.stop ≤ late.start) ∧
      ∀ item ∈ items.dropLast, (Item.span item).start < (Item.span item).stop := by
  have covers := covers_ofSource nonempty short
  exact ⟨covers, covers.ordered, fun item member => (covers.stands item member).start_lt_stop⟩

/-- White space and a comment that ends at a carriage return, words, operators and malformed
numbers. -/
theorem covers_items_mixed :
    "# é\r\nπ2==.5 1.5.2 x1.y" ≠ "" ∧ "# é\r\nπ2==.5 1.5.2 x1.y".utf8ByteSize < UInt32.size - 1 ∧
      Covers "# é\r\nπ2==.5 1.5.2 x1.y".toList 0
        ((ofSource "# é\r\nπ2==.5 1.5.2 x1.y").items.map (·.2)) :=
  ⟨by decide, by decide, (covers_items (by decide) (by decide)).1⟩

end Lexer

end Kaleidoscope
