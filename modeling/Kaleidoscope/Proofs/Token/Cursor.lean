import Kaleidoscope.Proofs.Token.Lexemes

/-!
# Places in a source

A cursor is a place in a source: how many bytes and lines have been passed, and what is ahead. It
needs no window. It moves over white space and comments and then over one lexeme, the width of whose
text it adds to its offset.

The window that a lexer has at a place follows from the place (`Cursor.lexer`), the offset of the next
character included, and that of the places behind the last character as well. Each move of the window
is a move of the cursor (`Cursor.advance_lexer`), so a lexer reads what a cursor reads
(`Lexer.items_ofSource`), however long the source is; only that the lexer counts bytes and lines in
words of 32 bits.
-/
namespace Kaleidoscope

/-- A place in a source and the characters ahead of it. -/
structure Cursor where
  /-- Bytes passed. -/
  position : Nat
  /-- The line reached, counted from one. -/
  line : Nat
  /-- The characters ahead. -/
  rest : List Char

namespace Cursor

/-- The place where a lexer starts to read a source. -/
def start (source : String) : Cursor := ⟨(Lexer.ofSource source).position.toNat, 1, source.toList⟩

/-- Move over white space and comments, perhaps from inside of a comment. -/
def skipFrom (comment : Bool) (position line : Nat) : List Char → Cursor
  | [] => ⟨position, line, []⟩
  | c :: rest =>
    if c = '\n' then skipFrom false (position + c.utf8Size) (line + 1) rest
    else if comment && c ≠ '\r' then skipFrom true (position + c.utf8Size) line rest
    else if Text.isBlank c then skipFrom false (position + c.utf8Size) line rest
    else if c = '#' then skipFrom true (position + c.utf8Size) line rest
    else ⟨position, line, c :: rest⟩

/-- The place of the next lexeme. -/
def skip (cursor : Cursor) : Cursor := skipFrom false cursor.position cursor.line cursor.rest

/-- The place behind a lexeme. -/
def behind (cursor : Cursor) (lexeme : Lexeme) : Cursor :=
  ⟨cursor.position + Span.width lexeme.text, cursor.line, lexeme.rest⟩

/-- The span from one place to another. -/
def spanTo (first last : Cursor) : Span := ⟨.ofNat first.position, .ofNat last.position⟩

/-- The token or error that a lexeme is at a place. -/
def item (cursor : Cursor) (lexeme : Lexeme) : Item :=
  match lexeme.shape with
  | .ok kind =>
    .ok ⟨kind, String.ofList lexeme.text, .ofNat cursor.line, cursor.spanTo (cursor.behind lexeme),
      Token.literalOf kind lexeme.text⟩
  | .error cause => .error ⟨cause, cursor.spanTo (cursor.behind lexeme), .ofNat cursor.line⟩

/-- The next token or error, and the place behind it. -/
def next (cursor : Cursor) : Item × Cursor :=
  match cursor.skip.rest with
  | [] => (.ok (.endOfInput (.ofNat cursor.skip.line) (.ofNat cursor.skip.position)), cursor.skip)
  | c :: rest => (cursor.skip.item (Lexeme.next c rest), cursor.skip.behind (Lexeme.next c rest))

/-- Moving over one character of white space or a comment. -/
theorem skipFrom_cons (comment : Bool) (position line : Nat) (c : Char) (rest : List Char) :
    skipFrom comment position line (c :: rest) =
      if c = '\n' then skipFrom false (position + c.utf8Size) (line + 1) rest
      else if comment && c ≠ '\r' then skipFrom true (position + c.utf8Size) line rest
      else if Text.isBlank c then skipFrom false (position + c.utf8Size) line rest
      else if c = '#' then skipFrom true (position + c.utf8Size) line rest
      else ⟨position, line, c :: rest⟩ := rfl

/-- Moving over white space and comments adds no character. -/
theorem rest_skipFrom_le (comment : Bool) (position line : Nat) (rest : List Char) :
    (skipFrom comment position line rest).rest.length ≤ rest.length := by
  induction rest generalizing comment position line with
  | nil => simp [skipFrom]
  | cons c rest hypothesis =>
    have skipped (comment : Bool) (position line : Nat) :
        (skipFrom comment position line rest).rest.length ≤ (c :: rest).length :=
      Nat.le_succ_of_le (hypothesis comment position line)
    rw [skipFrom_cons]
    split
    · exact skipped ..
    · split
      · exact skipped ..
      · split
        · exact skipped ..
        · split
          · exact skipped ..
          · exact Nat.le_refl _

/-- Reading a lexeme leaves fewer characters ahead. -/
theorem rest_next_lt {cursor : Cursor} (ahead : cursor.skip.rest ≠ []) :
    cursor.next.2.rest.length < cursor.rest.length := by
  have skipped : cursor.skip.rest.length ≤ cursor.rest.length := rest_skipFrom_le ..
  unfold next
  split
  · next empty => exact absurd empty ahead
  · next c rest found =>
    rw [found] at skipped
    exact Nat.lt_of_lt_of_le (Lexeme.rest_length_lt c rest) skipped

/-- Everything ahead, errors included. The last item is the end of the input, and no other is. -/
def items (cursor : Cursor) : List Item :=
  if _ahead : cursor.skip.rest = [] then [cursor.next.1]
  else cursor.next.1 :: cursor.next.2.items
termination_by cursor.rest.length
decreasing_by exact rest_next_lt _ahead

/-- How far the offset moves over the next character: by its width, and by one where none is left. -/
def stride : List Char → Nat
  | [] => 1
  | c :: _ => c.utf8Size

/-- The lexer at a place, with the two characters ahead in its window. -/
def lexer (cursor : Cursor) : Lexer where
  position := .ofNat cursor.position
  nextPosition := .ofNat (cursor.position + stride cursor.rest)
  current := cursor.rest.head?
  following := cursor.rest.tail.head?
  line := .ofNat cursor.line
  finished := false
  input := Lexer.indices (cursor.position + stride cursor.rest + stride cursor.rest.tail)
    cursor.rest.tail.tail

/-- The current character is the first one ahead. -/
@[simp] theorem current_lexer (cursor : Cursor) : cursor.lexer.current = cursor.rest.head? := rfl

/-- The character that follows is the second one ahead. -/
@[simp] theorem following_lexer (cursor : Cursor) :
    cursor.lexer.following = cursor.rest.tail.head? := rfl

section Window

/-- The window moves over a character as the cursor does, also where the source ends behind it. -/
theorem advance_lexer (position line : Nat) (c : Char) (rest : List Char) :
    (Cursor.mk position line (c :: rest)).lexer.advance =
      (Cursor.mk (position + c.utf8Size) line rest).lexer := by
  match rest with
  | [] => simp [lexer, Lexer.advance, Lexer.indices, stride, UInt32.ofNat_add]
  | [d] => simp [lexer, Lexer.advance, Lexer.indices, stride, UInt32.ofNat_add]
  | d :: e :: rest => simp [lexer, Lexer.advance, Lexer.indices, stride]

/-- After its first two moves, the window is at the start of the source. -/
theorem lexer_start (source : String) : (start source).lexer = Lexer.ofSource source := by
  unfold start Lexer.ofSource Lexer.start
  generalize source.toList = chars
  match chars with
  | [] => rfl
  | [c] => simp [lexer, Lexer.advance, Lexer.indices, stride]
  | c :: d :: rest => simp [lexer, Lexer.advance, Lexer.indices, stride]

/-- Collecting some characters ahead. -/
theorem take_lexer (text : List Char) : ∀ (position line : Nat) (rest : List Char),
    (Cursor.mk position line (text ++ rest)).lexer.take text.length =
      (text, (Cursor.mk (position + Span.width text) line rest).lexer) := by
  induction text with
  | nil => exact fun _ _ _ => rfl
  | cons c text hypothesis =>
    intro position line rest
    simp only [List.cons_append, List.length_cons, Lexer.take, advance_lexer, hypothesis]
    simp [lexer, Span.width, Nat.add_assoc]

/-- Collecting the characters of some kind ahead. -/
theorem takeWhile_lexer (holds : Char → Bool) (line : Nat) : ∀ (position : Nat) (rest : List Char),
    (Cursor.mk position line rest).lexer.takeWhile holds =
      (rest.takeWhile holds,
        (Cursor.mk (position + Span.width (rest.takeWhile holds)) line
          (rest.dropWhile holds)).lexer) := by
  intro position rest
  induction rest generalizing position with
  | nil => exact Lexer.takeWhile_of_not (fun _ none => by contradiction)
  | cons c rest hypothesis =>
    have here : (Cursor.mk position line (c :: rest)).lexer.current = some c := rfl
    cases own : holds c with
    | true =>
      rw [Lexer.takeWhile_of_holds here own, advance_lexer, hypothesis]
      simp [own, Span.width, Nat.add_assoc]
    | false =>
      rw [Lexer.takeWhile_of_not (fun d member => Option.some.inj (here.symm.trans member) ▸ own)]
      simp [own, Span.width]

/-- Inside of a comment, a cursor moves to the end of the comment first. -/
theorem skipFrom_comment (line : Nat) (position : Nat) (rest : List Char) :
    skipFrom true position line rest =
      skipFrom false (position + Span.width (rest.takeWhile Lexer.staysInComment)) line
        (rest.dropWhile Lexer.staysInComment) := by
  induction rest generalizing position with
  | nil => rfl
  | cons c rest hypothesis =>
    by_cases inside : Lexer.staysInComment c = true
    · have plain : c ≠ '\n' ∧ c ≠ '\r' := by simpa [Lexer.staysInComment] using inside
      rw [skipFrom_cons]
      simp [plain, inside, hypothesis, Span.width, Nat.add_assoc]
    · have ends : c = '\n' ∨ c = '\r' := by
        simpa [Lexer.staysInComment, Decidable.imp_iff_not_or] using inside
      rcases ends with rfl | rfl <;> rfl

/-- A lexer moves over white space and comments as a cursor does. -/
theorem skip_lexer (position line : Nat) (rest : List Char) :
    (Cursor.mk position line rest).lexer.skip = (skipFrom false position line rest).lexer := by
  induction size : rest.length using Nat.strongRecOn generalizing position line rest with
  | _ size hypothesis =>
    subst size
    rw [Lexer.skip]
    split
    · next c here =>
      obtain ⟨rest, rfl⟩ := List.head?_eq_some_iff.1 here
      simp only [skipFrom_cons, advance_lexer, Bool.false_and, Bool.false_eq_true, if_false]
      split
      · have below := hypothesis _ (Nat.lt_succ_self _) (position + c.utf8Size) (line + 1) rest rfl
        rw [← below]
        simp [lexer, UInt32.ofNat_add]
      · split
        · exact hypothesis _ (Nat.lt_succ_self _) _ _ rest rfl
        · split
          · next sign =>
            subst sign
            have comment : ('#' :: rest).takeWhile Lexer.staysInComment =
                '#' :: rest.takeWhile Lexer.staysInComment := rfl
            have behind : ('#' :: rest).dropWhile Lexer.staysInComment =
                rest.dropWhile Lexer.staysInComment := rfl
            have shorter : (rest.dropWhile Lexer.staysInComment).length < ('#' :: rest).length :=
              Nat.lt_succ_of_le (List.dropWhile_suffix _).length_le
            rw [takeWhile_lexer, comment, behind, hypothesis _ shorter _ _ _ rfl, skipFrom_comment,
              Nat.add_assoc]
            rfl
          · rfl
    · next none =>
      obtain rfl := List.head?_eq_none_iff.1 none
      rfl

/-- A lexeme in order is read as a token. -/
theorem token_lexer {lexeme : Lexeme} {kind : Token.Kind} (cursor : Cursor)
    (shape : lexeme.shape = .ok kind) :
    cursor.lexer.token (cursor.behind lexeme).lexer kind lexeme.text = cursor.item lexeme := by
  unfold item
  rw [shape]
  rfl

/-- A malformed lexeme is read as an error. -/
theorem failure_lexer {lexeme : Lexeme} {cause : LexicalCause} (cursor : Cursor)
    (shape : lexeme.shape = .error cause) :
    cursor.lexer.failure (cursor.behind lexeme).lexer cause = cursor.item lexeme := by
  unfold item
  rw [shape]
  rfl

/-- Some characters of a kind are ahead if the first one is of that kind. -/
theorem takeWhile_eq_nil {holds : Char → Bool} {text : List Char} :
    text.takeWhile holds = [] ↔ text.head?.any holds = false := by
  cases text with
  | nil => simp
  | cons c text => cases own : holds c <;> simp [own]

/-- A word that a lexer reads is a lexeme at its place. -/
theorem word_lexer (cursor : Cursor) :
    cursor.lexer.word =
      (cursor.item (Lexeme.word cursor.rest), (cursor.behind (Lexeme.word cursor.rest)).lexer) := by
  obtain ⟨position, line, rest⟩ := cursor
  simp only [Lexer.word, takeWhile_lexer]
  rfl

/-- A number that a lexer reads is a lexeme at its place. -/
theorem number_lexer (cursor : Cursor) :
    cursor.lexer.number =
      (cursor.item (Lexeme.number cursor.rest),
        (cursor.behind (Lexeme.number cursor.rest)).lexer) := by
  obtain ⟨position, line, source⟩ := cursor
  unfold Lexer.number
  simp only [takeWhile_lexer, current_lexer]
  by_cases point : ∃ after, source.dropWhile Char.isDigit = '.' :: after
  · obtain ⟨after, point⟩ := point
    simp only [point, current_lexer, following_lexer, List.head?_cons, List.tail_cons, if_true,
      advance_lexer, takeWhile_lexer]
    by_cases missing : after.takeWhile Char.isDigit = []
    · rw [if_neg (by simp [takeWhile_eq_nil.1 missing]), Lexeme.number_of_missing point missing,
        ← failure_lexer _ rfl]
      simp [behind, Nat.add_assoc]
    · rw [if_pos (by simpa using mt takeWhile_eq_nil.2 missing)]
      by_cases again : ∃ extra, after.dropWhile Char.isDigit = '.' :: extra
      · obtain ⟨extra, again⟩ := again
        rw [Lexeme.number_of_repeated point missing again, ← failure_lexer _ rfl]
        simp [behind, again, advance_lexer, takeWhile_lexer, Nat.add_assoc]
      · rw [if_neg fun here => again (List.head?_eq_some_iff.1 here),
          Lexeme.number_of_fraction point missing (not_exists.1 again), ← token_lexer _ rfl]
        simp [behind, Nat.add_assoc]
  · rw [if_neg fun here => point (List.head?_eq_some_iff.1 here),
      Lexeme.number_of_whole (not_exists.1 point), ← token_lexer _ rfl]
    rfl

/-- A token of the characters ahead is a lexeme at its place. -/
theorem mark_lexer (position line : Nat) (kind : Token.Kind) (text rest : List Char) :
    (Cursor.mk position line (text ++ rest)).lexer.mark text.length kind =
      ((Cursor.mk position line (text ++ rest)).item ⟨.ok kind, text, rest⟩,
        ((Cursor.mk position line (text ++ rest)).behind ⟨.ok kind, text, rest⟩).lexer) := by
  simp only [Lexer.mark, take_lexer]
  rfl

/-- What a lexer reads from a character on is the lexeme ahead. -/
theorem readFrom_lexer {cursor : Cursor} {c : Char} {rest : List Char}
    (ahead : cursor.rest = c :: rest) :
    cursor.lexer.readFrom c =
      (cursor.item (Lexeme.next c rest), (cursor.behind (Lexeme.next c rest)).lexer) := by
  obtain ⟨position, line, _⟩ := cursor
  subst ahead
  have single := fun kind => mark_lexer position line kind [c] rest
  by_cases sign : c ∈ ['(', ')', ',', ';', '=']
  · simp only [List.mem_cons, List.not_mem_nil, or_false] at sign
    rcases sign with rfl | rfl | rfl | rfl | rfl
    · exact single .leftParen
    · exact single .rightParen
    · exact single .comma
    · exact single .semicolon
    · by_cases again : ∃ more, rest = '=' :: more
      · obtain ⟨more, rfl⟩ := again
        exact mark_lexer position line .operator ['=', '='] more
      · rw [Lexeme.next_of_equal (not_exists.1 again)]
        refine (if_neg fun here => ?_).trans (single .equal)
        exact again (List.head?_eq_some_iff.1 here)
  · rw [Lexeme.next_of_other sign, Lexer.readFrom_of_other sign]
    simp only [following_lexer, List.tail_cons]
    split
    · exact word_lexer ⟨position, line, c :: rest⟩
    · split
      · exact number_lexer ⟨position, line, c :: rest⟩
      · split
        · next point =>
          refine (if_pos point).trans ?_
          rw [← failure_lexer _ rfl]
          simp only [advance_lexer, takeWhile_lexer, behind, Span.width_cons, Nat.add_assoc]
        · next plain => exact (if_neg plain).trans (single .operator)

/-- A lexer reads the next token or error as a cursor does. -/
theorem read_lexer (cursor : Cursor) : cursor.lexer.read = (cursor.next.1, cursor.next.2.lexer) := by
  have skipped : cursor.lexer.skip = cursor.skip.lexer := skip_lexer ..
  unfold Lexer.read next
  simp only [skipped, current_lexer]
  cases ahead : cursor.skip.rest with
  | nil => rfl
  | cons c rest => exact readFrom_lexer ahead

/-- Where a lexeme is ahead, what is read is not the end of the input. -/
theorem isEnd_next {cursor : Cursor} (ahead : cursor.skip.rest ≠ []) :
    cursor.next.1.isEnd = false := by
  obtain ⟨c, rest, found⟩ := List.exists_cons_of_ne_nil ahead
  unfold next item
  simp only [found]
  cases shape : (Lexeme.next c rest).shape with
  | error cause => rfl
  | ok kind => exact decide_eq_false (Lexeme.isMaximal_next shape).1

/-- A lexer reads the same items as a cursor. -/
theorem items_lexer (cursor : Cursor) : cursor.lexer.items.map (·.2) = cursor.items := by
  fun_induction items cursor with
  | case1 cursor done =>
    have last : cursor.next.1 =
        .ok (.endOfInput (.ofNat cursor.skip.line) (.ofNat cursor.skip.position)) := by
      simp only [next, done]
    rw [Lexer.items_of_unfinished rfl, read_lexer, last]
    exact congrArg (_ :: ·) (congrArg (List.map _) (Lexer.items_of_finished rfl))
  | case2 cursor ahead hypothesis =>
    rw [Lexer.items_of_unfinished rfl, read_lexer, List.map_cons]
    simp only [isEnd_next ahead]
    exact congrArg (_ :: ·) hypothesis

end Window

end Cursor

/-- The items of a source are those that are read from its first place on. -/
theorem Lexer.items_ofSource (source : String) :
    (ofSource source).items.map (·.2) = (Cursor.start source).items := by
  rw [← Cursor.lexer_start, Cursor.items_lexer]

/-- The tokens of a source are what is read from its first place on, up to the first error. -/
theorem Token.scan_eq_mapM (source : String) :
    scan source = (Cursor.start source).items.mapM id := by
  rw [← Lexer.items_ofSource, List.mapM_map]
  rfl

end Kaleidoscope
