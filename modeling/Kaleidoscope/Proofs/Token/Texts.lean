import Kaleidoscope.Proofs.Syntax.Writing
import Kaleidoscope.Proofs.Token.Lines

/-!
# Texts of tokens

A token is read from its own text (`Token.IsRead`), so its text decides what it is
(`Token.IsRead.bare_eq`), and texts with spaces between them are read as the tokens that they are the
texts of (`Token.scan_joined`): a space is taken in by none, and moving over it ends at the first
character of the next text, which is neither white space nor starts a comment.
-/
namespace Kaleidoscope

/-- A character that a lexeme can start with: it is neither white space nor starts a comment. -/
def Text.IsVisible (c : Char) : Prop := isBlank c = false ∧ c ≠ '#'

namespace Token

/-- A token is read from the given text, its first character apart. -/
structure IsReadFrom (token : Token) (c : Char) (text : List Char) : Prop where
  /-- The text is not passed over. -/
  visible : Text.IsVisible c
  /-- The whole text is read as a token of this kind. -/
  next_eq : Lexeme.next c text = ⟨.ok token.kind, c :: text, []⟩
  /-- The token has the text. -/
  lexeme_eq : token.lexeme = String.ofList (c :: text)
  /-- The token carries what the text stands for. -/
  literal_eq : token.literal = literalOf token.kind (c :: text)

/-- A token that is read from its own text. -/
def IsRead (token : Token) : Prop := ∃ c text, token.IsReadFrom c text

/-- The texts of tokens with spaces between them. -/
def joined (tokens : List Token) : String := " ".intercalate (tokens.map (·.lexeme))

variable {token other : Token}

/-- The text of a token decides what it is, its place apart. -/
theorem IsRead.bare_eq (read : token.IsRead) (again : other.IsRead)
    (same : token.lexeme = other.lexeme) : token.bare = other.bare := by
  obtain ⟨c, text, read⟩ := read
  obtain ⟨d, more, again⟩ := again
  have texts := read.lexeme_eq.symm.trans (same.trans again.lexeme_eq)
  obtain ⟨rfl, rfl⟩ := List.cons.inj (String.ofList_injective texts)
  have kinds : token.kind = other.kind :=
    Except.ok.inj (congrArg Lexeme.shape (read.next_eq.symm.trans again.next_eq))
  have literals : token.literal = other.literal := by
    rw [read.literal_eq, again.literal_eq, kinds]
  obtain ⟨kind, lexeme, line, span, literal⟩ := token
  obtain ⟨kind', lexeme', line', span', literal'⟩ := other
  simp_all [bare]

end Token

namespace Cursor

/-- A cursor that has moved over white space and comments is in front of a visible character. -/
theorem isVisible_skipFrom (comment : Bool) (position line : Nat) (ahead : List Char) :
    ∀ c ∈ (skipFrom comment position line ahead).rest.head?, Text.IsVisible c := by
  induction ahead generalizing comment position line with
  | nil => exact fun _ none => by contradiction
  | cons c rest hypothesis =>
    rw [skipFrom_cons]
    split
    · exact hypothesis _ _ _
    · split
      · exact hypothesis _ _ _
      · split
        · exact hypothesis _ _ _
        · next blank =>
          split
          · exact hypothesis _ _ _
          · next sign =>
            intro first member
            obtain rfl := Option.some.inj member
            exact ⟨Bool.eq_false_iff.2 blank, sign⟩

/-- A token that is read, other than the end of the input, is read from its own text. -/
theorem isRead_next {cursor : Cursor} {token : Token} (read : cursor.next.1 = .ok token)
    (before : token.kind ≠ .eof) : token.IsRead := by
  have visible := isVisible_skipFrom false cursor.position cursor.line cursor.rest
  rcases exists_lexeme read with rfl | ⟨c, rest, found, shape, lexeme, literal⟩
  · exact absurd rfl before
  · obtain ⟨text, taken, own⟩ := Lexeme.next_text shape
    rw [taken] at lexeme literal
    exact ⟨c, text, visible c (congrArg List.head? found), own, lexeme, literal⟩

end Cursor

/-- The tokens of a source but its end are read from their own texts. -/
theorem Token.isRead_of_scan {source : String} {tokens : List Token}
    (scanned : Token.scan source = .ok tokens) :
    ∀ token ∈ tokens, token.kind ≠ .eof → token.IsRead :=
  Token.forall_of_scan Cursor.isRead_next scanned

namespace Cursor

/-- Moving over a visible character is not possible. -/
theorem skipFrom_of_isVisible {c : Char} (visible : Text.IsVisible c) (position line : Nat)
    (rest : List Char) : skipFrom false position line (c :: rest) = ⟨position, line, c :: rest⟩ := by
  have plain : c ≠ '\n' := by
    rintro rfl
    exact absurd visible.1 (by decide)
  rw [skipFrom_cons]
  simp [plain, visible.1, visible.2]

/-- The text of a token in front of a space or the end is read as that token. -/
theorem next_of_isReadFrom {cursor : Cursor} {token : Token} {c : Char} {text back : List Char}
    (read : token.IsReadFrom c text) (here : cursor.skip.rest = c :: (text ++ back))
    (separated : ∀ d ∈ back.head?, d = ' ') :
    ∃ again : Token, cursor.next.1 = .ok again ∧ again.bare = token.bare ∧
      cursor.next.2.rest = back := by
  have lexeme : Lexeme.next c (text ++ back) = ⟨.ok token.kind, c :: text, back⟩ := by
    cases back with
    | nil => rw [List.append_nil, read.next_eq]
    | cons d back =>
      obtain rfl := separated d rfl
      rw [Lexeme.next_append Text.isSeparator_space, read.next_eq]
      rfl
  have bare : (Token.mk token.kind (String.ofList (c :: text)) 0 default
      (Token.literalOf token.kind (c :: text))).bare = token.bare := by
    rw [← read.lexeme_eq, ← read.literal_eq]
    rfl
  unfold next
  simp only [here, lexeme]
  exact ⟨_, rfl, bare, rfl⟩

/-- The texts of tokens, each with a space before it. -/
def spaced (tokens : List Token) : List Char := tokens.flatMap fun token => ' ' :: token.lexeme.toList

/-- The texts of tokens with spaces between them. -/
theorem toList_joined (tokens : List Token) :
    (Token.joined tokens).toList = (spaced tokens).drop 1 := by
  unfold Token.joined
  induction tokens with
  | nil => rfl
  | cons token tokens hypothesis =>
    cases tokens with
    | nil => simp [spaced]
    | cons next tokens =>
      rw [List.map_cons, List.map_cons, String.intercalate_cons_cons, String.toList_append,
        String.toList_append, ← List.map_cons, hypothesis]
      simp [spaced]

/-- In front of texts of tokens, a cursor moves over the space before the first, if there is any. -/
theorem rest_skip_spaced {tokens : List Token} (read : ∀ token ∈ tokens, token.IsRead)
    {cursor : Cursor}
    (ahead : cursor.rest = spaced tokens ∨ cursor.rest = (spaced tokens).drop 1) :
    cursor.skip.rest = (spaced tokens).drop 1 := by
  obtain ⟨position, line, rest⟩ := cursor
  cases tokens with
  | nil =>
    obtain rfl : rest = [] := ahead.elim id id
    rfl
  | cons token tokens =>
    obtain ⟨c, text, own⟩ := read token List.mem_cons_self
    have texts : spaced (token :: tokens) = ' ' :: c :: (text ++ spaced tokens) := by
      simp [spaced, own.lexeme_eq]
    rw [texts] at ahead ⊢
    have stays := fun position => skipFrom_of_isVisible own.visible position line
    rcases ahead with rfl | rfl
    · exact congrArg Cursor.rest (stays (position + ' '.utf8Size) (text ++ spaced tokens))
    · exact congrArg Cursor.rest (stays position (text ++ spaced tokens))

/-- Texts of tokens with spaces between them are read as these tokens, up to their places. -/
theorem items_spaced {tokens : List Token} (read : ∀ token ∈ tokens, token.IsRead) :
    ∀ {cursor : Cursor}, cursor.skip.rest = (spaced tokens).drop 1 →
      ∃ (again : List Token) (line offset : UInt32),
        cursor.items = (again ++ [Token.endOfInput line offset]).map .ok ∧
        again.map Token.bare = tokens.map Token.bare := by
  induction tokens with
  | nil => exact fun done => ⟨[], _, _, items_of_nil done, rfl⟩
  | cons token tokens hypothesis =>
    intro cursor here
    obtain ⟨⟨c, text, own⟩, others⟩ := List.forall_mem_cons.1 read
    have texts : (spaced (token :: tokens)).drop 1 = c :: (text ++ spaced tokens) := by
      simp [spaced, own.lexeme_eq]
    have separated : ∀ d ∈ (spaced tokens).head?, d = ' ' := by
      intro d member
      cases tokens with
      | nil => contradiction
      | cons next tokens => exact (Option.some.inj member).symm
    rw [texts] at here
    obtain ⟨again, found, same, left⟩ := next_of_isReadFrom own here separated
    obtain ⟨more, line, offset, items, bares⟩ := hypothesis others (rest_skip_spaced others (.inl left))
    refine ⟨again :: more, line, offset, ?_, by rw [List.map_cons, List.map_cons, same, bares]⟩
    rw [items_of_ne_nil (by rw [here]; exact List.cons_ne_nil _ _), found, items]
    rfl

end Cursor

namespace Token

/-- The texts of the tokens of a source with spaces between them, its end left out, are read as the
same tokens, up to their places. -/
theorem scan_joined {source : String} {tokens : List Token} (scanned : scan source = .ok tokens) :
    ∃ again, scan (joined (tokens.filter (·.kind ≠ .eof))) = .ok again ∧
      again.map bare = tokens.map bare := by
  have read := isRead_of_scan scanned
  obtain ⟨line, offset, whole⟩ := scan_eq_dropLast source
  rw [scanned] at whole
  cases found : (Cursor.mk 0 1 source.toList).items.dropLast.mapM id with
  | error error =>
    rw [found] at whole
    contradiction
  | ok front =>
    rw [found] at whole
    obtain rfl := Except.ok.inj whole
    have before := kind_ne_eof_of_dropLast found
    have inside : ∀ token ∈ front, token.IsRead := fun token member =>
      read token (List.mem_append_left _ member) (before token member)
    rw [filter_append_endOfInput before]
    have begins : (Cursor.start (joined front)).rest = (Cursor.spaced front).drop 1 :=
      Cursor.toList_joined front
    obtain ⟨again, later, further, items, same⟩ :=
      Cursor.items_spaced inside (Cursor.rest_skip_spaced inside (.inr begins))
    refine ⟨again ++ [endOfInput later further], ?_, ?_⟩
    · rw [scan_eq_mapM, items, List.mapM_map]
      exact List.mapM_pure.trans (congrArg Except.ok (List.map_id _))
    · rw [List.map_append, List.map_append, same]
      rfl

/-- Tokens that nothing separates, among them a number in front of a word, two equality signs of
different lengths, and a numeral that is no digit of numbers. -/
theorem scan_joined_adjacent :
    ∃ tokens, scan "2if===.٣y# é" = .ok tokens ∧
      joined (tokens.filter (·.kind ≠ .eof)) = "2 if == = . ٣ y" ∧
      ∃ again, scan "2 if == = . ٣ y" = .ok again ∧ again.map bare = tokens.map bare := by
  have texts : (scan "2if===.٣y# é").toOption.map (fun tokens =>
      joined (tokens.filter (·.kind ≠ .eof))) = some "2 if == = . ٣ y" := by
    decide +kernel
  cases scanned : scan "2if===.٣y# é" with
  | error error =>
    rw [scanned] at texts
    contradiction
  | ok tokens =>
    rw [scanned] at texts
    have texts := Option.some.inj texts
    exact ⟨tokens, rfl, texts, texts ▸ scan_joined scanned⟩

end Token

end Kaleidoscope
