import Mathlib.Data.List.TakeWhile
import Kaleidoscope.Token.Lexer

/-!
# Lexemes

How many characters the next token takes, and of which kind it is, depends on the characters alone
and not on their place. A lexeme holds exactly this: the characters taken, what they form, and the
characters left. Nothing is lost between the two (`Lexeme.text_append_rest`), at least one character is
always taken (`Lexeme.rest_length_lt`), and no token could have been longer (`Lexeme.isMaximal_next`).
-/
namespace Kaleidoscope

/-- A token of some kind could not have been longer, given the text after it. -/
def Token.Kind.IsMaximal (after : List Char) : Token.Kind → Prop
  | .ident | .keyword _ => ∀ c ∈ after.head?, Text.isAlphanumeric c = false
  | .number => ∀ c ∈ after.head?, c.isDigit = false ∧ c ≠ '.'
  | .equal => ∀ c ∈ after.head?, c ≠ '='
  | _ => True

/-- The next token of a text, or the malformed number there, without its place. -/
structure Lexeme where
  /-- The kind of token, or what is wrong with a number. -/
  shape : Except LexicalCause Token.Kind
  /-- The characters taken. -/
  text : List Char
  /-- The characters left. -/
  rest : List Char

namespace Lexeme

/-- The longest word at the front of a text: a reserved word or an identifier. -/
def word (source : List Char) : Lexeme :=
  let text := source.takeWhile Text.isAlphanumeric
  let kind := match Keyword.ofText? (String.ofList text) with
    | some keyword => Token.Kind.keyword keyword
    | none => .ident
  ⟨.ok kind, text, source.dropWhile Text.isAlphanumeric⟩

/-- The number at the front of a text that starts with a digit. A point needs a digit after it,
and a second point makes the whole number malformed. -/
def number (source : List Char) : Lexeme :=
  let whole := source.takeWhile Char.isDigit
  match source.dropWhile Char.isDigit with
  | '.' :: after =>
    let fraction := after.takeWhile Char.isDigit
    if fraction.isEmpty then ⟨.error .missingFraction, whole ++ ['.'], after⟩
    else match after.dropWhile Char.isDigit with
      | '.' :: extra =>
        ⟨.error .repeatedPoint,
          whole ++ '.' :: (fraction ++ '.' :: extra.takeWhile Char.isDigit),
          extra.dropWhile Char.isDigit⟩
      | rest => ⟨.ok .number, whole ++ '.' :: fraction, rest⟩
  | rest => ⟨.ok .number, whole, rest⟩

/-- The lexeme that starts with a given character, which is neither blank nor starts a comment. -/
def next (c : Char) (rest : List Char) : Lexeme :=
  match c, rest with
  | '(', rest => ⟨.ok .leftParen, [c], rest⟩
  | ')', rest => ⟨.ok .rightParen, [c], rest⟩
  | ',', rest => ⟨.ok .comma, [c], rest⟩
  | ';', rest => ⟨.ok .semicolon, [c], rest⟩
  | '=', '=' :: rest => ⟨.ok .operator, ['=', '='], rest⟩
  | '=', rest => ⟨.ok .equal, [c], rest⟩
  | c, rest =>
    if Text.isAlphabetic c then word (c :: rest)
    else if c.isDigit then number (c :: rest)
    else if c = '.' && rest.head?.any Char.isDigit then
      ⟨.error .missingWhole, c :: rest.takeWhile Char.isDigit, rest.dropWhile Char.isDigit⟩
    else ⟨.ok .operator, [c], rest⟩

section Numbers

variable {source after extra : List Char}

/-- A number without a point. -/
theorem number_of_whole (plain : ∀ after, source.dropWhile Char.isDigit ≠ '.' :: after) :
    number source =
      ⟨.ok .number, source.takeWhile Char.isDigit, source.dropWhile Char.isDigit⟩ := by
  unfold number
  split
  · next after found => exact absurd found (plain after)
  · rfl

/-- A number that ends in its point. -/
theorem number_of_missing (point : source.dropWhile Char.isDigit = '.' :: after)
    (none : after.takeWhile Char.isDigit = []) :
    number source = ⟨.error .missingFraction, source.takeWhile Char.isDigit ++ ['.'], after⟩ := by
  unfold number
  rw [point]
  simp only [none, List.isEmpty_nil, if_true]

/-- A number with a point. -/
theorem number_of_fraction (point : source.dropWhile Char.isDigit = '.' :: after)
    (some : after.takeWhile Char.isDigit ≠ [])
    (plain : ∀ extra, after.dropWhile Char.isDigit ≠ '.' :: extra) :
    number source = ⟨.ok .number,
      source.takeWhile Char.isDigit ++ '.' :: after.takeWhile Char.isDigit,
      after.dropWhile Char.isDigit⟩ := by
  unfold number
  rw [point]
  simp only [List.isEmpty_iff, some, if_false]

/-- A number with two points. -/
theorem number_of_repeated (point : source.dropWhile Char.isDigit = '.' :: after)
    (some : after.takeWhile Char.isDigit ≠ [])
    (again : after.dropWhile Char.isDigit = '.' :: extra) :
    number source = ⟨.error .repeatedPoint,
      source.takeWhile Char.isDigit ++
        '.' :: (after.takeWhile Char.isDigit ++ '.' :: extra.takeWhile Char.isDigit),
      extra.dropWhile Char.isDigit⟩ := by
  unfold number
  rw [point]
  simp only [List.isEmpty_iff, some, if_false, again]

end Numbers

/-- A lexeme that starts with none of the signs that are tokens of their own kind. -/
theorem next_of_other {c : Char} (other : c ∉ ['(', ')', ',', ';', '=']) (rest : List Char) :
    next c rest =
      if Text.isAlphabetic c then word (c :: rest)
      else if c.isDigit then number (c :: rest)
      else if c = '.' && rest.head?.any Char.isDigit then
        ⟨.error .missingWhole, c :: rest.takeWhile Char.isDigit, rest.dropWhile Char.isDigit⟩
      else ⟨.ok .operator, [c], rest⟩ := by
  simp only [List.mem_cons, List.not_mem_nil, or_false, not_or] at other
  unfold next
  split <;> simp_all

/-- An equals sign that no other follows. -/
theorem next_of_equal {rest : List Char} (other : ∀ more, rest ≠ '=' :: more) :
    next '=' rest = ⟨.ok .equal, ['='], rest⟩ := by
  unfold next
  split <;> simp_all

/-- A word takes a front part of its text. -/
theorem word_append (source : List Char) : (word source).text ++ (word source).rest = source :=
  List.takeWhile_append_dropWhile

/-- A number takes a front part of its text. -/
theorem number_append (source : List Char) :
    (number source).text ++ (number source).rest = source := by
  have split : source.takeWhile Char.isDigit ++ source.dropWhile Char.isDigit = source :=
    List.takeWhile_append_dropWhile
  unfold number
  split
  · next after found =>
    have inner : after.takeWhile Char.isDigit ++ after.dropWhile Char.isDigit = after :=
      List.takeWhile_append_dropWhile
    simp only
    split
    · simpa [found] using split
    · split
      · next extra more =>
        rw [more] at inner
        simpa [found, inner, List.takeWhile_append_dropWhile] using split
      · simpa [found, inner] using split
  · exact split

/-- A lexeme takes a front part of the text. -/
theorem text_append_rest (c : Char) (rest : List Char) :
    (next c rest).text ++ (next c rest).rest = c :: rest := by
  unfold next
  split
  all_goals try rfl
  split
  · exact word_append _
  · split
    · exact number_append _
    · split
      · simp [List.takeWhile_append_dropWhile]
      · rfl

/-- A lexeme takes at least one character. -/
theorem text_ne_nil (c : Char) (rest : List Char) : (next c rest).text ≠ [] := by
  unfold next
  split
  all_goals try simp
  split
  · next letter =>
    simp [word, Text.isAlphanumeric_of_isAlphabetic letter]
  · split
    · next digit =>
      simp only [number, List.takeWhile_cons, digit, if_true]
      split
      · split
        · simp
        · split <;> simp
      · simp
    · split <;> simp

/-- Fewer characters are left than there were. -/
theorem rest_length_lt (c : Char) (rest : List Char) :
    (next c rest).rest.length < rest.length + 1 := by
  have total := congrArg List.length (text_append_rest c rest)
  have taken := List.length_pos_iff.2 (text_ne_nil c rest)
  simp only [List.length_append, List.length_cons] at total
  omega

section Taken

variable {c : Char} {rest : List Char}

/-- A number is made of digits and points. -/
theorem mem_number {d : Char} {source : List Char} (member : d ∈ (number source).text) :
    d.isDigit = true ∨ d = '.' := by
  have digit : ∀ {text : List Char}, d ∈ text.takeWhile Char.isDigit → d.isDigit = true :=
    List.mem_takeWhile_imp
  unfold number at member
  split at member
  · simp only at member
    split at member
    · simp only [List.mem_append, List.mem_singleton] at member
      exact member.imp_left digit
    · split at member
      · simp only [List.mem_append, List.mem_cons] at member
        rcases member with whole | point | fraction | point | extra
        · exact .inl (digit whole)
        · exact .inr point
        · exact .inl (digit fraction)
        · exact .inr point
        · exact .inl (digit extra)
      · simp only [List.mem_append, List.mem_cons] at member
        rcases member with whole | point | fraction
        · exact .inl (digit whole)
        · exact .inr point
        · exact .inl (digit fraction)
  · exact .inl (digit member)

/-- No lexeme has a line break in it. -/
theorem newline_notMem_text (plain : c ≠ '\n') : '\n' ∉ (next c rest).text := by
  have own : '\n' ∉ [c] := by simpa [eq_comm] using plain
  unfold next
  split
  case h_5 => exact (by decide : '\n' ∉ ['=', '='])
  case h_7 =>
    split
    · exact fun member => absurd (List.mem_takeWhile_imp member) (by decide)
    · split
      · exact fun member => absurd (mem_number member) (by decide)
      · split
        · refine fun member => (List.mem_cons.1 member).elim (plain ·.symm) fun digits => ?_
          exact absurd (List.mem_takeWhile_imp digits) (by decide)
        · exact own
  all_goals exact own

/-- What stays behind a longest run of characters of some kind starts with another one. -/
theorem head?_dropWhile (holds : Char → Bool) (text : List Char) :
    ∀ c ∈ (text.dropWhile holds).head?, holds c = false := by
  intro c member
  rw [← List.find?_not_eq_head?_dropWhile] at member
  simpa using List.find?_some member

/-- A number takes all digits, and a point only together with digits. -/
theorem isMaximal_number {source : List Char} {kind : Token.Kind}
    (shape : (number source).shape = .ok kind) :
    kind = .number ∧ Token.Kind.IsMaximal (number source).rest .number := by
  -- Behind the last digits no further digit follows, and no point if the number is in order.
  have stops : ∀ {text : List Char}, (∀ more, text.dropWhile Char.isDigit ≠ '.' :: more) →
      Token.Kind.IsMaximal (text.dropWhile Char.isDigit) .number := by
    intro text other c member
    refine ⟨head?_dropWhile _ text c member, ?_⟩
    rintro rfl
    obtain ⟨more, same⟩ := List.head?_eq_some_iff.1 member
    exact other more same
  unfold number at shape ⊢
  split at shape
  · simp only at shape ⊢
    split at shape
    · contradiction
    · next digits =>
      split at shape
      · contradiction
      · next other =>
        cases shape
        simp only [digits, Bool.false_eq_true, if_false]
        exact ⟨trivial, stops other⟩
  · next other =>
    cases shape
    exact ⟨rfl, stops other⟩

/-- A word takes all letters and digits. -/
theorem isMaximal_word {source : List Char} {kind : Token.Kind}
    (shape : (word source).shape = .ok kind) :
    kind ≠ .eof ∧ kind.IsMaximal (word source).rest := by
  have stops := head?_dropWhile Text.isAlphanumeric source
  cases shape
  split
  · exact ⟨by simp, stops⟩
  · exact ⟨by simp, stops⟩

/-- A token takes as much as it can. -/
theorem isMaximal_next {kind : Token.Kind} (shape : (next c rest).shape = .ok kind) :
    kind ≠ .eof ∧ kind.IsMaximal (next c rest).rest := by
  unfold next at shape ⊢
  split at shape
  case h_6 rest other =>
    cases shape
    refine ⟨by decide, fun c member => ?_⟩
    rintro rfl
    obtain ⟨more, same⟩ := List.head?_eq_some_iff.1 member
    exact other more same
  case h_7 =>
    split at shape
    · next letter =>
      simp only [letter, if_true] at shape ⊢
      exact isMaximal_word shape
    · next plain =>
      simp only [plain, Bool.false_eq_true, if_false] at shape ⊢
      split at shape
      · next digit =>
        simp only [digit, if_true] at shape ⊢
        obtain ⟨rfl, maximal⟩ := isMaximal_number shape
        exact ⟨by decide, maximal⟩
      · next other =>
        simp only [other, Bool.false_eq_true, if_false] at shape ⊢
        split at shape
        · contradiction
        · next single =>
          cases shape
          exact ⟨by decide, trivial⟩
  all_goals
    cases shape
    exact ⟨by decide, trivial⟩

end Taken

end Lexeme

end Kaleidoscope
