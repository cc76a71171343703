import Kaleidoscope.Proofs.Token.Coverage

/-!
# What separates tokens

A separator is a character that continues no lexeme, such as a space or a line break. In front of a
separator a lexeme is read as at the end of a source (`Lexeme.next_append`), so nothing of what
follows decides about it. And a token is read from its own text as from any longer one
(`Lexeme.next_text`): behind the text, its longest form ended with the text.
-/
namespace Kaleidoscope

/-- A character that no lexeme takes in after its first character. -/
structure Text.IsSeparator (c : Char) : Prop where
  /-- No word takes it in. -/
  word : Text.isAlphanumeric c = false
  /-- No number takes it in as a digit. -/
  digit : c.isDigit = false
  /-- Nor as a point. -/
  point : c ≠ '.'
  /-- No equality sign ends in it. -/
  equal : c ≠ '='

/-- A line break is a separator. -/
theorem Text.isSeparator_newline : IsSeparator '\n' :=
  ⟨by decide, by decide, by decide, by decide⟩

/-- A space is a separator. -/
theorem Text.isSeparator_space : IsSeparator ' ' :=
  ⟨by decide, by decide, by decide, by decide⟩

namespace Lexeme

/-- The same lexeme with more text behind what is left. -/
def before (lexeme : Lexeme) (back : List Char) : Lexeme :=
  { lexeme with rest := lexeme.rest ++ back }

section Runs

variable {holds : Char → Bool} {d : Char} (other : holds d = false) (text back : List Char)
include other

/-- A longest run of characters ends in front of a character of another kind. -/
theorem takeWhile_append_cons : (text ++ d :: back).takeWhile holds = text.takeWhile holds := by
  rw [List.takeWhile_append]
  split
  · next whole => simpa [other] using (List.takeWhile_prefix holds).eq_of_length whole |>.symm
  · rfl

/-- What stays behind a longest run is followed by whatever followed the text. -/
theorem dropWhile_append_cons :
    (text ++ d :: back).dropWhile holds = text.dropWhile holds ++ d :: back := by
  rw [List.dropWhile_append]
  split
  · next none => simp [other, List.isEmpty_iff.1 none]
  · rfl

end Runs

section Before

variable {d : Char} (separates : Text.IsSeparator d) (back : List Char)
include separates

/-- A word ends in front of a separator. -/
theorem word_append_cons (source : List Char) :
    word (source ++ d :: back) = (word source).before (d :: back) := by
  simp only [word, before, takeWhile_append_cons separates.word,
    dropWhile_append_cons separates.word]

/-- A number ends in front of a separator. -/
theorem number_append_cons (source : List Char) :
    number (source ++ d :: back) = (number source).before (d :: back) := by
  have takes := fun text => takeWhile_append_cons separates.digit text back
  have leaves := fun text => dropWhile_append_cons separates.digit text back
  -- The separator is no point, so a text starts with one exactly if it does so without what follows.
  have plain : ∀ {text : List Char}, (∀ more, text ≠ '.' :: more) →
      ∀ more, text ++ d :: back ≠ '.' :: more := by
    intro text other more same
    cases text with
    | nil => exact separates.point (List.cons.inj same).1
    | cons c text => exact other text (by rw [(List.cons.inj same).1])
  by_cases point : ∃ after, source.dropWhile Char.isDigit = '.' :: after
  · obtain ⟨after, point⟩ := point
    have pointed : (source ++ d :: back).dropWhile Char.isDigit = '.' :: (after ++ d :: back) := by
      rw [leaves, point, List.cons_append]
    by_cases none : after.takeWhile Char.isDigit = []
    · rw [number_of_missing point none, number_of_missing pointed (by rw [takes, none]), takes]
      rfl
    · have some : (after ++ d :: back).takeWhile Char.isDigit ≠ [] := by rwa [takes]
      by_cases again : ∃ extra, after.dropWhile Char.isDigit = '.' :: extra
      · obtain ⟨extra, again⟩ := again
        rw [number_of_repeated point none again,
          number_of_repeated pointed some (by rw [leaves, again, List.cons_append]), takes, takes,
          takes, leaves]
        rfl
      · rw [not_exists] at again
        rw [number_of_fraction point none again,
          number_of_fraction pointed some (by rw [leaves]; exact plain again), takes, takes, leaves]
        rfl
  · rw [not_exists] at point
    rw [number_of_whole point, number_of_whole (by rw [leaves]; exact plain point), takes, leaves]
    rfl

/-- A lexeme ends in front of a separator at the latest, and it is the same whatever follows. -/
theorem next_append (c : Char) (rest : List Char) :
    next c (rest ++ d :: back) = (next c rest).before (d :: back) := by
  by_cases sign : c ∈ ['(', ')', ',', ';', '=']
  · simp only [List.mem_cons, List.not_mem_nil, or_false] at sign
    rcases sign with rfl | rfl | rfl | rfl | rfl
    any_goals rfl
    cases rest with
    | nil =>
      have other : ∀ more, d :: back ≠ '=' :: more :=
        fun more same => separates.equal (List.cons.inj same).1
      rw [next_of_equal fun more => (List.cons_ne_nil '=' more).symm]
      exact next_of_equal other
    | cons e rest =>
      by_cases same : e = '='
      · subst same
        rfl
      · have other : ∀ text more, e :: text ≠ '=' :: more :=
          fun _ _ begins => same (List.cons.inj begins).1
        rw [next_of_equal (other rest)]
        exact next_of_equal (other _)
  · rw [next_of_other sign, next_of_other sign, ← List.cons_append,
      word_append_cons separates, number_append_cons separates,
      takeWhile_append_cons separates.digit, dropWhile_append_cons separates.digit]
    have begins : (rest ++ d :: back).head?.any Char.isDigit = rest.head?.any Char.isDigit := by
      cases rest with
      | nil => simp [separates.digit]
      | cons => rfl
    rw [begins]
    split
    · rfl
    · split
      · rfl
      · split <;> rfl

end Before

section Own

variable {c : Char} {rest : List Char} {kind : Token.Kind}

/-- A longest run of characters is one on its own. -/
theorem takeWhile_takeWhile (holds : Char → Bool) (text : List Char) :
    (text.takeWhile holds).takeWhile holds = text.takeWhile holds ∧
      (text.takeWhile holds).dropWhile holds = [] := by
  have all : ∀ c ∈ text.takeWhile holds, holds c = true := fun _ => List.mem_takeWhile_imp
  exact ⟨List.takeWhile_eq_self_iff.2 all, List.dropWhile_eq_nil_iff.2 all⟩

/-- A word is read from its own text. -/
theorem word_text {source : List Char} (shape : (word source).shape = .ok kind) :
    word (word source).text = ⟨.ok kind, (word source).text, []⟩ := by
  have own := takeWhile_takeWhile Text.isAlphanumeric source
  unfold word at shape ⊢
  simp only [own.1, own.2] at shape ⊢
  rw [shape]

/-- A number is read from its own text. -/
theorem number_text {source : List Char} (shape : (number source).shape = .ok kind) :
    number (number source).text = ⟨.ok kind, (number source).text, []⟩ := by
  have own := takeWhile_takeWhile Char.isDigit
  by_cases point : ∃ after, source.dropWhile Char.isDigit = '.' :: after
  · obtain ⟨after, point⟩ := point
    by_cases none : after.takeWhile Char.isDigit = []
    · rw [number_of_missing point none] at shape
      contradiction
    · by_cases again : ∃ extra, after.dropWhile Char.isDigit = '.' :: extra
      · obtain ⟨extra, again⟩ := again
        rw [number_of_repeated point none again] at shape
        contradiction
      · rw [not_exists] at again
        rw [number_of_fraction point none again] at shape ⊢
        obtain rfl := Except.ok.inj shape
        -- The point is no digit, so the digits before it are a longest run here too.
        have whole := takeWhile_append_cons (by decide : Char.isDigit '.' = false)
          (source.takeWhile Char.isDigit) (after.takeWhile Char.isDigit)
        have left := dropWhile_append_cons (by decide : Char.isDigit '.' = false)
          (source.takeWhile Char.isDigit) (after.takeWhile Char.isDigit)
        rw [(own source).1] at whole
        rw [(own source).2, List.nil_append] at left
        rw [number_of_fraction left (by rwa [(own after).1]) (by simp [(own after).2]), whole,
          (own after).1, (own after).2]
  · rw [not_exists] at point
    rw [number_of_whole point] at shape ⊢
    obtain rfl := Except.ok.inj shape
    rw [number_of_whole (by simp [(own source).2]), (own source).1, (own source).2]

/-- A lexeme starts with its first character. -/
theorem text_eq_cons (c : Char) (rest : List Char) : ∃ text, (next c rest).text = c :: text := by
  have taken := text_append_rest c rest
  obtain ⟨first, text, same⟩ := List.exists_cons_of_ne_nil (text_ne_nil c rest)
  rw [same, List.cons_append] at taken
  exact ⟨text, (List.cons.inj taken).1 ▸ same⟩

/-- A token is read from its own text. -/
theorem next_text (shape : (next c rest).shape = .ok kind) :
    ∃ text, (next c rest).text = c :: text ∧ next c text = ⟨.ok kind, c :: text, []⟩ := by
  by_cases sign : c ∈ ['(', ')', ',', ';', '=']
  · simp only [List.mem_cons, List.not_mem_nil, or_false] at sign
    rcases sign with rfl | rfl | rfl | rfl | rfl
    any_goals
      obtain rfl := Except.ok.inj shape
      exact ⟨[], rfl, rfl⟩
    by_cases twice : ∃ more, rest = '=' :: more
    · obtain ⟨more, rfl⟩ := twice
      obtain rfl := Except.ok.inj shape
      exact ⟨['='], rfl, rfl⟩
    · rw [not_exists] at twice
      rw [next_of_equal twice] at shape ⊢
      obtain rfl := Except.ok.inj shape
      exact ⟨[], rfl, rfl⟩
  · obtain ⟨text, starts⟩ := text_eq_cons c rest
    refine ⟨text, starts, ?_⟩
    rw [next_of_other sign] at shape starts ⊢
    by_cases letter : Text.isAlphabetic c = true
    · rw [if_pos letter] at shape starts ⊢
      rw [← starts]
      exact word_text shape
    · rw [if_neg letter] at shape starts ⊢
      by_cases digit : c.isDigit = true
      · rw [if_pos digit] at shape starts ⊢
        rw [← starts]
        exact number_text shape
      · rw [if_neg digit] at shape starts ⊢
        split at shape
        · contradiction
        · next single =>
          rw [if_neg single] at starts
          obtain rfl := Except.ok.inj shape
          obtain rfl := (List.cons.inj starts).2
          simp

end Own

end Lexeme

end Kaleidoscope
