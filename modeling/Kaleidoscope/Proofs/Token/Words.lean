import Kaleidoscope.Proofs.Syntax.Datum
import Kaleidoscope.Proofs.Syntax.Spelling
import Kaleidoscope.Proofs.Token.Texts

/-!
# What tokens are called

What a token carries, what it is called as an operator and whether it is a reserved word all follow
from its text. An identifier starts with a letter and has nothing but letters and digits; and no token
but a parenthesis has a space or a parenthesis in it, so its text can be an atom of printed data
(`Token.IsRead.isAtom`).
-/
namespace Kaleidoscope

namespace Lexeme

variable {c : Char} {rest text : List Char} {kind : Token.Kind}

/-- No letter or digit stands between printed data, and neither does a point. -/
theorem isDelimiter_eq_false {d : Char} (plain : Text.isAlphanumeric d = true ∨ d = '.') :
    Datum.isDelimiter d = false := by
  cases wrong : Datum.isDelimiter d with
  | false => rfl
  | true =>
    simp only [Datum.isDelimiter, Bool.or_eq_true, decide_eq_true_eq] at wrong
    rcases wrong with (rfl | rfl) | rfl <;> revert plain <;> decide

namespace IsTaken

/-- An identifier starts with a letter and has nothing but letters and digits. -/
theorem letters (taken : IsTaken c rest .ident text) :
    Text.isAlphabetic c = true ∧ ∀ d ∈ text, Text.isAlphanumeric d = true := by
  cases taken with
  | word letter => exact ⟨letter, fun d member => List.mem_takeWhile_imp member⟩
  | mark isMark => exact absurd isMark (by decide)

/-- An assignment sign is an equality sign. -/
theorem eq_of_equal (taken : IsTaken c rest .equal text) : text = ['='] := by
  cases taken with
  | word _ shape => rcases kind_word shape with wrong | ⟨keyword, wrong⟩ <;> contradiction
  | mark _ own => exact own.symm

/-- Only parentheses have a character that stands between printed data. -/
theorem isDelimiter_eq_false (taken : IsTaken c rest kind text) (visible : Text.IsVisible c)
    (notLeft : kind ≠ .leftParen) (notRight : kind ≠ .rightParen) :
    ∀ d ∈ text, Datum.isDelimiter d = false := by
  cases taken with
  | word => exact fun d member => Lexeme.isDelimiter_eq_false (.inl (List.mem_takeWhile_imp member))
  | number =>
    exact fun d member =>
      Lexeme.isDelimiter_eq_false ((mem_number member).imp_left Text.isAlphanumeric_of_isDigit)
  | equality => simp [Datum.isDelimiter]
  | mark isMark own =>
    simp only [List.mem_cons, notLeft, notRight, List.not_mem_nil, or_false, false_or] at isMark
    rw [← own]
    rcases isMark with rfl | rfl | rfl <;> simp [Token.Kind.text, Datum.isDelimiter]
  | sign notOpening notClosing =>
    have blank : c ≠ ' ' := by
      rintro rfl
      exact absurd visible.1 (by decide)
    simp [Datum.isDelimiter, blank, notOpening, notClosing]

end IsTaken

end Lexeme

namespace Token

variable {token : Token} {name : String}

/-- The text that a token is read from is one of its kind. -/
theorem IsReadFrom.isTaken {c : Char} {text : List Char} (read : token.IsReadFrom c text) :
    Lexeme.IsTaken c text token.kind (c :: text) := by
  have taken := Lexeme.isTaken_next (congrArg Lexeme.shape read.next_eq)
  rwa [read.next_eq] at taken

/-- A token is called what its text says. -/
theorem IsRead.name_eq (read : token.IsRead) (named : token.name? = some name) :
    name = token.lexeme := by
  obtain ⟨c, text, read⟩ := read
  have literal := read.literal_eq
  unfold name? at named
  unfold literalOf at literal
  rw [literal] at named
  rw [read.lexeme_eq]
  split at named
  · next found =>
    split at found <;> cases found <;> exact (Option.some.inj named).symm
  · contradiction

/-- An operator before an operand is called what its text says. -/
theorem IsRead.unaryName_eq (read : token.IsRead) : Expr.unaryName token = token.lexeme := by
  unfold Expr.unaryName
  cases named : token.name? with
  | none => rfl
  | some name => exact read.name_eq named

/-- An operator between operands is called what its text says. -/
theorem IsRead.symbol_eq (read : token.IsRead) {meaning : BinaryMeaning}
    (means : BinaryMeaning.ofToken? token = some meaning) : meaning.symbol = token.lexeme := by
  unfold BinaryMeaning.ofToken? at means
  split at means
  · next kind =>
    cases means
    obtain ⟨c, text, read⟩ := read
    have taken := read.isTaken
    rw [kind] at taken
    rw [read.lexeme_eq, taken.eq_of_equal]
    rfl
  · split at means <;> cases means
    · next found => exact BuiltinOperator.symbol_of_ofSymbol? found
    · rfl
  · obtain ⟨name, found, rfl⟩ := Option.map_eq_some_iff.1 means
    exact read.name_eq (Option.filter_eq_some_iff.1 found).1
  · contradiction

/-- The text of a reserved word is that of no other token. -/
theorem IsRead.kind_eq (read : token.IsRead) {keyword : Keyword}
    (same : token.lexeme = keyword.text) : token.kind = .keyword keyword := by
  have reserved : (ofKind (.keyword keyword)).IsRead := by
    cases keyword <;> exact ⟨_, _, ⟨by decide, by decide⟩, rfl, rfl, rfl⟩
  exact kind_eq_of_bare_eq (read.bare_eq reserved same)

/-- The text of an identifier is that of no other token. -/
theorem IsRead.isIdent_call (read : token.IsRead) (same : token.lexeme = "call") :
    token.IsIdent "call" := by
  have ident : (word "call").IsRead := ⟨_, _, ⟨by decide, by decide⟩, rfl, rfl, rfl⟩
  have bare := read.bare_eq ident same
  exact ⟨kind_eq_of_bare_eq bare, name?_eq_of_bare_eq bare, rfl⟩

/-- The text of a token other than a parenthesis can be an atom of printed data. -/
theorem IsRead.isAtom (read : token.IsRead) (notLeft : token.kind ≠ .leftParen)
    (notRight : token.kind ≠ .rightParen) : Datum.IsAtom token.lexeme := by
  obtain ⟨c, text, read⟩ := read
  unfold Datum.IsAtom
  rw [read.lexeme_eq, String.toList_ofList]
  exact ⟨List.cons_ne_nil _ _, read.isTaken.isDelimiter_eq_false read.visible notLeft notRight⟩

/-- The text of an identifier starts with a letter and has nothing but letters and digits. -/
theorem IsRead.letters (read : token.IsRead) (ident : token.kind = .ident) :
    (∃ c ∈ token.lexeme.toList.head?, Text.isAlphabetic c = true) ∧
      ∀ c ∈ token.lexeme.toList, Text.isAlphanumeric c = true := by
  obtain ⟨c, text, read⟩ := read
  have taken := read.isTaken
  rw [ident] at taken
  obtain ⟨starts, letters⟩ := taken.letters
  rw [read.lexeme_eq, String.toList_ofList]
  exact ⟨⟨c, rfl, starts⟩, letters⟩

end Token

end Kaleidoscope
