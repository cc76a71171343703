import Kaleidoscope.Proofs.Token.Coverage
import Kaleidoscope.Syntax.Expr

/-!
# The names that tokens carry

How a token comes about is inverted once: it is made of the lexeme ahead (`Cursor.exists_lexeme`), and
lexemes take texts of five forms (`Lexeme.IsTaken`). What holds of every token that is read then holds
of all tokens of a source (`Token.forall_of_scan`).

Words are made of letters and digits, so the only name with an underscore that a source can have is
the underscore itself, as the sign of an operator (`Token.isNamed_of_scan`). The names under which
operators are linked and those of expressions to run all have one, which keeps them apart from the
names of functions.
-/
namespace Kaleidoscope

/-- A name that a source can have: it is without an underscore, or is the sign of an operator. -/
def Token.IsNamed (token : Token) : Prop :=
  ∀ name, token.name? = some name →
    '_' ∉ name.toList ∨ token.kind = .operator ∧ name = "_"

namespace Lexeme

variable {c : Char} {rest text : List Char} {kind : Token.Kind}

/-- What tokens are read from, by their kinds: a word, a number, two signs of equality, a mark with a
kind of its own, or some other sign. -/
inductive IsTaken (c : Char) (rest : List Char) : Token.Kind → List Char → Prop
  /-- A word, reserved or not. -/
  | word {kind : Token.Kind} (letter : Text.isAlphabetic c = true)
      (shape : (word (c :: rest)).shape = .ok kind) : IsTaken c rest kind (word (c :: rest)).text
  /-- A number. -/
  | number : IsTaken c rest .number (number (c :: rest)).text
  /-- Two signs of equality. -/
  | equality : IsTaken c rest .operator ['=', '=']
  /-- A mark. -/
  | mark {kind : Token.Kind}
      (isMark : kind ∈ [.leftParen, .rightParen, .comma, .semicolon, .equal])
      (own : kind.text.toList = [c]) : IsTaken c rest kind [c]
  /-- Some other sign. -/
  | sign (notLeft : c ≠ '(') (notRight : c ≠ ')') : IsTaken c rest .operator [c]

/-- A lexeme that is in order takes one of these texts. -/
theorem isTaken_next (shape : (next c rest).shape = .ok kind) :
    IsTaken c rest kind (next c rest).text := by
  unfold next at shape ⊢
  split at shape
  case h_5 =>
    cases shape
    exact .equality
  case h_7 notLeft notRight _ _ _ _ =>
    split at shape
    · next letter =>
      simp only [letter, if_true]
      exact .word letter shape
    · next plain =>
      simp only [plain, Bool.false_eq_true, if_false] at shape ⊢
      split at shape
      · next digit =>
        simp only [digit, if_true]
        obtain ⟨rfl, -⟩ := isMaximal_number shape
        exact .number
      · next other =>
        simp only [other, Bool.false_eq_true, if_false] at shape ⊢
        split at shape
        · contradiction
        · next single =>
          cases shape
          simp only [single, Bool.false_eq_true, if_false]
          exact .sign notLeft notRight
  all_goals
    cases shape
    exact .mark (by decide) rfl

/-- A word is an identifier or reserved. -/
theorem kind_word {source : List Char} (shape : (word source).shape = .ok kind) :
    kind = .ident ∨ ∃ keyword, kind = .keyword keyword := by
  unfold word at shape
  cases shape
  split
  · exact .inr ⟨_, rfl⟩
  · exact .inl rfl

/-- A word has no underscore, and an operator has none but its only sign. -/
theorem IsTaken.underscore_notMem (taken : IsTaken c rest kind text)
    (named : kind = .ident ∨ kind = .operator) :
    '_' ∉ text ∨ kind = .operator ∧ text = ['_'] := by
  cases taken with
  | word => exact .inl fun member => absurd (List.mem_takeWhile_imp member) (by decide)
  | number => rcases named with named | named <;> cases named
  | equality => exact .inl (by decide)
  | mark isMark => rcases named with rfl | rfl <;> exact absurd isMark (by decide)
  | sign =>
    by_cases same : c = '_'
    · exact .inr ⟨rfl, by rw [same]⟩
    · exact .inl (by simpa [eq_comm] using same)

end Lexeme

namespace Cursor

/-- A token that is read is the end of the input, or is made of the lexeme ahead. -/
theorem exists_lexeme {cursor : Cursor} {token : Token} (read : cursor.next.1 = .ok token) :
    token = .endOfInput (.ofNat cursor.skip.line) (.ofNat cursor.skip.position) ∨
      ∃ c rest, cursor.skip.rest = c :: rest ∧
        (Lexeme.next c rest).shape = .ok token.kind ∧
        token.lexeme = String.ofList (Lexeme.next c rest).text ∧
        token.literal = Token.literalOf token.kind (Lexeme.next c rest).text := by
  unfold next item at read
  split at read
  · cases read
    exact .inl rfl
  · next c rest found =>
    cases shape : (Lexeme.next c rest).shape with
    | error cause =>
      rw [shape] at read
      contradiction
    | ok kind =>
      rw [shape] at read
      cases read
      exact .inr ⟨c, rest, found, shape, rfl, rfl⟩

/-- A token that is read is named as a source can name it. -/
theorem isNamed_next {cursor : Cursor} {token : Token} (read : cursor.next.1 = .ok token) :
    token.IsNamed := by
  intro name named
  rcases exists_lexeme read with rfl | ⟨c, rest, _, shape, _, literal⟩
  · contradiction
  · have spelled := (Lexeme.isTaken_next shape).underscore_notMem
    unfold Token.name? at named
    rw [literal] at named
    unfold Token.literalOf at named
    generalize token.kind = kind at *
    cases kind <;> cases named <;> rw [String.toList_ofList]
    · exact (spelled (.inl rfl)).imp_right fun sign => absurd sign.1 (by decide)
    · exact (spelled (.inr rfl)).imp_right fun sign => ⟨rfl, by rw [sign.2]⟩

/-- What holds of every token that is read holds of all tokens ahead. -/
theorem forall_items {holds : Token → Prop}
    (reads : ∀ {cursor : Cursor} {token : Token}, cursor.next.1 = .ok token → holds token)
    (cursor : Cursor) : ∀ token, Except.ok token ∈ cursor.items → holds token := by
  fun_induction items cursor with
  | case1 cursor done =>
    intro token member
    exact reads (List.mem_singleton.1 member).symm
  | case2 cursor ahead hypothesis =>
    intro token member
    rcases List.mem_cons.1 member with own | later
    · exact reads own.symm
    · exact hypothesis token later

end Cursor

/-- What an action on a list that can fail yields is what it yields for each member. -/
theorem map_eq_of_mapM {α β ε : Type} {action : α → Except ε β} {list : List α} :
    ∀ {results : List β}, list.mapM action = .ok results → list.map action = results.map .ok := by
  induction list with
  | nil =>
    intro results done
    cases done
    rfl
  | cons first rest hypothesis =>
    intro results done
    rw [List.mapM_cons] at done
    cases own : action first with
    | error error =>
      rw [own] at done
      contradiction
    | ok value =>
      cases others : rest.mapM action with
      | error error =>
        rw [own, others] at done
        contradiction
      | ok values =>
        rw [own, others] at done
        cases done
        rw [List.map_cons, List.map_cons, own, hypothesis others]

/-- If an action on a list fails, it fails for a member. -/
theorem exists_of_mapM_error {α β ε : Type} {action : α → Except ε β} {list : List α} {error : ε}
    (failed : list.mapM action = .error error) : ∃ member ∈ list, action member = .error error := by
  induction list with
  | nil => contradiction
  | cons first rest hypothesis =>
    rw [List.mapM_cons] at failed
    cases own : action first with
    | error cause =>
      rw [own] at failed
      cases failed
      exact ⟨first, List.mem_cons_self, own⟩
    | ok value =>
      cases others : rest.mapM action with
      | error cause =>
        rw [own, others] at failed
        cases failed
        obtain ⟨member, inside, same⟩ := hypothesis others
        exact ⟨member, List.mem_cons_of_mem _ inside, same⟩
      | ok values =>
        rw [own, others] at failed
        contradiction

/-- The tokens of a source are all that is read from it. -/
theorem Token.items_of_scan {source : String} {tokens : List Token}
    (scanned : Token.scan source = .ok tokens) :
    (Cursor.start source).items = tokens.map .ok := by
  have items := map_eq_of_mapM ((scan_eq_mapM source).symm.trans scanned)
  rwa [List.map_id] at items

/-- What holds of every token that is read holds of all tokens of a source. -/
theorem Token.forall_of_scan {holds : Token → Prop}
    (reads : ∀ {cursor : Cursor} {token : Token}, cursor.next.1 = .ok token → holds token)
    {source : String} {tokens : List Token} (scanned : Token.scan source = .ok tokens) :
    ∀ token ∈ tokens, holds token := by
  intro token member
  have inside : Except.ok token ∈ (Cursor.start source).items :=
    items_of_scan scanned ▸ List.mem_map_of_mem member
  exact Cursor.forall_items reads _ token inside

/-- The tokens of a source are named as a source can name them. -/
theorem Token.isNamed_of_scan {source : String} {tokens : List Token}
    (scanned : Token.scan source = .ok tokens) : ∀ token ∈ tokens, token.IsNamed :=
  Token.forall_of_scan Cursor.isNamed_next scanned

end Kaleidoscope
