import Kaleidoscope.Syntax.Program

/-!
# Parsers and the tokens between them

A parser reaches another one by leaving tokens, and prototypes may declare operators on the way
(`Parser.Consumes`). Inside a statement neither a semicolon nor the end of the input is left
(`Parser.Crosses`).

To compare what is read in front of different tokens, two parsers are taken at the same token, the
second of which has further tokens behind those of the first (`Parser.Precedes`); such parsers stay
related when both leave the same tokens of a statement (`Parser.Moves`).
-/
namespace Kaleidoscope

namespace Parser

/-- A parser leaves some tokens, none of which is the end of the input. -/
inductive Takes : List Token → Parser → Parser → Prop
  /-- No token. -/
  | none (parser : Parser) : Takes [] parser parser
  /-- The current token and those after it. -/
  | cons {tokens : List Token} {first last : Parser} (before : first.current.kind ≠ .eof)
      (rest : Takes tokens first.advance last) : Takes (first.current :: tokens) first last

namespace Takes

variable {tokens others : List Token} {first middle last : Parser}

/-- Leaving tokens one after the other. -/
theorem trans (front : Takes tokens first middle) (back : Takes others middle last) :
    Takes (tokens ++ others) first last := by
  induction front with
  | none => exact back
  | cons before _ hypothesis => exact .cons before (hypothesis back)

/-- Leaving tokens declares no operators. -/
theorem operators_eq (takes : Takes tokens first last) : last.operators = first.operators := by
  induction takes with
  | none => rfl
  | @cons _ first _ _ _ hypothesis =>
    rw [hypothesis, advance]
    split <;> rfl

/-- Leaving tokens leaves as many fewer of them. -/
theorem remaining_le (takes : Takes tokens first last) :
    last.remaining + tokens.length ≤ first.remaining := by
  induction takes with
  | none => exact Nat.le_refl _
  | @cons _ first _ before _ hypothesis =>
    have less : first.advance.remaining < first.remaining :=
      remaining_advance_lt (by simpa [isAt] using before)
    rw [List.length_cons]
    omega

/-- Other operators are carried along. -/
theorem withOperators (takes : Takes tokens first last) (operators : OperatorTable) :
    Takes tokens { first with operators } { last with operators } := by
  induction takes with
  | none => exact .none _
  | @cons _ first _ before _ hypothesis =>
    have moved : ({ first with operators } : Parser).advance =
        { first.advance with operators } := by
      obtain ⟨current, ahead, previous, own⟩ := first
      cases ahead <;> rfl
    exact @Takes.cons _ { first with operators } _ before (moved ▸ hypothesis)

/-- What is left first is the current token. -/
theorem inversion (takes : Takes tokens first last) :
    tokens = [] ∧ last = first ∨ ∃ others, tokens = first.current :: others ∧
      Takes others first.advance last := by
  cases takes with
  | none => exact .inl ⟨rfl, rfl⟩
  | cons _ rest => exact .inr ⟨_, rfl, rest⟩

/-- The same tokens lead to the same parser. -/
theorem unique (takes : Takes tokens first last) (other : Takes tokens first middle) :
    last = middle := by
  induction takes with
  | none =>
    obtain ⟨-, same⟩ | ⟨_, wrong, -⟩ := other.inversion
    · exact same.symm
    · contradiction
  | cons _ _ hypothesis =>
    obtain ⟨wrong, -⟩ | ⟨_, same, rest⟩ := other.inversion
    · contradiction
    · exact hypothesis ((List.cons.inj same).2 ▸ rest)

end Takes

/-- A parser leaves some tokens, none of which is the end of the input, and perhaps declares
operators. -/
def Consumes (tokens : List Token) (first last : Parser) : Prop :=
  first.Takes tokens { last with operators := first.operators }

namespace Consumes

variable {tokens others : List Token} {first middle last : Parser}

/-- Leaving tokens one after the other. -/
theorem trans (front : first.Consumes tokens middle) (back : middle.Consumes others last) :
    first.Consumes (tokens ++ others) last :=
  Takes.trans front (back.withOperators first.operators)

/-- Leaving the current token. -/
theorem advance {parser : Parser} (before : parser.current.kind ≠ .eof) :
    parser.Consumes [parser.current] parser.advance := by
  obtain ⟨current, ahead, previous, operators⟩ := parser
  cases ahead <;> exact .cons before (.none _)

/-- The end of the input is not left. -/
theorem ne_eof (consumes : first.Consumes tokens last) : ∀ token ∈ tokens, token.kind ≠ .eof := by
  unfold Consumes at consumes
  generalize ({ last with operators := first.operators } : Parser) = final at consumes
  induction consumes with
  | none => exact fun _ member => absurd member List.not_mem_nil
  | cons before _ hypothesis => exact List.forall_mem_cons.2 ⟨before, hypothesis⟩

/-- Where fewer tokens are left, some have been left. -/
theorem ne_nil (consumes : first.Consumes tokens last)
    (less : last.remaining < first.remaining) : tokens ≠ [] := by
  rintro rfl
  obtain ⟨-, same⟩ | ⟨_, wrong, -⟩ := consumes.inversion
  · exact absurd (congrArg remaining same) (Nat.ne_of_lt less)
  · contradiction

end Consumes

/-- A parser leaves some tokens of a statement: neither a semicolon nor the end of the input is
among them. Its table stays as it is unless prototypes are read. -/
structure Crosses (declaring : Prop) (tokens : List Token) (first last : Parser) : Prop where
  /-- The tokens are left one after the other. -/
  consumes : first.Consumes tokens last
  /-- No semicolon is left. -/
  inside : ∀ token ∈ tokens, token.kind ≠ .semicolon
  /-- Only prototypes declare operators. -/
  operators_eq : declaring ∨ last.operators = first.operators

namespace Crosses

variable {declaring : Prop} {tokens others : List Token} {first middle last : Parser}

/-- Leaving no token. -/
theorem refl (declaring : Prop) (parser : Parser) : Crosses declaring [] parser parser :=
  ⟨.none _, fun _ member => absurd member List.not_mem_nil, .inr rfl⟩

/-- Leaving tokens one after the other. -/
theorem trans (front : Crosses declaring tokens first middle)
    (back : Crosses declaring others middle last) :
    Crosses declaring (tokens ++ others) first last where
  consumes := front.consumes.trans back.consumes
  inside := List.forall_mem_append.2 ⟨front.inside, back.inside⟩
  operators_eq := by
    rcases front.operators_eq with free | same
    · exact .inl free
    · exact back.operators_eq.imp_right fun next => next.trans same

/-- Leaving the current token. -/
theorem advance {parser : Parser} (inside : parser.current.kind ≠ .semicolon)
    (before : parser.current.kind ≠ .eof) :
    Crosses declaring [parser.current] parser parser.advance := by
  refine ⟨.advance before, List.forall_mem_singleton.2 inside, .inr ?_⟩
  obtain ⟨current, ahead, previous, operators⟩ := parser
  cases ahead <;> rfl

end Crosses

/-- The tokens that have not been left. -/
def pending (parser : Parser) : List Token := parser.current :: parser.ahead

/-- The last token that has not been left is a semicolon, and the end of the input is not among
those before it. -/
def Closes (parser : Parser) : Prop :=
  ∃ front last, parser.pending = front ++ [last] ∧ last.kind = .semicolon ∧
    ∀ token ∈ front, token.kind ≠ .eof

/-- Two parsers at the same token with the same operators, the second of which has further tokens
behind those of the first. If there are any, they stand behind a semicolon. -/
structure Precedes (rest : List Token) (first second : Parser) : Prop where
  /-- The tokens looked at are the same. -/
  current_eq : second.current = first.current
  /-- The further tokens come last. -/
  ahead_eq : second.ahead = first.ahead ++ rest
  /-- The operators are the same. -/
  operators_eq : second.operators = first.operators
  /-- Further tokens stand behind a semicolon. -/
  closes : rest ≠ [] → first.Closes

namespace Precedes

variable {rest : List Token} {first second : Parser}

/-- A parser is related to itself. -/
theorem refl (parser : Parser) : Precedes [] parser parser :=
  ⟨rfl, (List.append_nil _).symm, rfl, fun some => absurd rfl some⟩

/-- Both parsers are at the same kind of token. -/
theorem isAt_eq (precedes : Precedes rest first second) (kind : Token.Kind) :
    second.isAt kind = first.isAt kind := by
  rw [isAt, isAt, precedes.current_eq]

/-- Both parsers see the same precedence. -/
theorem precedence?_eq (precedes : Precedes rest first second) :
    second.precedence? = first.precedence? := by
  rw [precedence?, precedence?, precedes.current_eq, precedes.operators_eq]

/-- The second parser has as many more tokens left as there are further ones. -/
theorem remaining_eq (precedes : Precedes rest first second) :
    second.remaining = first.remaining + rest.length := by
  rw [remaining, remaining, precedes.isAt_eq, precedes.ahead_eq, List.length_append]
  omega

/-- A bound for the second parser suffices for the first. -/
theorem remaining_lt (precedes : Precedes rest first second) :
    first.remaining < second.remaining + 1 := by
  rw [precedes.remaining_eq]
  omega

/-- Leaving a token keeps parsers related unless further tokens are next for the second only. -/
theorem advance_of (precedes : Precedes rest first second) (more : rest = [] ∨ first.ahead ≠ []) :
    Precedes rest first.advance second.advance := by
  obtain ⟨current, ahead, previous, operators⟩ := first
  obtain ⟨_, _, other, _⟩ := second
  obtain ⟨sameCurrent, sameAhead, sameOperators, closes⟩ := precedes
  simp only at sameCurrent sameAhead sameOperators
  subst sameCurrent sameAhead sameOperators
  cases ahead with
  | nil =>
    obtain rfl : rest = [] := by simpa using more
    exact ⟨rfl, rfl, rfl, fun some => absurd rfl some⟩
  | cons token ahead =>
    refine ⟨rfl, rfl, rfl, fun some => ?_⟩
    obtain ⟨front, last, same, semicolon, noEnd⟩ := closes some
    cases front with
    | nil => simp [pending] at same
    | cons leading front =>
      exact ⟨front, last, (List.cons.inj same).2, semicolon, fun token member =>
        noEnd token (List.mem_cons_of_mem _ member)⟩

/-- Leaving a token other than a semicolon keeps parsers related. -/
theorem advance (precedes : Precedes rest first second)
    (inside : first.current.kind ≠ .semicolon) : Precedes rest first.advance second.advance := by
  refine precedes.advance_of ?_
  by_cases none : rest = []
  · exact .inl none
  · obtain ⟨front, last, same, semicolon, _⟩ := precedes.closes none
    refine .inr fun empty => ?_
    rw [pending, empty] at same
    cases front with
    | nil =>
      cases same
      exact inside semicolon
    | cons => simp at same

/-- Other operators keep parsers related if they are the same for both. -/
theorem mapOperators (precedes : Precedes rest first second)
    (change : OperatorTable → OperatorTable) :
    Precedes rest { first with operators := change first.operators }
      { second with operators := change second.operators } :=
  ⟨precedes.current_eq, precedes.ahead_eq, congrArg change precedes.operators_eq, precedes.closes⟩

end Precedes

/-- Two related parsers leave the same tokens and are related again. -/
structure Moves (declaring : Prop) (rest : List Token) (first second next following : Parser) :
    Prop where
  /-- The parsers reached are related. -/
  precedes : Precedes rest next following
  /-- The same tokens are left. -/
  crosses : ∃ tokens, first.Crosses declaring tokens next ∧
    second.Crosses declaring tokens following

namespace Moves

variable {declaring : Prop} {rest : List Token} {first second middle between last final : Parser}

/-- Leaving no token. -/
theorem refl (precedes : Precedes rest first second) :
    Moves declaring rest first second first second :=
  ⟨precedes, [], .refl _ _, .refl _ _⟩

/-- Leaving a token other than a semicolon and the end. -/
theorem step (precedes : Precedes rest first second) (inside : first.current.kind ≠ .semicolon)
    (before : first.current.kind ≠ .eof) :
    Moves declaring rest first second first.advance second.advance := by
  refine ⟨precedes.advance inside, [first.current], .advance inside before, ?_⟩
  rw [← precedes.current_eq] at inside before ⊢
  exact .advance inside before

/-- One move after another. -/
theorem trans (front : Moves declaring rest first second middle between)
    (back : Moves declaring rest middle between last final) :
    Moves declaring rest first second last final := by
  obtain ⟨tokens, left, right⟩ := front.crosses
  obtain ⟨precedes, others, left', right'⟩ := back
  exact ⟨precedes, tokens ++ others, left.trans left', right.trans right'⟩

/-- Operators that a prototype declares for both parsers. -/
theorem declare (precedes : Precedes rest first second) (change : OperatorTable → OperatorTable) :
    Moves True rest first second { first with operators := change first.operators }
      { second with operators := change second.operators } := by
  have crosses : ∀ parser : Parser, parser.Crosses True []
      { parser with operators := change parser.operators } := fun parser =>
    ⟨.none _, fun _ member => absurd member List.not_mem_nil, .inl trivial⟩
  exact ⟨precedes.mapOperators change, [], crosses first, crosses second⟩

/-- One parser is not led to two. -/
theorem eq (moves : Moves declaring [] first first middle between) : between = middle := by
  obtain ⟨precedes, tokens, left, right⟩ := moves
  have same := right.consumes.unique left.consumes
  obtain ⟨current, ahead, previous, operators⟩ := middle
  obtain ⟨_, _, _, _⟩ := between
  obtain rfl := precedes.operators_eq
  simpa using same

end Moves

end Parser

end Kaleidoscope
