import Kaleidoscope.Proofs.Syntax.Precedence
import Kaleidoscope.Syntax.Error

/-!
# Chains of operands

Operands with operators between them form a chain, and a tree over the chain groups it. The grouping
is told by one relation between the operators, counted from the left: which of them stand in the
right operand of which (`Grouping.InRight`). The relation determines the grouping
(`Grouping.eq_of_inRight_iff`).

A table of operators prescribes the relation (`Grouping.Respects`): a later operator stands in the
right operand of an earlier one exactly if the earlier one admits it and everything between them.
How the rules of the grammar arrive there is told along the tree (`Grouping.Settled`): an operator
admits all of its right operand and not the operator that comes next.
-/
namespace Kaleidoscope

/-- An operand as it stands in the source. -/
structure Piece where
  /-- The tree that is read. -/
  expr : Expr
  /-- The tokens that it is read from. -/
  tokens : List Token
  /-- Whether it ends in an expression that takes in every operator after it. -/
  isOpen : Bool

/-- A tree over a chain of operands. -/
inductive Grouping where
  /-- A single operand. -/
  | operand (piece : Piece)
  /-- An operator between two parts of the chain. -/
  | infixed (left : Grouping) (operator : Token) (right : Grouping)

namespace Grouping

/-- The operands from left to right. -/
def operands : Grouping → List Piece
  | operand piece => [piece]
  | infixed left _ right => left.operands ++ right.operands

/-- The operators from left to right. -/
def operators : Grouping → List Token
  | operand _ => []
  | infixed left operator right => left.operators ++ operator :: right.operators

/-- The tokens of the chain. -/
def tokens : Grouping → List Token
  | operand piece => piece.tokens
  | infixed left operator right => left.tokens ++ operator :: right.tokens

/-- The syntax tree of the chain. -/
def tree : Grouping → Except ParseError Expr
  | operand piece => .ok piece.expr
  | infixed left operator right => do Expr.binary? operator (← left.tree) (← right.tree)

/-- One operator, counted from zero, stands in the right operand of another. -/
def InRight : Grouping → Nat → Nat → Prop
  | operand _, _, _ => False
  | infixed left _ right, earlier, later =>
    let root := left.operators.length
    left.InRight earlier later ∨
      earlier = root ∧ root < later ∧ later ≤ root + right.operators.length ∨
      root < earlier ∧ root < later ∧ right.InRight (earlier - root - 1) (later - root - 1)

/-- The chain is grouped as a table of operators prescribes: a later operator stands in the right
operand of an earlier one exactly if that one admits all operators after it up to the later one. -/
def Respects (table : OperatorTable) (grouping : Grouping) : Prop :=
  ∀ earlier later : Nat, earlier < later → later < grouping.operators.length →
    (grouping.InRight earlier later ↔
      ∀ between, earlier < between → between ≤ later →
        ∃ first ∈ grouping.operators[earlier]?, ∃ second ∈ grouping.operators[between]?,
          table.Admits first second)

/-- Every operator admits its right operand and does not admit the operator after it, the last of
which is that of the given token. -/
def Settled (table : OperatorTable) : Grouping → Token → Prop
  | operand _, _ => True
  | infixed left operator right, next =>
    (∀ later ∈ right.operators, table.Admits operator later) ∧ ¬table.Admits operator next ∧
      left.Settled table operator ∧ right.Settled table next

variable {table : OperatorTable} {left right : Grouping} {operator next : Token}
  {earlier later : Nat}

/-- There is one operand more than there are operators. -/
theorem length_operands (grouping : Grouping) :
    grouping.operands.length = grouping.operators.length + 1 := by
  induction grouping with
  | operand => rfl
  | infixed left operator right ofLeft ofRight =>
    simp only [operands, operators, List.length_append, List.length_cons, ofLeft, ofRight]
    omega

/-- Operators stand in the right operand of earlier ones. -/
theorem InRight.lt {grouping : Grouping} (inRight : grouping.InRight earlier later) :
    earlier < later ∧ later < grouping.operators.length := by
  induction grouping generalizing earlier later with
  | operand => exact inRight.elim
  | infixed left operator right ofLeft ofRight =>
    simp only [operators, List.length_append, List.length_cons]
    rcases inRight with inside | atRoot | ⟨_, _, inside⟩
    · have := ofLeft inside
      omega
    · omega
    · have := ofRight inside
      omega

/-- Among the operators of the left part, those of the left part decide. -/
theorem inRight_left (inside : later < left.operators.length) :
    (infixed left operator right).InRight earlier later ↔ left.InRight earlier later := by
  constructor
  · rintro (inRight | atRoot | beyond)
    · exact inRight
    · omega
    · omega
  · exact .inl

/-- No operator of the left part has operators behind that part in its right operand. -/
theorem not_inRight_across (before : earlier < left.operators.length)
    (behind : left.operators.length ≤ later) :
    ¬(infixed left operator right).InRight earlier later := by
  rintro (inRight | atRoot | beyond)
  · have := inRight.lt
    omega
  · omega
  · omega

/-- The operator at the root has all later ones in its right operand. -/
theorem inRight_root (behind : left.operators.length < later)
    (inside : later < (infixed left operator right).operators.length) :
    (infixed left operator right).InRight left.operators.length later := by
  simp only [operators, List.length_append, List.length_cons] at inside
  exact .inr (.inl ⟨rfl, behind, by omega⟩)

variable (left operator) in
/-- Among the operators of the right part, those of the right part decide. -/
theorem inRight_right :
    (infixed left operator right).InRight (left.operators.length + 1 + earlier)
      (left.operators.length + 1 + later) ↔ right.InRight earlier later := by
  have shift : ∀ place, left.operators.length + 1 + place - left.operators.length - 1 = place :=
    fun place => by omega
  constructor
  · rintro (inRight | atRoot | ⟨_, _, inRight⟩)
    · have := inRight.lt
      omega
    · omega
    · rwa [shift, shift] at inRight
  · intro inRight
    refine .inr (.inr ⟨by omega, by omega, ?_⟩)
    rwa [shift, shift]

/-- The relation between the operators determines the grouping of a chain. -/
theorem eq_of_inRight_iff {first second : Grouping} (operators : first.operators = second.operators)
    (operands : first.operands = second.operands)
    (same : ∀ earlier later, first.InRight earlier later ↔ second.InRight earlier later) :
    first = second := by
  induction first generalizing second with
  | operand piece =>
    cases second with
    | operand other =>
      rw [List.singleton_inj.1 operands]
    | infixed left operator right => simp [Grouping.operators] at operators
  | infixed left operator right ofLeft ofRight =>
    cases second with
    | operand other => simp [Grouping.operators] at operators
    | infixed left' operator' right' =>
      -- Of two different roots, the first would have the second in its right operand in one
      -- grouping only.
      have length := congrArg List.length operators
      have roots : left.operators.length = left'.operators.length := by
        rcases Nat.lt_trichotomy left.operators.length left'.operators.length with
          less | equal | more
        · refine absurd ((same _ _).1 (inRight_root less ?_)) (not_inRight_across less (Nat.le_refl _))
          rw [length]
          simp [Grouping.operators]
        · exact equal
        · refine absurd ((same _ _).2 (inRight_root more ?_)) (not_inRight_across more (Nat.le_refl _))
          rw [← length]
          simp [Grouping.operators]
      obtain ⟨ofLefts, rest⟩ := List.append_inj operators roots
      obtain ⟨rfl, ofRights⟩ := List.cons.inj rest
      obtain ⟨lefts, rights⟩ := List.append_inj operands (by
        rw [length_operands, length_operands, roots])
      congr 1
      · refine ofLeft ofLefts lefts fun earlier later => ?_
        by_cases inside : later < left.operators.length
        · rw [← inRight_left inside, same, inRight_left (roots ▸ inside)]
        · exact ⟨fun inRight => absurd inRight.lt.2 inside,
            fun inRight => absurd (roots ▸ inRight.lt.2) inside⟩
      · refine ofRight ofRights rights fun earlier later => ?_
        rw [← inRight_right left operator, same, roots, inRight_right]

/-- A table of operators prescribes one grouping of a chain. -/
theorem Respects.unique {first second : Grouping} (ofFirst : first.Respects table)
    (ofSecond : second.Respects table) (operators : first.operators = second.operators)
    (operands : first.operands = second.operands) : first = second := by
  refine eq_of_inRight_iff operators operands fun earlier later => ?_
  by_cases inside : earlier < later ∧ later < first.operators.length
  · rw [ofFirst earlier later inside.1 inside.2, ofSecond earlier later inside.1
      (operators ▸ inside.2), operators]
  · exact ⟨fun inRight => absurd inRight.lt inside,
      fun inRight => absurd (operators ▸ inRight.lt) inside⟩

/-- The operators of the left part come first, then the root. -/
theorem getElem?_left {place : Nat} (inside : place ≤ left.operators.length) (rest : List Token) :
    ((infixed left operator right).operators ++ rest)[place]? =
      (left.operators ++ [operator])[place]? := by
  have split : (infixed left operator right).operators ++ rest =
      (left.operators ++ [operator]) ++ (right.operators ++ rest) := by simp [operators]
  rw [split, List.getElem?_append_left (by simpa using Nat.lt_succ_of_le inside)]

/-- The operators of the right part come last. -/
theorem getElem?_right (place : Nat) (rest : List Token) :
    ((infixed left operator right).operators ++ rest)[left.operators.length + 1 + place]? =
      (right.operators ++ rest)[place]? := by
  have split : (infixed left operator right).operators ++ rest =
      (left.operators ++ [operator]) ++ (right.operators ++ rest) := by simp [operators]
  have length : (left.operators ++ [operator]).length = left.operators.length + 1 := by simp
  rw [split, List.getElem?_append_right (by omega), length, Nat.add_sub_cancel_left]

/-- Among the operators of a settled chain and the one after it, each is followed by one that it
does not admit. -/
theorem Settled.exists_not_admits {grouping : Grouping} (settled : grouping.Settled table next)
    (inside : earlier < grouping.operators.length) :
    ∃ between, earlier < between ∧ between ≤ grouping.operators.length ∧
      ∃ first ∈ (grouping.operators ++ [next])[earlier]?,
        ∃ second ∈ (grouping.operators ++ [next])[between]?, ¬table.Admits first second := by
  induction grouping generalizing earlier next with
  | operand => exact absurd inside (Nat.not_lt_zero _)
  | infixed left operator right ofLeft ofRight =>
    obtain ⟨_, released, settledLeft, settledRight⟩ := settled
    have length : (infixed left operator right).operators.length =
        left.operators.length + 1 + right.operators.length := by
      simp only [operators, List.length_append, List.length_cons]
      omega
    rcases Nat.lt_trichotomy earlier left.operators.length with before | rfl | behind
    · obtain ⟨between, above, within, first, isFirst, second, isSecond, refused⟩ :=
        ofLeft settledLeft before
      refine ⟨between, above, by omega, first, ?_, second, ?_, refused⟩
      · rwa [getElem?_left (by omega)]
      · rwa [getElem?_left within]
    · refine ⟨_, inside, Nat.le_refl _, operator, ?_, next, ?_, released⟩
      · rw [getElem?_left (Nat.le_refl _)]
        simp
      · simp
    · obtain ⟨place, rfl⟩ : ∃ place, earlier = left.operators.length + 1 + place :=
        ⟨earlier - left.operators.length - 1, by omega⟩
      obtain ⟨between, above, within, first, isFirst, second, isSecond, refused⟩ :=
        ofRight settledRight (show place < _ by omega)
      refine ⟨left.operators.length + 1 + between, by omega, by omega, first, ?_, second, ?_,
        refused⟩
      · rwa [getElem?_right]
      · rwa [getElem?_right]

/-- A settled chain is grouped as the table prescribes. -/
theorem Settled.respects {grouping : Grouping} (settled : grouping.Settled table next) :
    grouping.Respects table := by
  induction grouping generalizing next with
  | operand => exact fun _ _ _ inside => absurd inside (Nat.not_lt_zero _)
  | infixed left operator right ofLeft ofRight =>
    intro earlier later less inside
    have length : (infixed left operator right).operators.length =
        left.operators.length + 1 + right.operators.length := by
      simp only [operators, List.length_append, List.length_cons]
      omega
    have atLeft : ∀ place, place < left.operators.length →
        (infixed left operator right).operators[place]? = left.operators[place]? := by
      intro place before
      rw [← List.append_nil (operators _), getElem?_left (Nat.le_of_lt before),
        List.getElem?_append_left before]
    have atRoot : (infixed left operator right).operators[left.operators.length]? =
        some operator := by
      rw [← List.append_nil (operators _), getElem?_left (Nat.le_refl _)]
      simp
    have atRight : ∀ place,
        (infixed left operator right).operators[left.operators.length + 1 + place]? =
          right.operators[place]? := by
      intro place
      rw [← List.append_nil (operators _), getElem?_right, List.append_nil]
    obtain ⟨admitted, released, settledLeft, settledRight⟩ := settled
    rcases Nat.lt_trichotomy earlier left.operators.length with before | rfl | behind
    · by_cases within : later < left.operators.length
      · rw [inRight_left within, ofLeft settledLeft earlier later less within, atLeft _ before]
        refine forall_congr' fun between => forall_congr' fun above => forall_congr' fun below => ?_
        rw [atLeft _ (by omega)]
      · refine iff_of_false (not_inRight_across before (Nat.le_of_not_lt within)) fun all => ?_
        obtain ⟨between, above, below, first, isFirst, second, isSecond, refused⟩ :=
          settledLeft.exists_not_admits before
        obtain ⟨first', isFirst', second', isSecond', admits⟩ := all between above (by omega)
        rw [← List.append_nil (operators _), getElem?_left (by omega)] at isFirst' isSecond'
        obtain rfl := Option.mem_unique isFirst isFirst'
        obtain rfl := Option.mem_unique isSecond isSecond'
        exact refused admits
    · refine iff_of_true (inRight_root less inside) fun between above below => ?_
      obtain ⟨place, rfl⟩ : ∃ place, between = left.operators.length + 1 + place :=
        ⟨between - left.operators.length - 1, by omega⟩
      rw [atRoot, atRight, List.getElem?_eq_getElem (by omega)]
      exact ⟨operator, rfl, _, rfl, admitted _ (List.getElem_mem _)⟩
    · obtain ⟨first, rfl⟩ : ∃ place, earlier = left.operators.length + 1 + place :=
        ⟨earlier - left.operators.length - 1, by omega⟩
      obtain ⟨second, rfl⟩ : ∃ place, later = left.operators.length + 1 + place :=
        ⟨later - left.operators.length - 1, by omega⟩
      rw [inRight_right, ofRight settledRight first second (by omega) (by omega), atRight]
      constructor
      · intro all between above below
        obtain ⟨place, rfl⟩ : ∃ place, between = left.operators.length + 1 + place :=
          ⟨between - left.operators.length - 1, by omega⟩
        rw [atRight]
        exact all place (by omega) (by omega)
      · intro all place above below
        rw [← atRight place]
        exact all _ (by omega) (by omega)

end Grouping

end Kaleidoscope
