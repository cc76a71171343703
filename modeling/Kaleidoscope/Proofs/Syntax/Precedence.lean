import Kaleidoscope.Syntax.Operators

/-!
# How operators bind

The precedences of a table are numbers of the machine. Those that are not numbers are neither below
nor equal to anything; on all others the comparison is the lexicographic order of sign, exponent and
mantissa (`Kaleidoscope.place?`), which makes it transitive.

An operator between two operands takes a later one into its right operand if the later one binds
more strongly, or, behind an assignment, as strongly (`OperatorTable.Admits`). The same is asked of
the operators of an expression that is read with a least precedence (`OperatorTable.Passes`). What
an admitted operator admits is admitted as well.
-/
namespace Kaleidoscope

open Float.Model (UnpackedFloat)

/-- The place of a number among the others, unless it is none. -/
def place? : UnpackedFloat → Option (Int × Int × Int)
  | .notANumber => none
  | .infinity .negative => some (-2, 0, 0)
  | .finite .negative mantissa exponent _ => some (-1, -exponent, -mantissa)
  | .zero _ => some (0, 0, 0)
  | .finite .positive mantissa exponent _ => some (1, exponent, mantissa)
  | .infinity .positive => some (2, 0, 0)

/-- Places are compared by sign, then exponent, then mantissa. -/
def comparePlaces (first second : Int × Int × Int) : Ordering :=
  (compare first.1 second.1).then
    ((compare first.2.1 second.2.1).then (compare first.2.2 second.2.2))

/-- Natural numbers compare as integers do. -/
theorem compare_natCast (first second : Nat) :
    compare (first : Int) (second : Int) = compare first second := by
  simp only [Int.compare_eq_ite_lt, Nat.compare_eq_ite_lt, Int.ofNat_lt]

/-- Negation turns the order around. -/
theorem compare_neg (first second : Int) :
    compare (-first) (-second) = (compare first second).swap := by
  rw [Int.compare_swap]
  simp only [Int.compare_eq_ite_lt, Int.neg_lt_neg_iff]

/-- Numbers compare as their places do. -/
theorem compare_eq_comparePlaces (first second : UnpackedFloat) :
    first.compare second =
      (place? first).bind fun place => (place? second).map fun other => comparePlaces place other := by
  rcases first with (_ | _) | _ | (_ | _) | ⟨_ | _, mantissa, exponent, _⟩ <;>
    rcases second with (_ | _) | _ | (_ | _) | ⟨_ | _, mantissa', exponent', _⟩ <;> try rfl
  · show some ((compare exponent exponent').then (compare mantissa mantissa')).swap =
      some ((compare (-exponent) (-exponent')).then (compare (-(mantissa : Int)) (-mantissa')))
    rw [compare_neg, compare_neg, compare_natCast, Ordering.swap_then]
  · show some ((compare exponent exponent').then (compare mantissa mantissa')) =
      some ((compare exponent exponent').then (compare (mantissa : Int) mantissa'))
    rw [compare_natCast]

/-- Which of two places comes first. -/
theorem comparePlaces_eq_lt {first second : Int × Int × Int} :
    comparePlaces first second = .lt ↔
      first.1 < second.1 ∨ first.1 = second.1 ∧
        (first.2.1 < second.2.1 ∨ first.2.1 = second.2.1 ∧ first.2.2 < second.2.2) := by
  simp only [comparePlaces, Ordering.then_eq_lt, Int.compare_eq_lt, Int.compare_eq_eq]

/-- Only a place itself compares equal to it. -/
theorem comparePlaces_eq_eq {first second : Int × Int × Int} :
    comparePlaces first second = .eq ↔ first = second := by
  simp only [comparePlaces, Ordering.then_eq_eq, Int.compare_eq_eq, Prod.ext_iff]

/-- One number of the machine is below another. -/
theorem float_lt_iff {first second : Float} :
    first < second ↔ ∃ place ∈ place? first.toModel.unpack, ∃ other ∈ place? second.toModel.unpack,
      comparePlaces place other = .lt := by
  have unfolded : first < second ↔
      (first.toModel.unpack.compare second.toModel.unpack == some .lt) = true := by
    show decide _ = true ↔ _
    rw [decide_eq_true_eq]
    rfl
  rw [unfolded, compare_eq_comparePlaces]
  cases place? first.toModel.unpack <;> cases place? second.toModel.unpack <;> simp

/-- One number of the machine is equal to another. -/
theorem float_beq_iff {first second : Float} :
    (first == second) = true ↔
      ∃ place ∈ place? first.toModel.unpack, place ∈ place? second.toModel.unpack := by
  have unfolded : (first == second) =
      (first.toModel.unpack.compare second.toModel.unpack == some .eq) := rfl
  rw [unfolded, compare_eq_comparePlaces]
  cases place? first.toModel.unpack <;> cases place? second.toModel.unpack <;>
    simp [comparePlaces_eq_eq]
  exact eq_comm

/-- The order of numbers is transitive. -/
theorem float_lt_trans {first second third : Float} (below : first < second)
    (above : second < third) : first < third := by
  rw [float_lt_iff] at below above ⊢
  obtain ⟨place, here, middle, there, less⟩ := below
  obtain ⟨same, there', last, beyond, more⟩ := above
  obtain rfl := Option.mem_unique there there'
  refine ⟨place, here, last, beyond, ?_⟩
  rw [comparePlaces_eq_lt] at less more ⊢
  omega

/-- A number is below what is equal to one above it. -/
theorem float_lt_of_beq {first second third : Float} (below : first < second)
    (same : (third == second) = true) : first < third := by
  rw [float_lt_iff] at below ⊢
  rw [float_beq_iff] at same
  obtain ⟨place, here, middle, there, less⟩ := below
  obtain ⟨last, beyond, there'⟩ := same
  obtain rfl := Option.mem_unique there there'
  exact ⟨place, here, _, beyond, less⟩

/-- What is equal to a number is below those above it. -/
theorem float_lt_of_beq_of_lt {first second third : Float} (same : (second == first) = true)
    (below : second < third) : first < third := by
  rw [float_lt_iff] at below ⊢
  rw [float_beq_iff] at same
  obtain ⟨place, here, last, beyond, less⟩ := below
  obtain ⟨place', here', there⟩ := same
  obtain rfl := Option.mem_unique here here'
  exact ⟨_, there, last, beyond, less⟩

/-- Equality of numbers is transitive. -/
theorem float_beq_trans {first second third : Float} (same : (first == second) = true)
    (equal : (second == third) = true) : (first == third) = true := by
  rw [float_beq_iff] at same equal ⊢
  obtain ⟨place, here, there⟩ := same
  obtain ⟨place', there', beyond⟩ := equal
  obtain rfl := Option.mem_unique there there'
  exact ⟨_, here, beyond⟩

/-- The precedence of a prototype, if it has any, is positive. -/
def PrototypeKind.IsPositive (kind : PrototypeKind) : Prop :=
  ∀ precedence, kind = .binary precedence → 0 < precedence

namespace OperatorTable

/-- A token is an operator that binds more strongly than `least`, or, if `inclusive`, as
strongly. -/
def Passes (table : OperatorTable) (least : Float) (inclusive : Bool) (token : Token) : Prop :=
  ∃ precedence ∈ table.precedence? token,
    least < precedence ∨ inclusive = true ∧ (precedence == least) = true

/-- A later operator stands in the right operand of an earlier one if nothing between them
prevents it: it binds more strongly, or, behind an assignment, as strongly. -/
def Admits (table : OperatorTable) (earlier later : Token) : Prop :=
  ∃ precedence ∈ table.precedence? earlier,
    table.Passes precedence (isRightAssociative earlier) later

/-- Every declared precedence is positive. -/
def IsPositive (table : OperatorTable) : Prop := ∀ entry ∈ table.binary, (0 : Float) < entry.2

variable {table : OperatorTable} {least precedence : Float} {inclusive : Bool}
  {token earlier later : Token}

/-- What an operator admits that passes a least precedence passes it too. -/
theorem Passes.trans (passes : table.Passes least inclusive earlier)
    (admits : table.Admits earlier later) : table.Passes least inclusive later := by
  obtain ⟨strength, isStrength, above⟩ := passes
  obtain ⟨strength', isStrength', other, isOther, beyond⟩ := admits
  obtain rfl := Option.mem_unique isStrength isStrength'
  refine ⟨other, isOther, ?_⟩
  rcases above with above | ⟨allowed, same⟩ <;> rcases beyond with beyond | ⟨_, equal⟩
  · exact .inl (float_lt_trans above beyond)
  · exact .inl (float_lt_of_beq above equal)
  · exact .inl (float_lt_of_beq_of_lt same beyond)
  · exact .inr ⟨allowed, float_beq_trans equal same⟩

/-- Prototypes with positive precedences keep those of a table positive. -/
theorem IsPositive.declare {prototype : Prototype} (positive : table.IsPositive)
    (strength : prototype.kind.IsPositive) :
    (table.declare prototype).IsPositive := by
  unfold OperatorTable.declare
  cases kind : prototype.kind with
  | function | unary => exact positive
  | binary precedence => exact List.forall_mem_cons.2 ⟨strength precedence kind, positive⟩

/-- Every operator of a table with positive precedences has a positive precedence. -/
theorem IsPositive.pos (positive : table.IsPositive)
    (found : table.precedence? token = some precedence) : 0 < precedence := by
  have builtins : ∀ entry ∈ builtin, (0 : Float) < entry.2 := by decide +kernel
  have ofLookup : ∀ {entries : List (String × Float)} {name : String},
      (∀ entry ∈ entries, (0 : Float) < entry.2) → entries.lookup name = some precedence →
      0 < precedence := by
    intro entries name all found
    rw [List.lookup_eq_some_iff] at found
    obtain ⟨front, back, rfl, _⟩ := found
    exact all (name, precedence) (by simp)
  have ofDeclared : table.declared? token = some precedence → 0 < precedence := by
    intro found
    obtain ⟨name, _, found⟩ := Option.bind_eq_some_iff.1 found
    exact ofLookup positive found
  have ofSign : (builtin.lookup token.lexeme).or (table.declared? token) = some precedence →
      0 < precedence := by
    intro found
    rcases Option.or_eq_some_iff.1 found with found | ⟨_, found⟩
    · exact ofLookup builtins found
    · exact ofDeclared found
  unfold precedence? at found
  split at found
  · exact ofSign found
  · exact ofSign found
  · exact ofDeclared found
  · contradiction

/-- With positive precedences, only what is no operator ends an expression that is read from
zero. -/
theorem IsPositive.eq_none (positive : table.IsPositive)
    (stops : ¬table.Passes 0 false token) : table.precedence? token = none := by
  cases found : table.precedence? token with
  | none => rfl
  | some precedence => exact absurd ⟨precedence, found, .inl (positive.pos found)⟩ stops

end OperatorTable

end Kaleidoscope
