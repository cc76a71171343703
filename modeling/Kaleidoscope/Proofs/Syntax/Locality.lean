import Kaleidoscope.Proofs.Syntax.Crossing
import Kaleidoscope.Proofs.Syntax.Turns

/-!
# Parsing looks no further than the next semicolon

No rule of the grammar leaves a semicolon, whether it succeeds or fails, so what follows a semicolon
changes neither what a statement is read as nor how it fails. This is shown for two parsers at the
same token, the second of which has further tokens behind those of the first (`Parser.Precedes`):
each rule takes both to the same value or the same error, and across the same tokens to parsers that
are related again (`Parse.Mirrors`).

The loops of the grammar are bounded by the number of tokens left, which differs between the two
parsers. The relation therefore also says how many tokens of the first are left afterwards, and
compares a loop that has a large enough bound with anything that turns as it does: the same loop
with another such bound, or a solution of its equation without any. For equal parsers this means
that larger bounds change nothing, and that an expression leaves at least one token.
-/
namespace Kaleidoscope

namespace Parse

open Kaleidoscope.Parser (Precedes Moves)

/-- Two actions lead to the same value or the same error, and across the same tokens from two
parsers to two that are related again. Fewer tokens than a limit are left after a success, and no
more than a bound after a failure. -/
def Mirrors {α : Type} (declaring : Prop) (rest : List Token) (bound limit : Nat)
    (action other : Parse α) (first second : Parser) : Prop :=
  match action first, other second with
  | .ok value next, .ok same following =>
    value = same ∧ Moves declaring rest first second next following ∧ next.remaining < limit
  | .error error next, .error same following =>
    error = same ∧ Moves declaring rest first second next following ∧ next.remaining ≤ bound
  | _, _ => False

namespace Mirrors

variable {α β : Type} {declaring : Prop} {rest : List Token} {bound limit early : Nat}
  {first second : Parser}
  {action other : Parse α} {next following : α → Parse β}

/-- Yielding a value. -/
theorem pure (value : α) (precedes : Precedes rest first second) (less : first.remaining < limit) :
    Mirrors declaring rest bound limit (pure value) (pure value) first second :=
  ⟨rfl, .refl precedes, less⟩

/-- Failing with an error that does not depend on the parser. -/
theorem throw (error : ParseError) (precedes : Precedes rest first second)
    (within : first.remaining ≤ bound) :
    Mirrors declaring rest bound limit (throw error : Parse α) (throw error) first second :=
  ⟨rfl, .refl precedes, within⟩

/-- Failing at the current token. -/
theorem failHere (cause : ParseCause) (precedes : Precedes rest first second)
    (within : first.remaining ≤ bound) :
    Mirrors declaring rest bound limit (failHere cause : Parse α) (Parse.failHere cause) first
      second :=
  ⟨by rw [precedes.current_eq], .refl precedes, within⟩

/-- Failing because the current token is not expected. -/
theorem unexpected (expected : List Expectation) (precedes : Precedes rest first second)
    (within : first.remaining ≤ bound) :
    Mirrors declaring rest bound limit (unexpected expected : Parse α) (Parse.unexpected expected)
      first second :=
  ⟨by rw [precedes.current_eq], .refl precedes, within⟩

/-- One action after another. -/
theorem bind (front : Mirrors declaring rest bound early action other first second)
    (back : ∀ value first second, Precedes rest first second → first.remaining < early →
      Mirrors declaring rest bound limit (next value) (following value) first second) :
    Mirrors declaring rest bound limit (action >>= next) (other >>= following) first second := by
  unfold Mirrors at front ⊢
  simp only [Bind.bind, EStateM.bind]
  cases left : action first <;> cases right : other second <;> simp only [left, right] at front ⊢
  · next value middle _ between =>
    obtain ⟨rfl, moves, less⟩ := front
    have rest := back value middle between moves.precedes less
    unfold Mirrors at rest
    cases left : next value middle <;> cases right : following value between <;>
      simp only [left, right] at rest ⊢
    · exact ⟨rest.1, moves.trans rest.2.1, rest.2.2⟩
    · exact ⟨rest.1, moves.trans rest.2.1, rest.2.2⟩
  · exact front

/-- What the actions are elsewhere does not matter. -/
theorem congr {early late : Parse α}
    (mirrors : Mirrors declaring rest bound limit action other first second) (left : early first = action first) (right : late second = other second) :
    Mirrors declaring rest bound limit early late first second := by
  unfold Mirrors
  rwa [left, right]

/-- Looking at the current token. -/
theorem current {next following : Token → Parse β} (precedes : Precedes rest first second)
    (back : Mirrors declaring rest bound limit (next first.current) (following first.current) first
      second) :
    Mirrors declaring rest bound limit (current >>= next) (current >>= following) first second := by
  show Mirrors declaring rest bound limit (next first.current) (following second.current) first
    second
  rwa [precedes.current_eq]

/-- Looking at the parser. -/
theorem get {next following : Parser → Parse β}
    (back : Mirrors declaring rest bound limit (next first) (following second) first second) :
    Mirrors declaring rest bound limit (get >>= next) (get >>= following) first second :=
  back

/-- Asking for the kind of the current token. -/
theorem isAt {next following : Bool → Parse β} (kind : Token.Kind)
    (precedes : Precedes rest first second)
    (back : ∀ answer, first.isAt kind = answer →
      Mirrors declaring rest bound limit (next answer) (following answer) first second) :
    Mirrors declaring rest bound limit (isAt kind >>= next) (isAt kind >>= following) first
      second := by
  have both := back _ rfl
  show Mirrors declaring rest bound limit (next (first.isAt kind)) (following (second.isAt kind))
    first second
  rwa [precedes.isAt_eq]

/-- Leaving a token other than a semicolon and the end. -/
theorem step (precedes : Precedes rest first second) (inside : first.current.kind ≠ .semicolon)
    (before : first.current.kind ≠ .eof) :
    Mirrors declaring rest bound first.remaining step step first second :=
  ⟨precedes.current_eq.symm, .step precedes inside before,
    Parser.remaining_advance_lt (by simpa [Parser.isAt] using before)⟩

/-- From a single parser both actions lead to the same. -/
theorem eq (mirrors : Mirrors declaring [] bound limit action other first first) :
    action first = other first := by
  unfold Mirrors at mirrors
  cases left : action first <;> cases right : other first <;> simp only [left, right] at mirrors ⊢
  · rw [mirrors.1, mirrors.2.1.eq]
  · rw [mirrors.1, mirrors.2.1.eq]

/-- What is left on the way from a parser. -/
theorem crosses (mirrors : Mirrors declaring [] bound limit action action first first) :
    match action first with
    | .ok _ next => (∃ tokens, first.Crosses declaring tokens next) ∧ next.remaining < limit
    | .error _ next =>
      (∃ tokens, first.Crosses declaring tokens next) ∧ next.remaining ≤ bound := by
  unfold Mirrors at mirrors
  cases ran : action first <;> simp only [ran] at mirrors ⊢
  · obtain ⟨-, ⟨-, tokens, crosses, -⟩, less⟩ := mirrors
    exact ⟨⟨tokens, crosses⟩, less⟩
  · obtain ⟨-, ⟨-, tokens, crosses, -⟩, within⟩ := mirrors
    exact ⟨⟨tokens, crosses⟩, within⟩

/-- More may be left. -/
theorem mono {less fewer : Nat}
    (mirrors : Mirrors declaring rest less fewer action other first second)
    (within : less ≤ bound) (le : fewer ≤ limit) :
    Mirrors declaring rest bound limit action other first second := by
  unfold Mirrors at mirrors ⊢
  cases left : action first <;> cases right : other second <;>
    simp only [left, right] at mirrors ⊢
  · exact ⟨mirrors.1, mirrors.2.1, Nat.lt_of_lt_of_le mirrors.2.2 le⟩
  · exact ⟨mirrors.1, mirrors.2.1, Nat.le_trans mirrors.2.2 within⟩

end Mirrors

section Actions

variable {declaring : Prop} {rest : List Token} {bound limit : Nat} {first second : Parser}

/-- A token of the kind that is wanted is left. -/
theorem expect_eq {kind : Token.Kind} {parser : Parser} (here : parser.current.kind = kind) :
    expect kind parser = .ok parser.current parser.advance := by
  have isHere : parser.isAt kind = true := decide_eq_true here
  show (if parser.isAt kind = true then step else _ : Parse Token) parser = _
  rw [if_pos isHere]
  rfl

/-- Any other token stays and is an error. -/
theorem expect_eq_error {kind : Token.Kind} {parser : Parser} (other : parser.isAt kind = false) :
    expect kind parser = .error
      ⟨if parser.isAt .eof then .unexpectedEof else .unexpectedToken parser.current [.token kind],
        parser.current.span, parser.current.line⟩ parser := by
  show (if parser.isAt kind = true then step else _ : Parse Token) parser = _
  rw [if_neg (by simp [other])]
  show (if parser.isAt .eof = true then failHere .unexpectedEof else
    unexpected [.token kind] : Parse Token) parser = _
  cases parser.isAt .eof <;> rfl

/-- Leaving a token of a kind other than a semicolon. -/
theorem mirrors_expect {kind : Token.Kind} (inside : kind ≠ .semicolon) (before : kind ≠ .eof)
    (precedes : Precedes rest first second) (within : first.remaining ≤ bound) :
    Mirrors declaring rest bound first.remaining (expect kind) (expect kind) first second := by
  unfold expect
  refine .isAt kind precedes fun answer here => ?_
  cases answer with
  | true =>
    have same : first.current.kind = kind := by simpa [Parser.isAt] using here
    exact .step precedes (same ▸ inside) (same ▸ before)
  | false =>
    refine .isAt .eof precedes fun ended _ => ?_
    cases ended with
    | true => exact .failHere _ precedes within
    | false => exact .unexpected _ precedes within

/-- Leaving an identifier. -/
theorem mirrors_expectIdent (precedes : Precedes rest first second)
    (within : first.remaining ≤ bound) :
    Mirrors declaring rest bound first.remaining expectIdent expectIdent first second := by
  unfold expectIdent
  refine .current precedes ?_
  split
  · next kind _ =>
    split
    · exact .failHere _ precedes within
    · refine .bind (.step precedes (by simp [kind]) (by simp [kind])) ?_
      exact fun token first second precedes less => .pure _ precedes less
  · exact .failHere _ precedes within
  · exact .failHere _ precedes within

/-- Leaving the name of an operator. -/
theorem mirrors_expectOperatorName (precedes : Precedes rest first second)
    (within : first.remaining ≤ bound) :
    Mirrors declaring rest bound first.remaining expectOperatorName expectOperatorName first
      second := by
  unfold expectOperatorName
  refine .current precedes ?_
  split
  · split
    · next named =>
      have kinds := named.1
      refine .bind (.step precedes ?_ ?_) ?_
      · rintro same
        simp [same] at kinds
      · rintro same
        simp [same] at kinds
      · exact fun token first second precedes less => .pure _ precedes less
    · exact .failHere _ precedes within
  · exact .failHere _ precedes within

/-- Leaving a number. -/
theorem mirrors_expectNumber (precedes : Precedes rest first second)
    (within : first.remaining ≤ bound) :
    Mirrors declaring rest bound first.remaining expectNumber expectNumber first second := by
  unfold expectNumber
  refine .current precedes ?_
  split
  · next kind _ =>
    refine .bind (.step precedes (by simp [kind]) (by simp [kind])) ?_
    exact fun token first second precedes less => .pure _ precedes less
  · exact .unexpected _ precedes within

/-- Leaving the precedence of an operator. -/
theorem mirrors_expectPrecedence (precedes : Precedes rest first second)
    (within : first.remaining ≤ bound) :
    Mirrors declaring rest bound first.remaining expectPrecedence expectPrecedence first
      second := by
  unfold expectPrecedence
  refine .current precedes ?_
  split
  · refine .bind (mirrors_expectNumber precedes within) ?_
    rintro ⟨value, span⟩ first second precedes less
    simp only
    split
    · exact .pure _ precedes less
    · exact .throw _ precedes (by omega)
  · exact .failHere _ precedes within

end Actions

section Loops

variable {ι α : Type} {declaring : Prop} {rest : List Token} {roof extra : Nat}
  {turn turnToo : (ι → Parse α) → ι → Parse α}

/-- Turns of two loops mirror each other, wherever fewer than some number of tokens are left, if the
turns after them do where fewer tokens are left. -/
def TurnsMirror (declaring : Prop) (rest : List Token) (roof extra : Nat)
    (turn turnToo : (ι → Parse α) → ι → Parse α) : Prop :=
  ∀ {others more : ι → Parse α} {first second : Parser} (index : ι), Precedes rest first second →
    first.remaining < roof →
    (∀ (index : ι) {later following : Parser}, Precedes rest later following →
      later.remaining < first.remaining →
      Mirrors declaring rest first.remaining (later.remaining + extra) (others index) (more index)
        later following) →
    Mirrors declaring rest first.remaining (first.remaining + extra) (turn others index)
      (turnToo more index) first second

/-- Loops whose turns mirror each other do so themselves, with any bounds that suffice. -/
theorem TurnsMirror.loops (mirror : TurnsMirror declaring rest roof extra turn turnToo)
    (loop other : Nat → ι → Parse α) (turns : ∀ bound, loop (bound + 1) = turn (loop bound))
    (turnsToo : ∀ bound, other (bound + 1) = turnToo (other bound)) {fewer : Nat} :
    ∀ {more : Nat} {first second : Parser} (index : ι), Precedes rest first second →
    first.remaining < fewer → first.remaining < more → first.remaining < roof →
    Mirrors declaring rest first.remaining (first.remaining + extra) (loop fewer index)
      (other more index) first second := by
  induction fewer with
  | zero => exact fun _ _ enough => absurd enough (Nat.not_lt_zero _)
  | succ fewer hypothesis =>
    intro more first second index precedes enough enoughMore less
    obtain ⟨more, rfl⟩ : ∃ count, more = count + 1 := ⟨more - 1, by omega⟩
    rw [turns, turnsToo]
    refine mirror index precedes less fun index later following precedes left => ?_
    exact (hypothesis index precedes (by omega) (by omega) (by omega)).mono (Nat.le_of_lt left)
      (Nat.le_refl _)

end Loops

/-- Two rules for nested expressions mirror each other wherever fewer than some number of tokens are
left, and leave at least one of them. -/
def NestedMirrors (declaring : Prop) (rest : List Token) (below : Nat)
    (nested other : Float → Bool → Parse Expr) : Prop :=
  ∀ {first second : Parser} {bound : Nat} (least : Float) (inclusive : Bool),
    Precedes rest first second → first.remaining < below → first.remaining ≤ bound →
    Mirrors declaring rest bound first.remaining (nested least inclusive) (other least inclusive)
      first second

section Rules

variable {declaring : Prop} {rest : List Token} {bound below limit : Nat} {first second : Parser}
  {nested other : Float → Bool → Parse Expr}
  (nests : NestedMirrors declaring rest below nested other)
include nests

/-- An argument, and the others if they are mirrored where fewer tokens are left. -/
theorem mirrors_argumentsTurn {others more : Parse (List Expr)} {first second : Parser}
    (precedes : Precedes rest first second) (less : first.remaining < below)
    (within : first.remaining ≤ bound)
    (behind : ∀ {later following : Parser}, Precedes rest later following →
      later.remaining < first.remaining →
      Mirrors declaring rest bound later.remaining others more later following) :
    Mirrors declaring rest bound first.remaining (argumentsTurn nested others)
      (argumentsTurn other more) first second := by
  refine .bind (nests 0 false precedes less within) fun argument middle second precedes left => ?_
  refine .isAt .comma precedes fun answer here => ?_
  cases answer with
  | false => exact .pure _ precedes left
  | true =>
    have comma : middle.current.kind = .comma := by simpa [Parser.isAt] using here
    refine .bind (.step precedes (by simp [comma]) (by simp [comma])) ?_
    intro _ later second precedes fewer
    refine .bind (behind precedes (by omega)) ?_
    exact fun others last second precedes final => .pure _ precedes (by omega)

/-- Arguments separated by commas. -/
theorem mirrors_arguments {loop : Nat → Parse (List Expr)}
    (turns : ∀ bound, loop (bound + 1) = argumentsTurn other (loop bound)) {fewer more : Nat}
    {first second : Parser} (precedes : Precedes rest first second)
    (enough : first.remaining < fewer) (enoughMore : first.remaining < more)
    (less : first.remaining < below) (within : first.remaining ≤ bound) :
    Mirrors declaring rest bound first.remaining (arguments nested fewer) (loop more) first
      second := by
  have mirror : TurnsMirror declaring rest below 0
      (fun others (_ : Unit) => argumentsTurn nested (others ()))
      (fun others _ => argumentsTurn other (others ())) :=
    fun _ precedes less behind => mirrors_argumentsTurn nests precedes less (Nat.le_refl _)
      fun precedes left => behind () precedes left
  have mirrors := mirror.loops (fun bound _ => arguments nested bound) (fun bound _ => loop bound)
    (fun bound => funext fun _ => arguments_succ nested bound) (fun bound => funext fun _ => turns bound)
    () precedes enough enoughMore less
  exact mirrors.mono within (Nat.le_refl _)

/-- A variable or a call. -/
theorem mirrors_reference (precedes : Precedes rest first second) (less : first.remaining ≤ below)
    (within : first.remaining ≤ bound)
    (enough : first.remaining ≤ limit) :
    Mirrors declaring rest bound limit (reference nested) (reference other) first second := by
  unfold reference
  refine .bind (mirrors_expectIdent precedes within) ?_
  rintro ⟨name, start⟩ first second precedes left
  refine .isAt .leftParen precedes fun answer here => ?_
  cases answer with
  | false => exact .pure _ precedes (by omega)
  | true =>
    have opening : first.current.kind = .leftParen := by simpa [Parser.isAt] using here
    refine .bind (.step precedes (by simp [opening]) (by simp [opening])) ?_
    intro _ middle second precedes fewer
    refine .isAt .rightParen precedes fun closed _ => ?_
    have close : ∀ (values : List Expr) (first second : Parser), Precedes rest first second →
        first.remaining < middle.remaining + 1 →
        Mirrors declaring rest bound limit (expect .rightParen >>= fun close =>
            Pure.pure (Expr.call name values (start.join close.span)))
          (expect .rightParen >>= fun close =>
            Pure.pure (Expr.call name values (start.join close.span))) first second := by
      intro values first second precedes last
      refine .bind (mirrors_expect (by simp) (by simp) precedes (by omega)) ?_
      exact fun token first second precedes final => .pure _ precedes (by omega)
    cases closed with
    | true => exact .bind (.pure _ precedes (Nat.lt_succ_self _)) close
    | false =>
      have values : Mirrors declaring rest bound middle.remaining
          (arguments nested (middle.remaining + 1)) (arguments other (second.remaining + 1)) middle
          second :=
        mirrors_arguments nests (arguments_succ other) precedes (Nat.lt_succ_self _)
          precedes.remaining_lt (by omega) (by omega)
      exact .get (.bind (values.mono (Nat.le_refl _) (Nat.le_succ _)) close)

/-- A condition and the values it chooses between. -/
theorem mirrors_conditional (precedes : Precedes rest first second)
    (less : first.remaining ≤ below) (within : first.remaining ≤ bound)
    (enough : first.remaining ≤ limit) :
    Mirrors declaring rest bound limit (conditional nested) (conditional other) first second := by
  unfold conditional
  refine .bind (mirrors_expect (by simp) (by simp) precedes within) ?_
  intro start first second precedes left
  refine .bind (nests 0 false precedes (by omega) (by omega)) ?_
  intro condition first second precedes left
  refine .bind (mirrors_expect (by simp) (by simp) precedes (by omega)) ?_
  intro _ first second precedes left
  refine .bind (nests 0 false precedes (by omega) (by omega)) ?_
  intro consequent first second precedes left
  refine .bind (mirrors_expect (by simp) (by simp) precedes (by omega)) ?_
  intro _ first second precedes left
  refine .bind (nests 0 false precedes (by omega) (by omega)) ?_
  exact fun alternative first second precedes left => .pure _ precedes (by omega)

/-- An expression that is wanted or left out. -/
theorem mirrors_some (precedes : Precedes rest first second) (less : first.remaining < below)
    (within : first.remaining ≤ bound) :
    Mirrors declaring rest bound first.remaining (some <$> nested 0 false)
      (some <$> other 0 false) first second :=
  .bind (nests 0 false precedes less within) fun _ _ _ precedes left => .pure _ precedes left

/-- A counted loop. -/
theorem mirrors_loop (precedes : Precedes rest first second) (less : first.remaining ≤ below)
    (within : first.remaining ≤ bound)
    (enough : first.remaining ≤ limit) :
    Mirrors declaring rest bound limit (loop nested) (loop other) first second := by
  unfold loop
  refine .bind (mirrors_expect (by simp) (by simp) precedes within) ?_
  intro start first second precedes left
  refine .bind (mirrors_expectIdent precedes (by omega)) ?_
  rintro ⟨counter, place⟩ first second precedes left
  refine .bind (mirrors_expect (by simp) (by simp) precedes (by omega)) ?_
  intro _ first second precedes left
  refine .bind (nests 0 false precedes (by omega) (by omega)) ?_
  intro initial first second precedes left
  refine .bind (mirrors_expect (by simp) (by simp) precedes (by omega)) ?_
  intro _ first second precedes left
  refine .bind (nests 0 false precedes (by omega) (by omega)) ?_
  intro last middle second precedes left
  have body : ∀ (increment : Option Expr) (first second : Parser), Precedes rest first second →
      first.remaining < middle.remaining + 1 →
      Mirrors declaring rest bound limit
        (expect (.keyword .inWord) >>= fun _ => nested 0 false >>= fun body =>
          Pure.pure (Expr.loop counter initial last increment body (start.span.join body.span)))
        (expect (.keyword .inWord) >>= fun _ => other 0 false >>= fun body =>
          Pure.pure (Expr.loop counter initial last increment body (start.span.join body.span)))
        first second := by
    intro increment first second precedes left
    refine .bind (mirrors_expect (by simp) (by simp) precedes (by omega)) ?_
    intro _ first second precedes left
    refine .bind (nests 0 false precedes (by omega) (by omega)) ?_
    exact fun body first second precedes left => .pure _ precedes (by omega)
  refine .isAt .comma precedes fun answer here => ?_
  cases answer with
  | false => exact .bind (.pure _ precedes (Nat.lt_succ_self _)) body
  | true =>
    have comma : middle.current.kind = .comma := by simpa [Parser.isAt] using here
    refine .bind (.step precedes (by simp [comma]) (by simp [comma])) ?_
    intro _ first second precedes left
    exact .bind ((mirrors_some nests precedes (by omega) (by omega)).mono (Nat.le_refl _)
      (by omega)) body

/-- A local variable, and the others if they are mirrored where fewer tokens are left. -/
theorem mirrors_bindingsTurn {others more : Parse (List (String × Option Expr))}
    {first second : Parser} (precedes : Precedes rest first second)
    (less : first.remaining ≤ below) (within : first.remaining ≤ bound)
    (behind : ∀ {later following : Parser}, Precedes rest later following →
      later.remaining < first.remaining →
      Mirrors declaring rest bound later.remaining others more later following) :
    Mirrors declaring rest bound first.remaining (bindingsTurn nested others)
      (bindingsTurn other more) first second := by
  refine .bind (mirrors_expectIdent precedes within) ?_
  rintro ⟨name, place⟩ middle second precedes left
  have separated : ∀ (initializer : Option Expr) (early second : Parser),
      Precedes rest early second → early.remaining < middle.remaining + 1 →
      Mirrors declaring rest bound first.remaining
        (isAt .comma >>= fun answer => if answer = true then
            step >>= fun _ => others >>= fun others => Pure.pure ((name, initializer) :: others)
          else Pure.pure [(name, initializer)])
        (isAt .comma >>= fun answer => if answer = true then
            step >>= fun _ => more >>= fun others => Pure.pure ((name, initializer) :: others)
          else Pure.pure [(name, initializer)]) early second := by
    intro initializer early second precedes left
    refine .isAt .comma precedes fun answer here => ?_
    cases answer with
    | false => exact .pure _ precedes (by omega)
    | true =>
      have comma : early.current.kind = .comma := by simpa [Parser.isAt] using here
      refine .bind (.step precedes (by simp [comma]) (by simp [comma])) ?_
      intro _ later second precedes left
      refine .bind (behind precedes (by omega)) ?_
      exact fun others last second precedes left => .pure _ precedes (by omega)
  refine .isAt .equal precedes fun answer here => ?_
  cases answer with
  | false => exact .bind (.pure _ precedes (Nat.lt_succ_self _)) separated
  | true =>
    have equal : middle.current.kind = .equal := by simpa [Parser.isAt] using here
    refine .bind (.step precedes (by simp [equal]) (by simp [equal])) ?_
    intro _ later second precedes left
    exact .bind ((mirrors_some nests precedes (by omega) (by omega)).mono (Nat.le_refl _)
      (by omega)) separated

/-- Local variables separated by commas. -/
theorem mirrors_bindings {loop : Nat → Parse (List (String × Option Expr))}
    (turns : ∀ bound, loop (bound + 1) = bindingsTurn other (loop bound)) {fewer more : Nat}
    {first second : Parser} (precedes : Precedes rest first second)
    (enough : first.remaining < fewer) (enoughMore : first.remaining < more)
    (less : first.remaining ≤ below) (within : first.remaining ≤ bound) :
    Mirrors declaring rest bound first.remaining (bindings nested fewer) (loop more) first
      second := by
  have mirror : TurnsMirror declaring rest (below + 1) 0
      (fun others (_ : Unit) => bindingsTurn nested (others ()))
      (fun others _ => bindingsTurn other (others ())) :=
    fun _ precedes less behind => mirrors_bindingsTurn nests precedes (Nat.le_of_lt_succ less)
      (Nat.le_refl _) fun precedes left => behind () precedes left
  have mirrors := mirror.loops (fun bound _ => bindings nested bound) (fun bound _ => loop bound)
    (fun bound => funext fun _ => bindings_succ nested bound) (fun bound => funext fun _ => turns bound)
    () precedes enough enoughMore (Nat.lt_succ_of_le less)
  exact mirrors.mono within (Nat.le_refl _)

/-- The expression that local variables are visible in. -/
theorem mirrors_visible (start : Token) (introduced : List (String × Option Expr))
    (precedes : Precedes rest first second) (less : first.remaining ≤ below)
    (within : first.remaining ≤ bound) (enough : first.remaining ≤ limit) :
    Mirrors declaring rest bound limit
      (expect (.keyword .inWord) >>= fun _ => nested 0 false >>= fun body =>
        Pure.pure (introduced.foldr (fun (name, initializer) inner =>
          .binding name initializer inner (start.span.join body.span)) body))
      (expect (.keyword .inWord) >>= fun _ => other 0 false >>= fun body =>
        Pure.pure (introduced.foldr (fun (name, initializer) inner =>
          .binding name initializer inner (start.span.join body.span)) body)) first second := by
  refine .bind (mirrors_expect (by simp) (by simp) precedes within) ?_
  intro _ first second precedes left
  refine .bind (nests 0 false precedes (by omega) (by omega)) ?_
  exact fun body first second precedes left => .pure _ precedes (by omega)

/-- Local variables and the expression they are visible in. -/
theorem mirrors_locals (precedes : Precedes rest first second) (less : first.remaining ≤ below)
    (within : first.remaining ≤ bound) (enough : first.remaining ≤ limit) :
    Mirrors declaring rest bound limit (locals nested) (locals other) first second := by
  unfold locals
  refine .bind (mirrors_expect (by simp) (by simp) precedes within) ?_
  intro start middle second precedes left
  refine .isAt (.keyword .inWord) precedes fun answer _ => ?_
  cases answer with
  | true =>
    refine .bind (.pure _ precedes (Nat.lt_succ_self _)) ?_
    intro introduced first second precedes left
    exact mirrors_visible nests start introduced precedes (by omega) (by omega) (by omega)
  | false =>
    have introduced : Mirrors declaring rest bound middle.remaining
        (bindings nested (middle.remaining + 1)) (bindings other (second.remaining + 1)) middle
        second :=
      mirrors_bindings nests (bindings_succ other) precedes (Nat.lt_succ_self _)
        precedes.remaining_lt (by omega) (by omega)
    refine .get (.bind introduced fun introduced first second precedes left => ?_)
    exact mirrors_visible nests start introduced precedes (by omega) (by omega) (by omega)

/-- An operand without unary operators. -/
theorem mirrors_primary (precedes : Precedes rest first second) (less : first.remaining ≤ below)
    (within : first.remaining ≤ bound) (enough : first.remaining ≤ limit) :
    Mirrors declaring rest bound limit (primary nested) (primary other) first second := by
  unfold primary
  refine .current precedes ?_
  split
  · next opening =>
    refine .bind (.step precedes (by simp [opening]) (by simp [opening])) ?_
    intro _ first second precedes left
    refine .bind (nests 0 false precedes (by omega) (by omega)) ?_
    intro inner first second precedes left
    refine .bind (mirrors_expect (by simp) (by simp) precedes (by omega)) ?_
    exact fun _ first second precedes left => .pure _ precedes (by omega)
  · exact mirrors_reference nests precedes less within enough
  · refine .bind (mirrors_expectNumber precedes within) ?_
    exact fun _ first second precedes left => .pure _ precedes (by omega)
  · exact mirrors_conditional nests precedes less within enough
  · exact mirrors_loop nests precedes less within enough
  · exact mirrors_locals nests precedes less within enough
  · exact .failHere _ precedes within
  · exact .unexpected _ precedes within

/-- An operand, if those behind a unary operator are mirrored where fewer tokens are left. -/
theorem mirrors_operandTurn {inside more : Parse Expr} {first second : Parser}
    (precedes : Precedes rest first second) (less : first.remaining ≤ below)
    (within : first.remaining ≤ bound)
    (behind : ∀ {later following : Parser}, Precedes rest later following →
      later.remaining < first.remaining →
      Mirrors declaring rest bound later.remaining inside more later following) :
    Mirrors declaring rest bound first.remaining (operandTurn nested inside)
      (operandTurn other more) first second := by
  refine .get ?_
  rw [precedes.operators_eq, precedes.current_eq]
  cases unary : first.operators.isUnary first.current with
  | false => exact mirrors_primary nests precedes less within (Nat.le_refl _)
  | true =>
    simp only [OperatorTable.isUnary, Bool.and_eq_true, Bool.or_eq_true, decide_eq_true_eq] at unary
    refine .bind (.step precedes ?_ ?_) ?_
    · rcases unary.1 with same | same <;> simp [same]
    · rcases unary.1 with same | same <;> simp [same]
    · intro operator later second precedes left
      refine .bind (behind precedes left) ?_
      exact fun inner last second precedes fewer => .pure _ precedes (by omega)

/-- An operand. -/
theorem mirrors_operand {loop : Nat → Parse Expr}
    (turns : ∀ bound, loop (bound + 1) = operandTurn other (loop bound)) {fewer more : Nat}
    {first second : Parser} (precedes : Precedes rest first second)
    (enough : first.remaining < fewer) (enoughMore : first.remaining < more)
    (less : first.remaining ≤ below) (within : first.remaining ≤ bound) :
    Mirrors declaring rest bound first.remaining (operand nested fewer) (loop more) first
      second := by
  have mirror : TurnsMirror declaring rest (below + 1) 0
      (fun inside (_ : Unit) => operandTurn nested (inside ()))
      (fun inside _ => operandTurn other (inside ())) :=
    fun _ precedes less behind => mirrors_operandTurn nests precedes (Nat.le_of_lt_succ less)
      (Nat.le_refl _) fun precedes left => behind () precedes left
  have mirrors := mirror.loops (fun bound _ => operand nested bound) (fun bound _ => loop bound)
    (fun bound => funext fun _ => operand_succ nested bound) (fun bound => funext fun _ => turns bound)
    () precedes enough enoughMore (Nat.lt_succ_of_le less)
  exact mirrors.mono within (Nat.le_refl _)

/-- The rest of a binary expression. -/
theorem mirrors_infixed (left : Expr) {precedence : Float}
    (precedes : Precedes rest first second) (binds : first.precedence? = some precedence)
    (less : first.remaining ≤ below) (within : first.remaining ≤ bound) :
    Mirrors declaring rest bound first.remaining (infixed nested left (some precedence))
      (infixed other left (some precedence)) first second := by
  have kinds : first.current.kind ≠ .semicolon ∧ first.current.kind ≠ .eof := by
    constructor <;> rintro same <;>
      simp [Parser.precedence?, OperatorTable.precedence?, same] at binds
  unfold infixed
  refine .get (.bind (.step precedes kinds.1 kinds.2) ?_)
  intro operator first second precedes less
  refine .bind (nests _ _ precedes (by omega) (by omega)) ?_
  intro right first second precedes less
  split
  · exact .pure _ precedes (by omega)
  · exact .throw _ precedes (by omega)

/-- An operator that is taken into an expression, if those behind it are mirrored where fewer tokens
are left. -/
theorem mirrors_climbTurn (least : Float) (inclusive : Bool) {onward more : Expr → Parse Expr}
    {limit : Nat} {first second : Parser} (left : Expr) (precedes : Precedes rest first second)
    (less : first.remaining ≤ below) (within : first.remaining ≤ bound)
    (room : first.remaining < limit)
    (behind : ∀ (whole : Expr) {later following : Parser}, Precedes rest later following →
      later.remaining < first.remaining →
      Mirrors declaring rest bound limit (onward whole) (more whole) later following) :
    Mirrors declaring rest bound limit (climbTurn nested least inclusive onward left)
      (climbTurn other least inclusive more left) first second := by
  refine .get ?_
  rw [precedes.precedence?_eq]
  cases binds : first.precedence? with
  | some precedence =>
    simp only
    split
    · refine .bind (mirrors_infixed nests left precedes binds less within) ?_
      exact fun whole later second precedes left => behind whole precedes left
    · exact .pure _ precedes room
  | none =>
    refine .isAt .operator precedes fun answer _ => ?_
    cases answer with
    | true => exact .current precedes (.failHere _ precedes within)
    | false => exact .pure _ precedes room

/-- Operators that are taken into an expression. -/
theorem mirrors_climb (least : Float) (inclusive : Bool) {loop : Nat → Expr → Parse Expr}
    (turns : ∀ bound, loop (bound + 1) = climbTurn other least inclusive (loop bound))
    {fewer more limit : Nat} {first second : Parser} (left : Expr)
    (precedes : Precedes rest first second) (enough : first.remaining < fewer)
    (enoughMore : first.remaining < more) (less : first.remaining ≤ below)
    (within : first.remaining ≤ bound) (room : first.remaining < limit) :
    Mirrors declaring rest bound limit (climb nested least inclusive fewer left) (loop more left)
      first second := by
  have mirror : TurnsMirror declaring rest (below + 1) 1 (climbTurn nested least inclusive)
      (climbTurn other least inclusive) :=
    fun left precedes less behind => mirrors_climbTurn nests least inclusive left precedes
      (Nat.le_of_lt_succ less) (Nat.le_refl _) (Nat.lt_succ_self _) fun whole _ _ precedes left =>
        (behind whole precedes left).mono (Nat.le_refl _) (Nat.le_of_lt (Nat.succ_lt_succ left))
  have mirrors := mirror.loops (climb nested least inclusive) loop
    (climb_succ nested least inclusive) turns left precedes enough enoughMore
    (Nat.lt_succ_of_le less)
  exact mirrors.mono within room

/-- An expression. -/
theorem mirrors_expressionRule (least : Float) (inclusive : Bool)
    (precedes : Precedes rest first second) (less : first.remaining ≤ below)
    (within : first.remaining ≤ bound) :
    Mirrors declaring rest bound first.remaining (expressionRule nested least inclusive)
      (expressionRule other least inclusive) first second := by
  unfold expressionRule
  refine .isAt (.keyword .varWord) precedes fun answer _ => ?_
  cases answer with
  | true => exact mirrors_locals nests precedes less within (Nat.le_refl _)
  | false =>
    refine .get (.bind (mirrors_operand nests (operand_succ other) precedes (Nat.lt_succ_self _)
      precedes.remaining_lt less within) ?_)
    intro left first second precedes fewer
    exact .get (mirrors_climb nests least inclusive (climb_succ other least inclusive) left
      precedes (Nat.lt_succ_self _) precedes.remaining_lt (by omega) (by omega) fewer)

end Rules

/-- Nested expressions mirror each other wherever both depths suffice. -/
theorem nestedMirrors_expressionWithin {declaring : Prop} (rest : List Token) (fewer : Nat) :
    ∀ more : Nat, NestedMirrors declaring rest (min fewer more) (expressionWithin fewer)
      (expressionWithin more) := by
  induction fewer with
  | zero =>
    intro more first second bound least inclusive _ less
    omega
  | succ fewer hypothesis =>
    intro more first second bound least inclusive precedes less within
    obtain ⟨more, rfl⟩ : ∃ count, more = count + 1 := ⟨more - 1, by omega⟩
    exact mirrors_expressionRule (hypothesis more) least inclusive precedes (by omega) within

/-- Expressions. -/
theorem mirrors_expression {declaring : Prop} {rest : List Token} {first second : Parser}
    {bound : Nat} {least : Float} {inclusive : Bool} (precedes : Precedes rest first second)
    (within : first.remaining ≤ bound) :
    Mirrors declaring rest bound first.remaining (expression least inclusive)
      (expression least inclusive) first second :=
  .get (nestedMirrors_expressionWithin rest _ _ least inclusive precedes
    (Nat.lt_min.2 ⟨Nat.lt_succ_self _, precedes.remaining_lt⟩) within)

end Parse

end Kaleidoscope
