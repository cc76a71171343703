import Kaleidoscope.Proofs.Syntax.Nesting

/-!
# Where the trees of a program stand

Every rule of the grammar reads a tree that stands between the offsets before and after it
(`Parse.Places`), if the expressions nested in it do. So all forms of a program are nested, and all
errors of malformed statements stand at aligned places (`Parser.nested_programWithin`).
-/
namespace Kaleidoscope

variable {marks : Landmarks}

namespace Parse

variable {α β : Type} {parser : Parser}

section Actions

variable (isOrdered : parser.IsOrdered marks)
include isOrdered

/-- Leaving a token of a kind. -/
theorem advances_expect (kind : Token.Kind) :
    Advances marks (expect kind) parser fun token next => parser.Leaves marks token.span next := by
  refine .read (rfl : isAt kind parser = .ok _ parser) ?_
  split
  · exact .step isOrdered
  · refine .read (rfl : isAt .eof parser = .ok _ parser) ?_
    split
    · exact .failHere isOrdered _
    · exact .unexpected isOrdered _

/-- Leaving a token that something has been read off. -/
theorem advances_carried (value : α) :
    Advances marks (step >>= fun token => Pure.pure (value, token.span)) parser fun found next =>
      parser.Leaves marks found.2 next :=
  (Advances.step isOrdered).bind fun _ _ isOrdered _ stands => .pure isOrdered stands

/-- An identifier. -/
theorem advances_expectIdent :
    Advances marks expectIdent parser fun found next => parser.Leaves marks found.2 next := by
  refine .read (rfl : current parser = .ok parser.current parser) ?_
  split
  · split
    · exact .failHere isOrdered _
    · exact advances_carried isOrdered _
  · exact .failHere isOrdered _
  · exact .failHere isOrdered _

/-- The name of an operator. -/
theorem advances_expectOperatorName :
    Advances marks expectOperatorName parser fun found next =>
      parser.Leaves marks found.2 next := by
  refine .read (rfl : current parser = .ok parser.current parser) ?_
  split
  · split
    · exact advances_carried isOrdered _
    · exact .failHere isOrdered _
  · exact .failHere isOrdered _

/-- A number. -/
theorem advances_expectNumber :
    Advances marks expectNumber parser fun found next => parser.Leaves marks found.2 next := by
  refine .read (rfl : current parser = .ok parser.current parser) ?_
  split
  · exact advances_carried isOrdered _
  · exact .unexpected isOrdered _

/-- The precedence of an operator. -/
theorem advances_expectPrecedence : Advances marks expectPrecedence parser fun _ _ => True := by
  refine .read (rfl : current parser = .ok parser.current parser) ?_
  split
  · refine (advances_expectNumber isOrdered).bind fun found middle isOrdered _ stands => ?_
    obtain ⟨value, span⟩ := found
    simp only
    split
    · exact .pure isOrdered trivial
    · exact .throw isOrdered stands.aligned
  · exact .failHere isOrdered _

end Actions

section Rules

variable {nested : Float → Bool → Parse Expr}
  (nests : ∀ least inclusive, Places marks (nested least inclusive))
include nests

/-- Arguments separated by commas. -/
theorem advances_arguments (bound : Nat) : ∀ {parser : Parser}, parser.IsOrdered marks →
    Advances marks (arguments nested bound) parser fun values next =>
      ∀ value ∈ values, value.IsPlaced marks parser.offset next.offset := by
  induction bound with
  | zero => exact fun isOrdered => .failHere isOrdered _
  | succ bound hypothesis =>
    intro parser isOrdered
    refine (nests 0 false isOrdered).bind fun value middle isOrdered le own => ?_
    refine .read (rfl : isAt .comma middle = .ok _ middle) ?_
    split
    · refine (Advances.step isOrdered).bind fun comma later isOrdered passed _ => ?_
      refine (hypothesis isOrdered).bind fun others last isOrdered more rest => ?_
      refine .pure isOrdered (List.forall_mem_cons.2 ⟨?_, fun other member => ?_⟩)
      · exact own.widen (UInt32.le_refl _) (UInt32.le_trans passed more)
      · exact (rest other member).widen (UInt32.le_trans le passed) (UInt32.le_refl _)
    · exact .pure isOrdered (List.forall_mem_singleton.2 own)

/-- A variable or a call. -/
theorem places_reference : Places marks (reference nested) := by
  intro parser isOrdered
  refine (advances_expectIdent isOrdered).bind fun found middle isOrdered _ stands => ?_
  obtain ⟨name, start⟩ := found
  have forward := stands.aligned.forward
  have before := stands.before
  refine .read (rfl : isAt .leftParen middle = .ok _ middle) ?_
  split
  · refine (Advances.step isOrdered).bind fun opening front isOrdered passed _ => ?_
    -- What follows is the same with arguments and without.
    have rest : ∀ (values : List Expr) (back : Parser), back.IsOrdered marks →
        front.offset ≤ back.offset →
        (∀ value ∈ values, value.IsPlaced marks front.offset back.offset) →
        Advances marks (expect .rightParen >>= fun close =>
            Pure.pure (Expr.call name values (start.join close.span))) back fun tree next =>
          tree.IsPlaced marks parser.offset next.offset := by
      intro values back isOrdered more placed
      refine (advances_expect isOrdered .rightParen).bind fun close last isOrdered _ closes => ?_
      have closing := closes.aligned.forward
      have after := closes.after
      refine .pure isOrdered (.spanning stands.toStands closes.toStands (by lia) rfl fun value member => ?_)
      exact (placed value member).widen (by lia) (by lia)
    refine .read (rfl : isAt .rightParen front = .ok _ front) ?_
    split
    · exact rest [] front isOrdered (UInt32.le_refl _) (List.forall_mem_nil _)
    · refine .read (rfl : (MonadState.get : Parse Parser) front = .ok front front) ?_
      exact (advances_arguments nests _ isOrdered).bind fun values back isOrdered more placed =>
        rest values back isOrdered more placed
  · exact .pure isOrdered (.leaf stands.toStands rfl)

/-- A condition and the values it chooses between. -/
theorem places_conditional : Places marks (conditional nested) := by
  intro parser isOrdered
  refine (advances_expect isOrdered _).bind fun start first isOrdered _ starts => ?_
  refine (nests 0 false isOrdered).bind fun condition second isOrdered le chosen => ?_
  refine (advances_expect isOrdered _).bind fun word third isOrdered passed _ => ?_
  refine (nests 0 false isOrdered).bind fun consequent fourth isOrdered more one => ?_
  refine (advances_expect isOrdered _).bind fun word fifth isOrdered onward _ => ?_
  refine (nests 0 false isOrdered).bind fun alternative last isOrdered _ other => ?_
  have forward := starts.aligned.forward
  have before := starts.before
  have closing := other.nested.own.forward
  have after := other.after
  refine .pure isOrdered (.spanning starts.toStands other.stands (by lia) rfl ?_)
  refine List.forall_mem_cons.2 ⟨?_, List.forall_mem_cons.2 ⟨?_, List.forall_mem_singleton.2 ?_⟩⟩
  · exact chosen.widen (by lia) (by lia)
  · exact one.widen (by lia) (by lia)
  · exact other.tight.widen (by lia) (UInt32.le_refl _)

/-- An expression that is wanted. -/
theorem advances_some (isOrdered : parser.IsOrdered marks) :
    Advances marks (some <$> nested 0 false) parser fun wanted next =>
      ∀ tree ∈ wanted.toList, tree.IsPlaced marks parser.offset next.offset :=
  (nests 0 false isOrdered).bind fun _ _ isOrdered _ placed =>
    .pure isOrdered (List.forall_mem_singleton.2 placed)

/-- An expression after a token of a kind, if there is one. -/
theorem advances_optional (kind : Token.Kind) (isOrdered : parser.IsOrdered marks)
    {next : Option Expr → Parse β} {post : β → Parser → Prop}
    (back : ∀ wanted middle, middle.IsOrdered marks → parser.offset ≤ middle.offset →
      (∀ tree ∈ wanted.toList, tree.IsPlaced marks parser.offset middle.offset) →
      Advances marks (next wanted) middle post) :
    Advances marks (isAt kind >>= fun given =>
      if given = true then step >>= fun _ => some <$> nested 0 false >>= next
      else Pure.pure none >>= next) parser post := by
  refine .read (rfl : isAt kind parser = .ok _ parser) ?_
  split
  · refine (Advances.step isOrdered).bind fun token first isOrdered passed _ => ?_
    refine (advances_some nests isOrdered).bind fun wanted last isOrdered le placed => ?_
    refine back wanted last isOrdered (UInt32.le_trans passed le) fun tree member => ?_
    exact (placed tree member).widen passed (UInt32.le_refl _)
  · exact back none parser isOrdered (UInt32.le_refl _) (List.forall_mem_nil _)

/-- A counted loop. -/
theorem places_loop : Places marks (loop nested) := by
  intro parser isOrdered
  refine (advances_expect isOrdered _).bind fun start first isOrdered _ starts => ?_
  refine (advances_expectIdent isOrdered).bind fun found second isOrdered named _ => ?_
  refine (advances_expect isOrdered _).bind fun equal third isOrdered given _ => ?_
  refine (nests 0 false isOrdered).bind fun initial fourth isOrdered le one => ?_
  refine (advances_expect isOrdered _).bind fun comma fifth isOrdered passed _ => ?_
  refine (nests 0 false isOrdered).bind fun limit sixth isOrdered more two => ?_
  refine advances_optional nests _ isOrdered fun increment seventh isOrdered onward three => ?_
  refine (advances_expect isOrdered _).bind fun word eighth isOrdered entered _ => ?_
  refine (nests 0 false isOrdered).bind fun body last isOrdered _ four => ?_
  have forward := starts.aligned.forward
  have before := starts.before
  have closing := four.nested.own.forward
  have after := four.after
  refine .pure isOrdered (.spanning starts.toStands four.stands (by lia) rfl ?_)
  refine List.forall_mem_cons.2 ⟨?_, List.forall_mem_cons.2 ⟨?_, List.forall_mem_append.2 ⟨?_, ?_⟩⟩⟩
  · exact one.widen (by lia) (by lia)
  · exact two.widen (by lia) (by lia)
  · exact fun tree member => (three tree member).widen (by lia) (by lia)
  · exact List.forall_mem_singleton.2 (four.tight.widen (by lia) (UInt32.le_refl _))

/-- Local variables separated by commas. -/
theorem advances_bindings (bound : Nat) : ∀ {parser : Parser}, parser.IsOrdered marks →
    Advances marks (bindings nested bound) parser fun introduced next =>
      ∀ pair ∈ introduced, ∀ tree ∈ pair.2.toList,
        tree.IsPlaced marks parser.offset next.offset := by
  induction bound with
  | zero => exact fun isOrdered => .failHere isOrdered _
  | succ bound hypothesis =>
    intro parser isOrdered
    refine (advances_expectIdent isOrdered).bind fun found first isOrdered named _ => ?_
    refine advances_optional nests _ isOrdered fun initializer second isOrdered given own => ?_
    refine .read (rfl : isAt .comma second = .ok _ second) ?_
    split
    · refine (Advances.step isOrdered).bind fun comma third isOrdered passed _ => ?_
      refine (hypothesis isOrdered).bind fun others last isOrdered more rest => ?_
      refine .pure isOrdered (List.forall_mem_cons.2 ⟨fun tree member => ?_, ?_⟩)
      · exact (own tree member).widen named (UInt32.le_trans passed more)
      · intro pair inside tree member
        exact (rest pair inside tree member).widen (by lia) (UInt32.le_refl _)
    · refine .pure isOrdered (List.forall_mem_singleton.2 fun tree member => ?_)
      exact (own tree member).widen named (UInt32.le_refl _)

omit nests in
/-- Local variables around an expression all stand at one place. -/
theorem isPlaced_bindings {introduced : List (String × Option Expr)} {body : Expr} {span : Span}
    (own : span.IsAligned marks) (inner : body.IsPlaced marks span.start span.stop)
    (initializers : ∀ pair ∈ introduced, ∀ tree ∈ pair.2.toList,
      tree.IsPlaced marks span.start span.stop) :
    (introduced.foldr (fun (name, initializer) inner => Expr.binding name initializer inner span)
      body).IsPlaced marks span.start span.stop := by
  induction introduced with
  | nil => exact inner
  | cons pair rest hypothesis =>
    obtain ⟨first, others⟩ := List.forall_mem_cons.1 initializers
    refine .node ⟨own, UInt32.le_refl _, UInt32.le_refl _⟩ (List.forall_mem_append.2 ⟨first, ?_⟩)
    exact List.forall_mem_singleton.2 (hypothesis others)

/-- Local variables and the expression they are visible in. -/
theorem places_locals : Places marks (locals nested) := by
  intro parser isOrdered
  refine (advances_expect isOrdered _).bind fun start first isOrdered _ starts => ?_
  have rest : ∀ (introduced : List (String × Option Expr)) (middle : Parser),
      middle.IsOrdered marks → first.offset ≤ middle.offset →
      (∀ pair ∈ introduced, ∀ tree ∈ pair.2.toList,
        tree.IsPlaced marks first.offset middle.offset) →
      Advances marks (expect (.keyword .inWord) >>= fun _ => nested 0 false >>= fun body =>
        Pure.pure (introduced.foldr (fun (name, initializer) inner =>
          .binding name initializer inner (start.span.join body.span)) body)) middle
        fun tree next => tree.IsPlaced marks parser.offset next.offset := by
    intro introduced middle isOrdered le placed
    refine (advances_expect isOrdered _).bind fun word entered isOrdered passed _ => ?_
    refine (nests 0 false isOrdered).bind fun body last isOrdered _ own => ?_
    have forward := starts.aligned.forward
    have before := starts.before
    have closing := own.nested.own.forward
    have after := own.after
    have around := starts.join own.stands (by lia)
    refine .pure isOrdered ((isPlaced_bindings around.aligned ?_ ?_).widen around.after around.before)
    · exact own.tight.widen (UInt32.le_trans (start.span.start_join_le _) (by lia))
        (start.span.le_stop_join _)
    · intro pair inside tree member
      refine (placed pair inside tree member).widen ?_ ?_
      · exact UInt32.le_trans (start.span.start_join_le _) (by lia)
      · exact UInt32.le_trans (by lia) (start.span.le_stop_join _)
  refine .read (rfl : isAt _ first = .ok _ first) ?_
  split
  · exact rest [] first isOrdered (UInt32.le_refl _) (List.forall_mem_nil _)
  · refine .read (rfl : (MonadState.get : Parse Parser) first = .ok first first) ?_
    exact (advances_bindings nests _ isOrdered).bind fun introduced middle isOrdered le placed =>
      rest introduced middle isOrdered le placed

/-- An operand without unary operators. -/
theorem places_primary : Places marks (primary nested) := by
  intro parser isOrdered
  refine .read (rfl : current parser = .ok parser.current parser) ?_
  split
  · refine (Advances.step isOrdered).bind fun opening first isOrdered passed _ => ?_
    refine (nests 0 false isOrdered).bind fun inner second isOrdered _ own => ?_
    refine (advances_expect isOrdered _).bind fun close last isOrdered more _ => ?_
    exact .pure isOrdered (own.widen passed more)
  · exact places_reference nests isOrdered
  · exact (advances_expectNumber isOrdered).bind fun found last isOrdered _ stands =>
      .pure isOrdered (.leaf stands.toStands rfl)
  · exact places_conditional nests isOrdered
  · exact places_loop nests isOrdered
  · exact places_locals nests isOrdered
  · exact .failHere isOrdered _
  · exact .unexpected isOrdered _

/-- An operand. -/
theorem places_operand (bound : Nat) : Places marks (operand nested bound) := by
  induction bound with
  | zero => exact places_primary nests
  | succ bound hypothesis =>
    intro parser isOrdered
    refine .read (rfl : (MonadState.get : Parse Parser) parser = .ok parser parser) ?_
    split
    · refine (Advances.step isOrdered).bind fun operator first isOrdered _ stands => ?_
      refine (hypothesis isOrdered).bind fun inner last isOrdered _ own => ?_
      have forward := stands.aligned.forward
      have before := stands.before
      have after := own.after
      refine .pure isOrdered (.spanning stands.toStands own.stands (UInt32.le_refl _) rfl ?_)
      exact List.forall_mem_singleton.2 (own.tight.widen (by lia) (UInt32.le_refl _))
    · exact places_primary nests isOrdered

/-- The rest of a binary expression whose left operand stands before the operator. -/
theorem advances_infixed {left : Expr} {front : UInt32} (least : Option Float)
    (isOrdered : parser.IsOrdered marks) (placed : left.IsPlaced marks front parser.offset) :
    Advances marks (infixed nested left least) parser fun tree next =>
      tree.IsPlaced marks front next.offset := by
  refine .read (rfl : (MonadState.get : Parse Parser) parser = .ok parser parser) ?_
  refine (Advances.step isOrdered).bind fun operator first isOrdered passed stands => ?_
  refine (nests _ _ isOrdered).bind fun right last isOrdered _ other => ?_
  unfold Expr.binary?
  cases BinaryMeaning.ofToken? operator with
  | none => exact .throw isOrdered stands.aligned
  | some meaning =>
    have forward := placed.nested.own.forward
    have before := placed.before
    have closing := other.nested.own.forward
    have after := other.after
    refine .pure isOrdered (.spanning placed.stands other.stands passed rfl ?_)
    refine List.forall_mem_cons.2 ⟨?_, List.forall_mem_singleton.2 ?_⟩
    · exact placed.tight.widen (UInt32.le_refl _) (by lia)
    · exact other.tight.widen (by lia) (UInt32.le_refl _)

/-- Operators that are taken into an expression. -/
theorem advances_climb (least : Float) (inclusive : Bool) {front : UInt32} (bound : Nat) :
    ∀ {left : Expr} {parser : Parser}, parser.IsOrdered marks →
      left.IsPlaced marks front parser.offset →
      Advances marks (climb nested least inclusive bound left) parser fun tree next =>
        tree.IsPlaced marks front next.offset := by
  induction bound with
  | zero => exact fun isOrdered placed => .pure isOrdered placed
  | succ bound hypothesis =>
    intro left parser isOrdered placed
    refine .read (rfl : (MonadState.get : Parse Parser) parser = .ok parser parser) ?_
    split
    · split
      · exact (advances_infixed nests _ isOrdered placed).bind fun whole next isOrdered _ own =>
          hypothesis isOrdered own
      · exact .pure isOrdered placed
    · refine .read (rfl : isAt .operator parser = .ok _ parser) ?_
      split
      · exact .read (rfl : current parser = .ok parser.current parser) (.failHere isOrdered _)
      · exact .pure isOrdered placed

/-- An expression over the rule for those nested in it. -/
theorem places_expressionRule (least : Float) (inclusive : Bool) :
    Places marks (expressionRule nested least inclusive) := by
  intro parser isOrdered
  refine .read (rfl : isAt _ parser = .ok _ parser) ?_
  split
  · exact places_locals nests isOrdered
  · refine .read (rfl : (MonadState.get : Parse Parser) parser = .ok parser parser) ?_
    refine (places_operand nests _ isOrdered).bind fun left middle isOrdered _ placed => ?_
    refine .read (rfl : (MonadState.get : Parse Parser) middle = .ok middle middle) ?_
    exact advances_climb nests least inclusive _ isOrdered placed

end Rules

/-- An expression of bounded depth. -/
theorem places_expressionWithin (depth : Nat) : ∀ (least : Float) (inclusive : Bool),
    Places marks (expressionWithin depth least inclusive) := by
  induction depth with
  | zero => exact fun _ _ _ isOrdered => .failHere isOrdered _
  | succ depth hypothesis => exact places_expressionRule hypothesis

/-- An expression. -/
theorem places_expression (least : Float) (inclusive : Bool) :
    Places marks (expression least inclusive) :=
  fun isOrdered => .read rfl (places_expressionWithin _ least inclusive isOrdered)

/-- Parameters. -/
theorem advances_parameters (bound : Nat) : ∀ {parser : Parser}, parser.IsOrdered marks →
    Advances marks (parameters bound) parser fun _ _ => True := by
  induction bound with
  | zero => exact fun isOrdered => .unexpected isOrdered _
  | succ bound hypothesis =>
    intro parser isOrdered
    refine .read (rfl : current parser = .ok parser.current parser) ?_
    split
    · refine (advances_expectIdent isOrdered).bind fun found middle isOrdered _ _ => ?_
      refine .read (rfl : isAt .comma middle = .ok _ middle) ?_
      split
      · exact (Advances.step isOrdered).bind fun _ _ isOrdered _ _ =>
          (hypothesis isOrdered).bind fun _ _ isOrdered _ _ => .pure isOrdered trivial
      · exact (hypothesis isOrdered).bind fun _ _ isOrdered _ _ => .pure isOrdered trivial
    · exact .pure isOrdered trivial
    · exact .unexpected isOrdered _

/-- What a prototype introduces; at least one token is left for it. -/
theorem advances_prototypeHead (isOrdered : parser.IsOrdered marks) :
    Advances marks prototypeHead parser fun _ next => parser.Leaves marks parser.current.span next := by
  -- Whatever is read later, the first token stays left.
  have onward : ∀ {span : Span} {middle next : Parser}, parser.Leaves marks span middle →
      middle.offset ≤ next.offset → parser.Leaves marks parser.current.span next :=
    fun leaves le => leaves.current_eq ▸ { leaves with before := UInt32.le_trans leaves.before le }
  refine .read (rfl : current parser = .ok parser.current parser) ?_
  split
  · refine (Advances.step isOrdered).bind fun word first isOrdered _ leaves => ?_
    refine (advances_expectOperatorName isOrdered).bind fun found last isOrdered le _ => ?_
    exact .pure isOrdered (onward leaves le)
  · refine (Advances.step isOrdered).bind fun word first isOrdered _ leaves => ?_
    refine .read (rfl : isAt .number first = .ok _ first) ?_
    split
    · refine (advances_expectPrecedence isOrdered).bind fun precedence middle isOrdered le _ => ?_
      refine (advances_expectOperatorName isOrdered).bind fun found last isOrdered more _ => ?_
      exact .pure isOrdered (onward leaves (UInt32.le_trans le more))
    · refine (advances_expectOperatorName isOrdered).bind fun found middle isOrdered le _ => ?_
      refine (advances_expectPrecedence isOrdered).bind fun precedence last isOrdered more _ => ?_
      exact .pure isOrdered (onward leaves (UInt32.le_trans le more))
  · exact (advances_expectIdent isOrdered).bind fun found last isOrdered _ leaves =>
      .pure isOrdered (onward leaves (UInt32.le_refl _))

/-- Changing the table of operators moves nothing. -/
theorem advances_declare (change : OperatorTable → OperatorTable)
    (isOrdered : parser.IsOrdered marks) :
    Advances marks (modify fun parser => { parser with operators := change parser.operators } :
      Parse PUnit) parser fun _ next => next.offset = parser.offset :=
  ⟨⟨isOrdered.aligned, isOrdered.ordered, isOrdered.empty⟩, UInt32.le_refl _, rfl⟩

/-- A prototype. -/
theorem advances_prototype (isOrdered : parser.IsOrdered marks) :
    Advances marks prototype parser fun signature next =>
      (Expr.prototype signature).IsPlaced marks parser.offset next.offset := by
  refine .read (rfl : current parser = .ok parser.current parser) ?_
  refine (advances_prototypeHead isOrdered).bind fun head first isOrdered _ starts => ?_
  refine (advances_expect isOrdered _).bind fun opening second isOrdered passed _ => ?_
  refine .read (rfl : (MonadState.get : Parse Parser) second = .ok second second) ?_
  refine (advances_parameters _ isOrdered).bind fun names third isOrdered le _ => ?_
  refine (advances_expect isOrdered _).bind fun close last isOrdered _ closes => ?_
  have own := starts.toStands.join closes.toStands (UInt32.le_trans passed le)
  obtain ⟨name, kind⟩ := head
  simp only
  split
  · exact .throw isOrdered own.aligned
  · refine (advances_declare (·.declare _) isOrdered).bind fun _ next isOrdered _ same => ?_
    exact .pure isOrdered (.leaf ⟨own.aligned, own.after, same ▸ own.before⟩ rfl)

/-- A definition. -/
theorem places_definition : Places marks definition := by
  intro parser isOrdered
  refine (advances_expect isOrdered _).bind fun start first isOrdered _ starts => ?_
  refine (advances_prototype isOrdered).bind fun signature second isOrdered le own => ?_
  refine (places_expression 0 false isOrdered).bind fun body last isOrdered _ other => ?_
  have forward := starts.aligned.forward
  have before := starts.before
  have closing := other.nested.own.forward
  have after := other.after
  refine .pure isOrdered (.spanning starts.toStands other.stands le rfl ?_)
  refine List.forall_mem_cons.2 ⟨?_, List.forall_mem_singleton.2 ?_⟩
  · exact own.widen (by lia) (by lia)
  · exact other.tight.widen (by lia) (UInt32.le_refl _)

/-- A declaration. -/
theorem places_declaration : Places marks declaration := by
  intro parser isOrdered
  refine (advances_expect isOrdered _).bind fun start first isOrdered _ starts => ?_
  refine (advances_prototype isOrdered).bind fun signature last isOrdered _ own => ?_
  have forward := starts.aligned.forward
  have before := starts.before
  have after := own.after
  refine .pure isOrdered (.spanning starts.toStands own.stands (UInt32.le_refl _) rfl ?_)
  exact List.forall_mem_singleton.2 (own.tight.widen (UInt32.le_trans (by lia) after) (UInt32.le_refl _))

/-- A form. The wrapper of an expression stands where the expression does. -/
theorem places_form : Places marks form := by
  intro parser isOrdered
  refine .read (rfl : current parser = .ok parser.current parser) ?_
  split
  · exact places_definition isOrdered
  · exact places_declaration isOrdered
  · refine (places_expression 0 false isOrdered).bind fun body last isOrdered _ own => ?_
    refine .pure isOrdered (.node own.stands ?_)
    exact List.forall_mem_cons.2 ⟨.leaf own.tight.stands rfl, List.forall_mem_singleton.2 own.tight⟩

/-- A statement. -/
theorem places_statement : Places marks statement :=
  fun isOrdered => (places_form isOrdered).bind fun _ _ isOrdered _ own =>
    (advances_expect isOrdered _).bind fun _ _ isOrdered le _ =>
      .pure isOrdered (own.widen (UInt32.le_refl _) le)

end Parse

namespace Parser

variable {parser : Parser}

/-- The forms of a program are nested and the errors of its malformed statements stand at aligned
places. -/
theorem nested_programWithin (bound : Nat) : ∀ {parser : Parser}, parser.IsOrdered marks →
    (∀ tree ∈ (parser.programWithin bound).1.forms, tree.IsNested (Span.IsAligned marks)) ∧
      ∀ error ∈ (parser.programWithin bound).1.errors, error.span.IsAligned marks := by
  induction bound with
  | zero => exact fun _ => ⟨List.forall_mem_nil _, List.forall_mem_nil _⟩
  | succ bound hypothesis =>
    intro parser isOrdered
    rw [programWithin]
    split
    · exact ⟨List.forall_mem_nil _, List.forall_mem_nil _⟩
    · split
      · exact hypothesis isOrdered.advance
      · have places := Parse.places_statement isOrdered
        unfold Parse.Advances at places
        cases read : Parse.statement parser with
        | ok tree next =>
          rw [read] at places
          obtain ⟨isOrdered, _, own⟩ := places
          obtain ⟨forms, errors⟩ := hypothesis isOrdered
          exact ⟨List.forall_mem_cons.2 ⟨own.nested, forms⟩, errors⟩
        | error error next =>
          rw [read] at places
          obtain ⟨isOrdered, own⟩ := places
          obtain ⟨forms, errors⟩ := hypothesis isOrdered.recover
          exact ⟨forms, List.forall_mem_cons.2 ⟨own, errors⟩⟩

end Parser

end Kaleidoscope
