import Kaleidoscope.Proofs.Lowering.Actions
import Kaleidoscope.Proofs.Syntax.Forms
import Kaleidoscope.Proofs.Syntax.Statements
import Kaleidoscope.Proofs.Syntax.Strengths

/-!
# What parsing does to the table of operators

No rule for expressions touches the table, and of a prototype only the last step does, once the
whole prototype has been accepted (`Parse.settles_prototype`). Both hold at any tokens, and so
behind a malformed statement too. What holds of the table of a new session and is kept by every
accepted prototype therefore holds of each table that parsing leads to: declared precedences are
finite and positive, and no built-in operator is declared again (`OperatorTable.IsParsed.isSane`).
-/
namespace Kaleidoscope

namespace OperatorTable

/-- What is true of all declared binary operators. -/
structure IsSane (table : OperatorTable) : Prop where
  /-- Their precedences are finite and positive. -/
  strong : ∀ entry ∈ table.binary, entry.2.isFinite = true ∧ 0 < entry.2
  /-- None of them is built in. -/
  custom : ∀ entry ∈ table.binary, isBuiltin entry.1 = false

/-- The table after a prototype differs from the one before in the entry of its own operator. -/
def Extends (before : OperatorTable) (signature : Prototype) (after : OperatorTable) : Prop :=
  match signature.kind with
  | .function => after = before
  | .unary => after.binary = before.binary ∧
      ∀ name, name ∈ after.unary ↔ name = signature.name ∨ name ∈ before.unary
  | .binary precedence => after.unary = before.unary ∧
      ∀ name, after.binary.lookup name =
        if name = signature.name then some precedence else before.binary.lookup name

variable {table : OperatorTable} {signature : Prototype} {token : Token}

/-- The precedences of a sane table are positive. -/
theorem IsSane.isPositive (sane : table.IsSane) : table.IsPositive :=
  fun entry member => (sane.strong entry member).2

/-- The operator of an accepted prototype keeps a table sane. -/
theorem IsSane.declare (sane : table.IsSane) (strong : signature.kind.IsStrong)
    (accepted : Parse.prototypeFault? signature = none) : (table.declare signature).IsSane := by
  unfold OperatorTable.declare
  cases kind : signature.kind with
  | function => exact sane
  | unary => exact ⟨sane.strong, sane.custom⟩
  | binary precedence =>
    have custom : isBuiltin signature.name = false := by
      simp only [Parse.prototypeFault?, kind, PrototypeKind.fixity?] at accepted
      split at accepted
      · contradiction
      · split at accepted
        · contradiction
        · next other => simpa using other
    exact ⟨List.forall_mem_cons.2 ⟨strong precedence kind, sane.strong⟩,
      List.forall_mem_cons.2 ⟨custom, sane.custom⟩⟩

/-- An accepted prototype declares its own operator and nothing else. -/
theorem extends_declare (table : OperatorTable) (signature : Prototype) :
    table.Extends signature (table.declare signature) := by
  unfold Extends OperatorTable.declare
  cases signature.kind with
  | function => rfl
  | unary => exact ⟨rfl, fun name => List.mem_cons⟩
  | binary precedence =>
    exact ⟨rfl, fun name => lookup_declareBinary table signature.name name precedence⟩

/-- No declaration changes how a built-in operator binds. -/
theorem precedence?_of_isBuiltin (table : OperatorTable)
    (sign : token.kind = .equal ∨ token.kind = .operator)
    (builtIn : isBuiltin token.lexeme = true) :
    table.precedence? token = builtin.lookup token.lexeme := by
  obtain ⟨precedence, found⟩ := Option.isSome_iff_exists.1 builtIn
  rcases sign with kind | kind <;> simp [precedence?, kind, found]

end OperatorTable

namespace Parse

variable {α β : Type} {action : Parse α} {next : α → Parse Prototype}

/-- An action leaves the table as it is, whether it succeeds or fails. -/
def KeepsTable (action : Parse α) : Prop :=
  ∀ parser, match action parser with
    | .ok _ last | .error _ last => last.operators = parser.operators

/-- An action that crosses tokens outside of prototypes leaves the table as it is. -/
theorem KeepsTable.of_mirrors {bound limit : Parser → Nat}
    (mirrors : ∀ parser,
      Mirrors False [] (bound parser) (limit parser) action action parser parser) :
    KeepsTable action := by
  intro parser
  have crosses := (mirrors parser).crosses
  cases ran : action parser <;> simp only [ran] at crosses ⊢ <;>
    obtain ⟨⟨tokens, crosses⟩, -⟩ := crosses
  · exact crosses.operators_eq.resolve_left id
  · exact crosses.operators_eq.resolve_left id

/-- Leaving a token of a kind declares no operators. -/
theorem keepsTable_expect (kind : Token.Kind) : KeepsTable (expect kind) := by
  intro parser
  cases here : parser.isAt kind with
  | true =>
    rw [expect_eq (of_decide_eq_true here)]
    exact parser.operators_advance
  | false => rw [expect_eq_error here]

/-- Expressions declare no operators. -/
theorem keepsTable_expression (least : Float) (inclusive : Bool) :
    KeepsTable (expression least inclusive) :=
  .of_mirrors fun parser => mirrors_expression (.refl parser) (Nat.le_refl _)

/-- An action for a prototype declares the operator of that prototype when it accepts it, and
nothing otherwise. -/
def Settles (action : Parse Prototype) : Prop :=
  ∀ parser, match action parser with
    | .ok signature last => prototypeFault? signature = none ∧
        last.operators = parser.operators.declare signature
    | .error _ last => last.operators = parser.operators

/-- What is read before does not matter if it leaves the table as it is. -/
theorem Settles.bind (front : KeepsTable action) (back : ∀ value, Settles (next value)) :
    Settles (action >>= next) := by
  intro parser
  have early := front parser
  simp only [Bind.bind, EStateM.bind]
  cases ran : action parser with
  | ok value middle =>
    simp only [ran] at early ⊢
    have late := back value middle
    rw [early] at late
    exact late
  | error error middle =>
    simp only [ran] at early ⊢
    exact early

/-- A prototype is declared by the last step, once it has been accepted. -/
theorem settles_prototype : Settles prototype := by
  refine .bind (fun _ => rfl) fun start => ?_
  refine .bind (.of_mirrors fun parser => mirrors_prototypeHead (.refl parser) (Nat.le_refl _)) ?_
  rintro ⟨name, kind⟩
  have keepsParameters : KeepsTable (do parameters ((← get).remaining + 1)) :=
    .of_mirrors fun parser => .get (mirrors_parameters parameters_succ (parser.remaining + 1)
      (.refl parser) (Nat.lt_succ_self _) (Nat.lt_succ_self _) (Nat.le_refl _) (Nat.lt_succ_self _))
  refine .bind (keepsTable_expect _) fun _ => ?_
  -- The bound of the loop over the parameters depends on the parser, so both are taken together.
  change Settles ((do parameters ((← get).remaining + 1)) >>= _)
  refine .bind keepsParameters fun names => .bind (keepsTable_expect _) fun close => ?_
  simp only
  split
  · exact fun _ => rfl
  · next accepted => exact fun _ => ⟨accepted, rfl⟩

section Statements

variable {holds : OperatorTable → Prop}
  (declares : ∀ {table : OperatorTable} {signature : Prototype}, holds table →
    signature.kind.IsStrong → prototypeFault? signature = none → holds (table.declare signature))

/-- An action that leaves the table as it is keeps what holds of it. -/
theorem KeepsTable.preserves (keeps : KeepsTable action) :
    Preserves (fun parser : Parser => holds parser.operators) action := by
  intro parser held
  have same := keeps parser
  cases ran : action parser <;> simp only [ran] at same ⊢ <;> rwa [same]

include declares

/-- A prototype keeps what accepted prototypes keep. -/
theorem preserves_prototype : Preserves (fun parser => holds parser.operators) prototype := by
  intro parser held
  have settles := settles_prototype parser
  cases ran : prototype parser with
  | ok signature last =>
    simp only [ran] at settles ⊢
    rw [settles.2]
    exact declares held (yields_prototype _ _ _ ran) settles.1
  | error error last =>
    simp only [ran] at settles ⊢
    rwa [settles]

/-- A statement keeps what accepted prototypes keep, however it ends. -/
theorem preserves_statement : Preserves (fun parser => holds parser.operators) statement := by
  have expects : ∀ kind, Preserves (fun parser : Parser => holds parser.operators) (expect kind) :=
    fun kind => (keepsTable_expect kind).preserves
  have expressions : Preserves (fun parser : Parser => holds parser.operators)
      (expression 0 false) := (keepsTable_expression 0 false).preserves
  have looks : Preserves (fun parser : Parser => holds parser.operators) current :=
    fun _ held => held
  refine .bind (looks.bind fun token => ?_) fun form => (expects _).bind fun _ => .pure _
  split
  · exact (expects _).bind fun _ => (preserves_prototype declares).bind fun _ =>
      expressions.bind fun _ => .pure _
  · exact (expects _).bind fun _ => (preserves_prototype declares).bind fun _ => .pure _
  · exact expressions.bind fun _ => .pure _

end Statements

end Parse

namespace Parser

variable {parser : Parser}

/-- Recovery declares no operators. -/
theorem operators_recover (parser : Parser) : parser.recover.operators = parser.operators := by
  have within : ∀ (bound : Nat) (parser : Parser),
      (parser.recoverWithin bound).operators = parser.operators := by
    intro bound
    induction bound with
    | zero => exact fun _ => rfl
    | succ bound hypothesis =>
      intro parser
      rw [recoverWithin]
      split
      · rfl
      · rw [hypothesis, operators_advance]
  rw [recover, within]
  split
  · rfl
  · exact operators_advance parser

/-- What holds of a table and is kept by accepted prototypes holds after any statements, well-formed
or not. -/
theorem holds_programWithin {holds : OperatorTable → Prop}
    (declares : ∀ {table : OperatorTable} {signature : Prototype}, holds table →
      signature.kind.IsStrong → Parse.prototypeFault? signature = none →
      holds (table.declare signature)) (bound : Nat) :
    ∀ {parser : Parser}, holds parser.operators →
      holds (parser.programWithin bound).2.operators := by
  induction bound with
  | zero => exact id
  | succ bound hypothesis =>
    intro parser held
    rw [programWithin]
    split
    · exact held
    · split
      · exact hypothesis (parser.operators_advance ▸ held)
      · have kept := Parse.preserves_statement declares parser held
        cases ran : Parse.statement parser with
        | ok form next =>
          rw [ran] at kept
          exact hypothesis kept
        | error error next =>
          rw [ran] at kept
          exact hypothesis (next.operators_recover.symm ▸ kept)

end Parser

namespace OperatorTable

variable {table : OperatorTable}

/-- Every table that parsing leads to is sane. -/
theorem IsParsed.isSane (parsed : table.IsParsed) : table.IsSane := by
  induction parsed with
  | empty =>
    exact ⟨fun _ member => absurd member List.not_mem_nil,
      fun _ member => absurd member List.not_mem_nil⟩
  | @parse operators source tokens earlier scanned hypothesis =>
    have before : (Parser.start tokens operators).operators = operators := by
      cases tokens <;> rfl
    exact Parser.holds_programWithin IsSane.declare _ (before.symm ▸ hypothesis)

/-- Every precedence that has been declared is positive. -/
theorem IsParsed.isPositive (parsed : table.IsParsed) : table.IsPositive := parsed.isSane.isPositive

/-- A table that parsing leads to has finite and positive precedences only, declares no built-in
operator, and leaves those as they are in a new session. Wherever it is used, a refused prototype
leaves it as it is, an accepted one changes the entry of its own operator and nothing else, which
keeps it so, and expressions change nothing. -/
theorem IsParsed.declares_only_accepted (parsed : table.IsParsed) :
    table.IsSane ∧
    (∀ token : Token, token.kind = .equal ∨ token.kind = .operator →
      isBuiltin token.lexeme = true →
        table.precedence? token = OperatorTable.empty.precedence? token) ∧
    ∀ parser : Parser, parser.operators = table →
      (match Parse.prototype parser with
        | .ok signature next => table.Extends signature next.operators ∧ next.operators.IsSane
        | .error _ next => next.operators = table) ∧
      ∀ (least : Float) (inclusive : Bool), match Parse.expression least inclusive parser with
        | .ok _ next | .error _ next => next.operators = table := by
  refine ⟨parsed.isSane, fun token sign builtIn => ?_, ?_⟩
  · rw [precedence?_of_isBuiltin table sign builtIn,
      precedence?_of_isBuiltin OperatorTable.empty sign builtIn]
  rintro parser rfl
  refine ⟨?_, fun least inclusive => ?_⟩
  · have settles := Parse.settles_prototype parser
    cases ran : Parse.prototype parser <;> simp only [ran] at settles ⊢
    · rw [settles.2]
      exact ⟨extends_declare _ _,
        parsed.isSane.declare (Parse.yields_prototype _ _ _ ran) settles.1⟩
    · exact settles
  · have keeps := Parse.keepsTable_expression least inclusive parser
    cases ran : Parse.expression least inclusive parser <;> simp only [ran] at keeps ⊢ <;>
      exact keeps

/-- Zero, a built-in name and a wrong number of parameters are refused, and what is accepted is
known even if its statement is malformed further on. With the table after all that, a plus sign is
refused again. -/
theorem declares_only_accepted_refusals :
    let table : OperatorTable := ⟨[("or", 5)], ["!"]⟩
    let sign : Token.Kind → String → Token := fun kind text =>
      ⟨kind, text, 1, default, some (.word text)⟩
    let tokens := [sign (.keyword .binary) "binary", sign .operator "+",
      ⟨.number, "5", 1, default, some (.value 5)⟩, sign .leftParen "(", sign .ident "a",
      sign .ident "b", sign .rightParen ")"]
    table.IsParsed ∧ table.IsSane ∧ ∃ error last,
      Parse.prototype (Parser.start tokens table) = .error error last ∧ last.operators = table := by
  intro table sign tokens
  have parsed : table.IsParsed := .of_source ("def binary & 0 (a b) a; def binary < 5 (a b) a; " ++
    "def unary - (a b) a; extern unary !(v); def binary or 5 (a b) );") (by decide +kernel)
  obtain ⟨sane, -, settles⟩ := parsed.declares_only_accepted
  have outcome := (settles (Parser.start tokens table) rfl).1
  refine ⟨parsed, sane, ?_⟩
  have refused : (match Parse.prototype (Parser.start tokens table) with
      | .ok _ _ => false
      | .error _ _ => true) = true := by
    decide +kernel
  cases ran : Parse.prototype (Parser.start tokens table) with
  | ok signature last =>
    rw [ran] at refused
    contradiction
  | error error last =>
    rw [ran] at outcome
    exact ⟨error, last, rfl, outcome⟩

end OperatorTable

end Kaleidoscope
