import Kaleidoscope.Proofs.Syntax.Nesting

/-!
# Writing forms

A tree is written as tokens with parentheses around everything that is nested in it, so neither the
precedences of a table nor the order of operators matters to how it is read. What the grammar leaves
open is left to a `Layout`: the texts of numbers, which do not decide their values, commas between
parameters, whether the precedence of an operator stands before its name or after it, and parentheses
around the expression of a whole form.

A tree can be written for a table of operators (`Expr.IsWritable`) if its names are not empty, its
operators are known to the table, and none of its variables and callees is also an operator before
an operand, which it would be read as. No more is asked of names, since they are written as tokens
and not letter by letter; those of a source are among them. What is written has no place in a
source, so trees and tokens are compared without theirs (`Expr.bare`, `Token.bare`).
-/
namespace Kaleidoscope

namespace Token

/-- A token without its place. -/
def bare (token : Token) : Token := { token with line := 0, span := default }

/-- A token that carries nothing beyond its kind. -/
def ofKind (kind : Kind) : Token := ⟨kind, kind.text, 0, default, none⟩

/-- An identifier. -/
def word (name : String) : Token := ⟨.ident, name, 0, default, some (.word name)⟩

/-- The name of an operator: a word, or else a sign. -/
def sign (name : String) : Token :=
  { word name with kind := if name.toList.head?.any Text.isAlphabetic then .ident else .operator }

/-- A number with its text. -/
def numeral (text : String) (value : Float) : Token :=
  ⟨.number, text, 0, default, some (.value value)⟩

/-- The name of an operator is a word or a sign. -/
theorem kind_sign (name : String) : (sign name).kind = .ident ∨ (sign name).kind = .operator := by
  unfold sign
  split
  · exact .inl rfl
  · exact .inr rfl

variable {first second : Token}

/-- What does not look at the places of tokens does not tell them apart by their places. -/
theorem apply_eq_of_bare_eq {α : Type} {look : Token → α}
    (placeless : ∀ token : Token, look token.bare = look token)
    (same : first.bare = second.bare) : look first = look second := by
  rw [← placeless first, same, placeless second]

/-- Tokens that differ in their places only are of the same kind. -/
theorem kind_eq_of_bare_eq (same : first.bare = second.bare) : first.kind = second.kind :=
  apply_eq_of_bare_eq (fun _ => rfl) same

/-- They carry the same name. -/
theorem name?_eq_of_bare_eq (same : first.bare = second.bare) : first.name? = second.name? :=
  apply_eq_of_bare_eq (fun _ => rfl) same

/-- They carry the same number. -/
theorem number?_eq_of_bare_eq (same : first.bare = second.bare) :
    first.number? = second.number? :=
  apply_eq_of_bare_eq (fun _ => rfl) same

end Token

namespace OperatorTable

variable {first second : Token}

/-- The place of a token does not decide how strongly it binds. -/
theorem precedence?_eq_of_bare_eq (table : OperatorTable) (same : first.bare = second.bare) :
    table.precedence? first = table.precedence? second :=
  Token.apply_eq_of_bare_eq (fun _ => rfl) same

/-- Nor does it decide whether the token stands before an operand. -/
theorem isUnary_eq_of_bare_eq (table : OperatorTable) (same : first.bare = second.bare) :
    table.isUnary first = table.isUnary second :=
  Token.apply_eq_of_bare_eq (fun _ => rfl) same

end OperatorTable

/-- Nor does it decide what the token means between two operands. -/
theorem BinaryMeaning.ofToken?_eq_of_bare_eq {first second : Token}
    (same : first.bare = second.bare) : ofToken? first = ofToken? second :=
  Token.apply_eq_of_bare_eq (fun _ => rfl) same

/-- A prototype without its place. -/
def Prototype.bare (prototype : Prototype) : Prototype := { prototype with span := default }

/-- The choices that the grammar leaves to a writer. -/
structure Layout where
  /-- The text of a number. -/
  numeral : Float → String
  /-- Whether commas stand between parameters. -/
  separated : Bool
  /-- Whether the precedence of an operator stands before its name. -/
  precedenceFirst : Bool
  /-- Whether the expression of a form stands in parentheses. -/
  enclosed : Bool

/-- Tokens in parentheses. -/
def enclose (tokens : List Token) : List Token :=
  .ofKind .leftParen :: (tokens ++ [.ofKind .rightParen])

@[simp] theorem length_enclose (tokens : List Token) :
    (enclose tokens).length = tokens.length + 2 := by
  simp [enclose]

namespace Expr

mutual

/-- A tree without the places of its parts. -/
def bare : Expr → Expr
  | number value _ => number value default
  | var name _ => var name default
  | binary operator meaning left right _ =>
    binary operator.bare meaning left.bare right.bare default
  | unary operator operand _ => unary operator.bare operand.bare default
  | call callee arguments _ => call callee (bareAll arguments) default
  | conditional condition consequent alternative _ =>
    conditional condition.bare consequent.bare alternative.bare default
  | loop counter start limit step body _ =>
    loop counter start.bare limit.bare (bareOptional step) body.bare default
  | binding name initializer body _ => binding name (bareOptional initializer) body.bare default
  | prototype signature => prototype signature.bare
  | function signature body _ => function signature.bare body.bare default
  | declaration signature _ => declaration signature.bare default

/-- Trees without the places of their parts. -/
def bareAll : List Expr → List Expr
  | [] => []
  | tree :: others => tree.bare :: bareAll others

/-- A tree that may be left out, without the places of its parts. -/
def bareOptional : Option Expr → Option Expr
  | none => none
  | some tree => some tree.bare

end

mutual

/-- The tokens of an expression. Forms are not nested in expressions. -/
def write (layout : Layout) : Expr → List Token
  | number value _ => [.numeral (layout.numeral value) value]
  | var name _ => [.word name]
  | binary operator _ left right _ =>
    enclose (left.write layout) ++ operator :: enclose (right.write layout)
  | unary operator operand _ => operator :: enclose (operand.write layout)
  | call callee arguments _ => .word callee :: enclose (writeArguments layout arguments)
  | conditional condition consequent alternative _ =>
    .ofKind (.keyword .ifWord) :: (enclose (condition.write layout) ++
      .ofKind (.keyword .thenWord) :: (enclose (consequent.write layout) ++
        .ofKind (.keyword .elseWord) :: enclose (alternative.write layout)))
  | loop counter start limit step body _ =>
    .ofKind (.keyword .forWord) :: .word counter :: .ofKind .equal ::
      (enclose (start.write layout) ++ .ofKind .comma :: (enclose (limit.write layout) ++
        (writeOptional layout .comma step ++
          .ofKind (.keyword .inWord) :: enclose (body.write layout))))
  | binding name initializer body _ =>
    .ofKind (.keyword .varWord) :: .word name :: (writeOptional layout .equal initializer ++
      .ofKind (.keyword .inWord) :: enclose (body.write layout))
  | prototype _ | function _ _ _ | declaration _ _ => []

/-- The tokens of arguments with commas between them. -/
def writeArguments (layout : Layout) : List Expr → List Token
  | [] => []
  | argument :: others => enclose (argument.write layout) ++ writeFurther layout others

/-- The tokens of further arguments with commas before them. -/
def writeFurther (layout : Layout) : List Expr → List Token
  | [] => []
  | argument :: others =>
    .ofKind .comma :: (enclose (argument.write layout) ++ writeFurther layout others)

/-- The tokens of an expression that may be left out, with a sign before it. -/
def writeOptional (layout : Layout) (kind : Token.Kind) : Option Expr → List Token
  | none => []
  | some tree => .ofKind kind :: enclose (tree.write layout)

end

mutual

/-- An expression that can be written for a table of operators. -/
def IsWritable (table : OperatorTable) : Expr → Prop
  | number _ _ => True
  | var name _ => name ≠ "" ∧ name ∉ table.unary
  | binary operator meaning left right _ =>
    BinaryMeaning.ofToken? operator = some meaning ∧ (table.precedence? operator).isSome ∧
      left.IsWritable table ∧ right.IsWritable table
  | unary operator operand _ => table.isUnary operator = true ∧ operand.IsWritable table
  | call callee arguments _ =>
    (callee ≠ "" ∧ callee ∉ table.unary) ∧ AreWritable table arguments
  | conditional condition consequent alternative _ =>
    condition.IsWritable table ∧ consequent.IsWritable table ∧ alternative.IsWritable table
  | loop counter start limit step body _ =>
    counter ≠ "" ∧ start.IsWritable table ∧ limit.IsWritable table ∧
      IsOptionalWritable table step ∧ body.IsWritable table
  | binding name initializer body _ =>
    name ≠ "" ∧ IsOptionalWritable table initializer ∧ body.IsWritable table
  | prototype _ | function _ _ _ | declaration _ _ => False

/-- Expressions that can be written. -/
def AreWritable (table : OperatorTable) : List Expr → Prop
  | [] => True
  | tree :: others => tree.IsWritable table ∧ AreWritable table others

/-- An expression that can be written, if it is there. -/
def IsOptionalWritable (table : OperatorTable) : Option Expr → Prop
  | none => True
  | some tree => tree.IsWritable table

end

mutual

/-- Whether an expression can be written. -/
def decideWritable (table : OperatorTable) : (tree : Expr) → Decidable (tree.IsWritable table)
  | number _ _ => .isTrue trivial
  | var name _ => inferInstanceAs (Decidable (name ≠ "" ∧ name ∉ table.unary))
  | binary _ _ left right _ =>
    have := left.decideWritable table
    have := right.decideWritable table
    inferInstanceAs (Decidable (_ ∧ _ ∧ _ ∧ _))
  | unary _ operand _ =>
    have := operand.decideWritable table
    inferInstanceAs (Decidable (_ ∧ _))
  | call _ arguments _ =>
    have := decideAreWritable table arguments
    inferInstanceAs (Decidable (_ ∧ _))
  | conditional condition consequent alternative _ =>
    have := condition.decideWritable table
    have := consequent.decideWritable table
    have := alternative.decideWritable table
    inferInstanceAs (Decidable (_ ∧ _ ∧ _))
  | loop _ start limit step body _ =>
    have := start.decideWritable table
    have := limit.decideWritable table
    have := decideOptionalWritable table step
    have := body.decideWritable table
    inferInstanceAs (Decidable (_ ∧ _ ∧ _ ∧ _ ∧ _))
  | binding _ initializer body _ =>
    have := decideOptionalWritable table initializer
    have := body.decideWritable table
    inferInstanceAs (Decidable (_ ∧ _ ∧ _))
  | prototype _ | function _ _ _ | declaration _ _ => .isFalse id

/-- Whether expressions can be written. -/
def decideAreWritable (table : OperatorTable) :
    (trees : List Expr) → Decidable (AreWritable table trees)
  | [] => .isTrue trivial
  | tree :: others =>
    have := tree.decideWritable table
    have := decideAreWritable table others
    inferInstanceAs (Decidable (_ ∧ _))

/-- Whether an expression that may be left out can be written. -/
def decideOptionalWritable (table : OperatorTable) :
    (wanted : Option Expr) → Decidable (IsOptionalWritable table wanted)
  | none => .isTrue trivial
  | some tree => tree.decideWritable table

end

instance (table : OperatorTable) (tree : Expr) : Decidable (tree.IsWritable table) :=
  tree.decideWritable table

variable {table : OperatorTable} {layout : Layout} {tree part : Expr}

/-- Each of several writable expressions is writable. -/
theorem AreWritable.of_mem {trees : List Expr} (writable : AreWritable table trees)
    (member : part ∈ trees) : part.IsWritable table := by
  induction trees with
  | nil => contradiction
  | cons tree others hypothesis =>
    rcases List.mem_cons.1 member with rfl | member
    · exact writable.1
    · exact hypothesis writable.2 member

/-- Everything nested in a writable expression is writable. -/
theorem IsWritable.child (writable : tree.IsWritable table) (below : part ∈ tree.children) :
    part.IsWritable table := by
  have optional : ∀ {wanted : Option Expr}, IsOptionalWritable table wanted →
      part ∈ wanted.toList → part.IsWritable table := by
    intro wanted writable member
    obtain rfl := Option.mem_toList.1 member
    exact writable
  cases tree with
  | number | var => contradiction
  | prototype | function | declaration => exact writable.elim
  | call callee arguments span => exact writable.2.of_mem below
  | unary operator operand span =>
    obtain rfl := List.mem_singleton.1 below
    exact writable.2
  | binary operator meaning left right span =>
    obtain ⟨_, _, first, second⟩ := writable
    simp only [children, List.mem_cons, List.not_mem_nil, or_false] at below
    rcases below with rfl | rfl <;> assumption
  | conditional condition consequent alternative span =>
    obtain ⟨first, second, third⟩ := writable
    simp only [children, List.mem_cons, List.not_mem_nil, or_false] at below
    rcases below with rfl | rfl | rfl <;> assumption
  | loop counter start limit step body span =>
    obtain ⟨_, first, second, given, last⟩ := writable
    simp only [children, List.mem_cons, List.mem_append, List.not_mem_nil, or_false] at below
    rcases below with rfl | rfl | below | rfl
    · exact first
    · exact second
    · exact optional given below
    · exact last
  | binding name initializer body span =>
    obtain ⟨_, given, last⟩ := writable
    simp only [children, List.mem_cons, List.mem_append, List.not_mem_nil, or_false] at below
    rcases below with below | rfl
    · exact optional given below
    · exact last

/-- At least one token is written for each further argument. -/
theorem length_le_length_writeFurther (layout : Layout) (arguments : List Expr) :
    arguments.length ≤ (writeFurther layout arguments).length := by
  induction arguments with
  | nil => exact Nat.zero_le _
  | cons argument others hypothesis =>
    simp only [writeFurther, List.length_cons, List.length_append]
    omega

/-- Further arguments stand in parentheses behind commas. -/
theorem length_write_le_writeFurther {arguments : List Expr} (member : part ∈ arguments) :
    (part.write layout).length + 3 ≤ (writeFurther layout arguments).length := by
  induction arguments with
  | nil => contradiction
  | cons argument others hypothesis =>
    simp only [writeFurther, List.length_cons, List.length_append, length_enclose]
    rcases List.mem_cons.1 member with rfl | member
    · omega
    · have later := hypothesis member
      omega

/-- Arguments stand in parentheses. -/
theorem length_write_le_writeArguments {arguments : List Expr} (member : part ∈ arguments) :
    (part.write layout).length + 2 ≤ (writeArguments layout arguments).length := by
  cases arguments with
  | nil => contradiction
  | cons argument others =>
    simp only [writeArguments, List.length_append, length_enclose]
    rcases List.mem_cons.1 member with rfl | member
    · omega
    · have later : (part.write layout).length + 3 ≤ (writeFurther layout others).length :=
        length_write_le_writeFurther member
      omega

/-- An expression that may be left out stands in parentheses behind a sign. -/
theorem length_write_le_writeOptional {kind : Token.Kind} {wanted : Option Expr}
    (member : part ∈ wanted.toList) :
    (part.write layout).length + 3 ≤ (writeOptional layout kind wanted).length := by
  obtain rfl := Option.mem_toList.1 member
  simp only [writeOptional, List.length_cons, length_enclose]
  omega

/-- Everything nested in an expression is written with parentheses and another token. -/
theorem IsWritable.length_child (layout : Layout) (writable : tree.IsWritable table)
    (below : part ∈ tree.children) :
    (part.write layout).length + 3 ≤ (tree.write layout).length := by
  cases tree with
  | number | var => contradiction
  | prototype | function | declaration => exact writable.elim
  | call callee arguments span =>
    have inner : (part.write layout).length + 2 ≤ (writeArguments layout arguments).length :=
      length_write_le_writeArguments below
    simp only [write, List.length_cons, length_enclose]
    omega
  | unary operator operand span =>
    obtain rfl := List.mem_singleton.1 below
    simp only [write, List.length_cons, length_enclose]
    omega
  | binary operator meaning left right span =>
    simp only [children, List.mem_cons, List.not_mem_nil, or_false] at below
    simp only [write, List.length_cons, List.length_append, length_enclose]
    rcases below with rfl | rfl <;> omega
  | conditional condition consequent alternative span =>
    simp only [children, List.mem_cons, List.not_mem_nil, or_false] at below
    simp only [write, List.length_cons, List.length_append, length_enclose]
    rcases below with rfl | rfl | rfl <;> omega
  | loop counter start limit step body span =>
    simp only [children, List.mem_cons, List.mem_append, List.not_mem_nil, or_false] at below
    simp only [write, List.length_cons, List.length_append, length_enclose]
    rcases below with rfl | rfl | below | rfl
    · omega
    · omega
    · have inner : (part.write layout).length + 3 ≤ (writeOptional layout .comma step).length :=
        length_write_le_writeOptional below
      omega
    · omega
  | binding name initializer body span =>
    simp only [children, List.mem_cons, List.mem_append, List.not_mem_nil, or_false] at below
    simp only [write, List.length_cons, List.length_append, length_enclose]
    rcases below with below | rfl
    · have inner :
          (part.write layout).length + 3 ≤ (writeOptional layout .equal initializer).length :=
        length_write_le_writeOptional below
      omega
    · omega

/-- The first token of an expression is none that a form or the next statement starts with. -/
theorem IsWritable.begins (writable : tree.IsWritable table) (layout : Layout) :
    ∃ token rest, tree.write layout = token :: rest ∧
      token.kind ∉ [Token.Kind.eof, .semicolon, .keyword .define, .keyword .declare] := by
  cases tree with
  | prototype | function | declaration => exact writable.elim
  | number | var | binary | call | conditional | loop | binding =>
    exact ⟨_, _, rfl, by simp [Token.numeral, Token.word, Token.ofKind]⟩
  | unary operator operand span =>
    have isUnary : table.isUnary operator = true := writable.1
    refine ⟨_, _, rfl, fun other => ?_⟩
    simp only [List.mem_cons, List.not_mem_nil, or_false] at other
    rcases other with other | other | other | other <;>
      simp [OperatorTable.isUnary, other] at isUnary

end Expr

namespace Prototype

/-- The tokens of parameters. -/
def writeParameters (layout : Layout) : List String → List Token
  | [] => []
  | name :: others =>
    let separator := bif layout.separated && !others.isEmpty then [.ofKind .comma] else []
    .word name :: (separator ++ writeParameters layout others)

/-- At least one token is written for each parameter. -/
theorem length_le_length_writeParameters (layout : Layout) (names : List String) :
    names.length ≤ (writeParameters layout names).length := by
  induction names with
  | nil => exact Nat.zero_le _
  | cons name others hypothesis =>
    simp only [writeParameters, List.length_cons, List.length_append]
    omega

/-- The tokens of what a prototype introduces. -/
def writeHead (layout : Layout) (prototype : Prototype) : List Token :=
  match prototype.kind with
  | .function => [.word prototype.name]
  | .unary => [.ofKind (.keyword .unary), .sign prototype.name]
  | .binary precedence =>
    let strength := .numeral (layout.numeral precedence) precedence
    .ofKind (.keyword .binary) :: bif layout.precedenceFirst then [strength, .sign prototype.name]
      else [.sign prototype.name, strength]

/-- The tokens of a prototype. -/
def write (layout : Layout) (prototype : Prototype) : List Token :=
  prototype.writeHead layout ++ enclose (writeParameters layout prototype.parameters)

/-- A prototype that can be written. -/
structure IsWritable (prototype : Prototype) : Prop where
  /-- Its name is not empty. -/
  named : prototype.name ≠ ""
  /-- Nor are those of its parameters. -/
  parameters : ∀ parameter ∈ prototype.parameters, parameter ≠ ""
  /-- The precedence of a binary operator is finite and positive. -/
  strength : ∀ precedence, prototype.kind = .binary precedence →
    precedence.isFinite = true ∧ 0 < precedence
  /-- Nothing is wrong with it as a whole. -/
  faultless : Parse.prototypeFault? prototype = none

end Prototype

namespace Expr

/-- The tokens of the expression of a form. -/
def writeBody (layout : Layout) (body : Expr) : List Token :=
  bif layout.enclosed then enclose (body.write layout) else body.write layout

/-- The expression of a form starts like the expression itself or with a parenthesis. -/
theorem IsWritable.begins_writeBody {table : OperatorTable} {body : Expr}
    (writable : body.IsWritable table) (layout : Layout) :
    ∃ token rest, body.writeBody layout = token :: rest ∧
      token.kind ∉ [Token.Kind.eof, .semicolon, .keyword .define, .keyword .declare] := by
  unfold writeBody
  cases layout.enclosed with
  | false => exact writable.begins layout
  | true => exact ⟨_, _, rfl, by decide⟩

/-- The tokens of a form up to its semicolon. -/
def writeForm (layout : Layout) : Expr → List Token
  | function signature body _ =>
    bif signature.isAnonymous then body.writeBody layout
    else .ofKind (.keyword .define) :: (signature.write layout ++ body.writeBody layout)
  | declaration signature _ => .ofKind (.keyword .declare) :: signature.write layout
  | _ => []

/-- A form that can be written for a table of operators. The operator of its prototype is known in
its body. -/
inductive IsWritableForm (table : OperatorTable) : Expr → Prop
  /-- An expression to run. -/
  | job {body : Expr} {own span : Span} (writable : body.IsWritable table) :
      IsWritableForm table (.function (.anonymous own) body span)
  /-- A definition. -/
  | definition {signature : Prototype} {body : Expr} {span : Span}
      (named : signature.isAnonymous = false) (accepted : signature.IsWritable)
      (writable : body.IsWritable (table.declare signature)) :
      IsWritableForm table (.function signature body span)
  /-- A declaration of a function of the host. -/
  | declaration {signature : Prototype} {span : Span} (accepted : signature.IsWritable) :
      IsWritableForm table (.declaration signature span)

/-- A form starts with neither the end of the input nor the end of a statement. -/
theorem IsWritableForm.begins {table : OperatorTable} {form : Expr}
    (writable : form.IsWritableForm table) (layout : Layout) :
    ∃ token rest, form.writeForm layout = token :: rest ∧
      token.kind ∉ [Token.Kind.eof, .semicolon] := by
  cases writable with
  | job writable =>
    obtain ⟨token, rest, same, others⟩ := writable.begins_writeBody layout
    exact ⟨token, rest, same, by simp_all⟩
  | definition named _ _ =>
    rw [writeForm, named]
    exact ⟨_, _, rfl, by decide⟩
  | declaration => exact ⟨_, _, rfl, by decide⟩

end Expr

end Kaleidoscope
