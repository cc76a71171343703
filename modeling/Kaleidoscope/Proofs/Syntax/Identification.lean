import Kaleidoscope.Proofs.Syntax.Rendering
import Kaleidoscope.Proofs.Syntax.Writing

/-!
# Printed trees identify trees

Two forms of sources that are printed alike are the same up to their places
(`Expr.bare_eq_of_render_eq`). Their texts are read as the same datum, and the datum of an expression
says which construct it is of (`Expr.shape_datum`): a word that stands in front of a list is reserved
for its construct, or else an operator, which takes one operand or two. Since a token is determined by
its text, so are operators and what they mean; numbers are determined by theirs; and the prototypes of
functions are told from those of operators by the underscores of the latter.
-/
namespace Kaleidoscope

/-- The constructs of expressions. -/
inductive Shape where
  /-- A number. -/
  | number
  /-- A variable. -/
  | var
  /-- An operator between two operands. -/
  | binary
  /-- An operator before its operand. -/
  | unary
  /-- A call. -/
  | call
  /-- A conditional. -/
  | conditional
  /-- A loop. -/
  | loop
  /-- A local variable. -/
  | binding
  /-- A form or a prototype. -/
  | form

/-- The construct of a tree. -/
def Expr.shape : Expr → Shape
  | number _ _ => .number
  | var _ _ => .var
  | binary _ _ _ _ _ => .binary
  | unary _ _ _ => .unary
  | call _ _ _ => .call
  | conditional _ _ _ _ => .conditional
  | loop _ _ _ _ _ _ => .loop
  | binding _ _ _ _ => .binding
  | prototype _ | function _ _ _ | declaration _ _ => .form

/-- The construct that a datum is printed for. -/
def Datum.shape : Datum → Shape
  | atom word => if word.toList.head?.any Text.isAlphabetic then .var else .number
  | list head items =>
    if head = "call" then .call
    else if head = "if" then .conditional
    else if head = "for" then .loop
    else if head = "var" then .binding
    else if items.length = 1 then .unary
    else .binary

/-- The words that other constructs than operators are printed with. -/
def constructWords : List String := ["call", "if", "for", "var"]

/-- What is printed with another word is an operator, which takes one operand or two. -/
theorem Datum.shape_of_notMem {head : String} (other : head ∉ constructWords) (items : List Datum) :
    (Datum.list head items).shape = if items.length = 1 then .unary else .binary := by
  simp only [constructWords, List.mem_cons, List.not_mem_nil, or_false, not_or] at other
  simp [shape, other]

/-- An operator that is not named by the identifier of calls is printed with a word of its own. -/
theorem Token.IsRead.notMem_constructWords {token : Token} (read : token.IsRead)
    (kind : ∀ keyword, token.kind ≠ .keyword keyword) (plain : ¬token.IsIdent "call") :
    token.lexeme ∉ constructWords := by
  have reserved : ∀ keyword : Keyword, token.lexeme ≠ keyword.text := fun keyword same =>
    kind keyword (read.kind_eq same)
  simp only [constructWords, List.mem_cons, List.not_mem_nil, or_false, not_or]
  exact ⟨fun same => plain (read.isIdent_call same), reserved .ifWord, reserved .forWord,
    reserved .varWord⟩

/-- A digit is no letter. -/
theorem Text.isAlphabetic_of_isDigit {c : Char} (digit : c.isDigit = true) :
    isAlphabetic c = false := by
  simp only [Char.isDigit, Bool.and_eq_true, decide_eq_true_eq, UInt32.le_iff_toNat_le] at digit
  have large : 48 ≤ c.toNat := digit.1
  have small : c.toNat ≤ 57 := digit.2
  have under : c.toNat < 128 := by omega
  rw [isAlphabetic, if_pos under]
  cases letter : c.isAlpha with
  | false => rfl
  | true =>
    rcases Bool.or_eq_true_iff.1 letter with upper | lower
    · have above : 65 ≤ c.toNat := (of_decide_eq_true upper).1
      omega
    · have above : 97 ≤ c.toNat := of_decide_eq_true (Bool.and_eq_true_iff.1 lower).1
      omega

namespace Expr

variable {tree first second : Expr}

/-- The datum of an expression that is read from a source says which construct it is of. -/
theorem shape_datum (made : tree.IsMade Token.IsRead) (printable : tree.IsPrintable) :
    tree.datum.shape = tree.shape := by
  cases made with
  | number =>
    obtain ⟨-, c, isHead, plain⟩ := NumberFormat.isAtom_text printable
    have noLetter : Text.isAlphabetic c = false := by
      rcases plain with digit | rfl
      · exact Text.isAlphabetic_of_isDigit digit
      · decide
    rw [Option.mem_def] at isHead
    simp [datum, Datum.shape, shape, isHead, noLetter]
  | var read ident =>
    obtain ⟨⟨c, isHead, letter⟩, -⟩ := read.letters_ident ident
    rw [Option.mem_def] at isHead
    simp [datum, Datum.shape, shape, isHead, letter]
  | binary read means =>
    have other := read.notMem_constructWords (fun keyword kind => by
      simp [BinaryMeaning.ofToken?, kind] at means) printable
    rw [← read.symbol_eq means] at other
    rw [datum, Datum.shape_of_notMem other]
    rfl
  | unary read kind =>
    have other := read.notMem_constructWords (fun keyword wrong => by
      rcases kind with kind | kind <;> simp [kind] at wrong) printable
    rw [← read.unaryName_eq] at other
    rw [datum, Datum.shape_of_notMem other]
    rfl
  | call | conditional | loop | binding => simp [datum, Datum.shape, shape]

/-- Whatever expression of a source has the same datum as a tree is the same up to its places. -/
def IsTold (tree : Expr) : Prop :=
  ∀ ⦃second : Expr⦄, second.IsMade Token.IsRead → second.Everywhere IsPrintable →
    tree.datum = second.datum → tree.bare = second.bare

/-- Expressions are told by their data one by one. -/
theorem bareAll_eq {trees : List Expr} (areTold : ∀ tree ∈ trees, tree.IsTold) :
    ∀ {others : List Expr}, (∀ other ∈ others, other.IsMade Token.IsRead) →
      (∀ other ∈ others, other.Everywhere IsPrintable) → dataOf trees = dataOf others →
      bareAll trees = bareAll others := by
  induction trees with
  | nil =>
    intro others _ _ same
    cases others with
    | nil => rfl
    | cons => contradiction
  | cons tree trees hypothesis =>
    intro others areMade arePrintable same
    cases others with
    | nil => contradiction
    | cons other others =>
      obtain ⟨isTold, othersTold⟩ := List.forall_mem_cons.1 areTold
      obtain ⟨isMade, othersMade⟩ := List.forall_mem_cons.1 areMade
      obtain ⟨isPrintable, othersPrintable⟩ := List.forall_mem_cons.1 arePrintable
      obtain ⟨own, rest⟩ := List.cons.inj same
      rw [bareAll, bareAll, isTold isMade isPrintable own,
        hypothesis othersTold othersMade othersPrintable rest]

/-- An expression that may be left out is told by its datum. -/
theorem bareOptional_eq {optional other : Option Expr} (isTold : ∀ tree ∈ optional, tree.IsTold)
    (isMade : ∀ tree ∈ other, tree.IsMade Token.IsRead)
    (isPrintable : ∀ tree ∈ other, tree.Everywhere IsPrintable)
    (same : dataOfOptional optional = dataOfOptional other) :
    bareOptional optional = bareOptional other := by
  cases optional <;> cases other
  · rfl
  · contradiction
  · contradiction
  · exact congrArg some
      (isTold _ rfl (isMade _ rfl) (isPrintable _ rfl) (List.cons.inj same).1)

/-- To tell a tree, it suffices to tell it from those of the same construct. -/
def IsToldByShape (tree : Expr) : Prop :=
  ∀ ⦃second : Expr⦄, tree.shape = second.shape → second.IsMade Token.IsRead →
    second.Everywhere IsPrintable → tree.datum = second.datum → tree.bare = second.bare

/-- The construct of an expression is told by its datum. -/
theorem isTold_of_shape (made : tree.IsMade Token.IsRead) (printable : tree.IsPrintable)
    (told : tree.IsToldByShape) : tree.IsTold := by
  intro second isSecond isPrintable same
  have shapes : tree.shape = second.shape := by
    rw [← shape_datum made printable, same, shape_datum isSecond isPrintable.own]
  exact told shapes isSecond isPrintable same

section Constructs

variable {operator start : Token} {third fourth : Expr} {optional : Option Expr} {name : String}
  {span : Span}

/-- Numbers are told by their texts. -/
theorem told_number {value : Float} (finite : value.isFinite = true) :
    (number value span).IsToldByShape := by
  intro second shapes isSecond isPrintable same
  cases isSecond with
  | number =>
    obtain rfl := NumberFormat.text_injective finite isPrintable.own (Datum.atom.inj same)
    rfl
  | _ => contradiction

/-- Variables are told by their names. -/
theorem told_var : (var name span).IsToldByShape := by
  intro second shapes isSecond isPrintable same
  cases isSecond with
  | var =>
    obtain rfl := Datum.atom.inj same
    rfl
  | _ => contradiction

/-- The text of an operator between two operands says what the operator means. -/
theorem told_binary {meaning : BinaryMeaning} (read : operator.IsRead)
    (means : BinaryMeaning.ofToken? operator = some meaning) (left : first.IsTold)
    (right : second.IsTold) : (binary operator meaning first second span).IsToldByShape := by
  intro other shapes isOther isPrintable same
  cases isOther with
  | @binary otherOperator otherMeaning _ _ otherRead otherMeans isLeft isRight =>
    obtain ⟨symbols, operands⟩ := Datum.list.inj same
    obtain ⟨sameLeft, rest⟩ := List.cons.inj operands
    have lexemes : operator.lexeme = otherOperator.lexeme := by
      rw [← read.symbol_eq means, symbols, otherRead.symbol_eq otherMeans]
    have tokens := read.bare_eq otherRead lexemes
    have meanings : meaning = otherMeaning := by
      rw [BinaryMeaning.ofToken?_eq_of_bare_eq tokens, otherMeans] at means
      exact (Option.some.inj means).symm
    have lefts := left isLeft (isPrintable.children _ List.mem_cons_self) sameLeft
    have rights := right isRight (isPrintable.children _ (.tail _ List.mem_cons_self))
      (List.cons.inj rest).1
    rw [bare, bare, tokens, meanings, lefts, rights]
  | _ => contradiction

/-- The text of an operator before an operand says which token it is. -/
theorem told_unary (read : operator.IsRead) (operand : first.IsTold) :
    (unary operator first span).IsToldByShape := by
  intro other shapes isOther isPrintable same
  cases isOther with
  | @unary otherOperator _ otherRead _ isOperand =>
    obtain ⟨names, operands⟩ := Datum.list.inj same
    have lexemes : operator.lexeme = otherOperator.lexeme := by
      rw [← read.unaryName_eq, names, otherRead.unaryName_eq]
    have inner := operand isOperand (isPrintable.children _ List.mem_cons_self)
      (List.cons.inj operands).1
    rw [bare, bare, read.bare_eq otherRead lexemes, inner]
  | _ => contradiction

/-- Calls are told by the function and the arguments. -/
theorem told_call {arguments : List Expr} (areTold : ∀ argument ∈ arguments, argument.IsTold) :
    (call name arguments span).IsToldByShape := by
  intro other shapes isOther isPrintable same
  cases isOther with
  | call _ _ areMade =>
    obtain ⟨callees, data⟩ := List.cons.inj (Datum.list.inj same).2
    have inner := bareAll_eq areTold areMade (fun _ member => isPrintable.children _ member) data
    rw [bare, bare, Datum.atom.inj callees, inner]
  | _ => contradiction

/-- Conditionals are told by their three expressions. -/
theorem told_conditional (condition : first.IsTold) (consequent : second.IsTold)
    (alternative : third.IsTold) : (conditional first second third span).IsToldByShape := by
  intro other shapes isOther isPrintable same
  cases isOther with
  | conditional _ isCondition isConsequent isAlternative =>
    obtain ⟨ofFirst, rest⟩ := List.cons.inj (Datum.list.inj same).2
    obtain ⟨ofSecond, rest⟩ := List.cons.inj rest
    have conditions := condition isCondition (isPrintable.children _ List.mem_cons_self) ofFirst
    have consequents := consequent isConsequent
      (isPrintable.children _ (.tail _ List.mem_cons_self)) ofSecond
    have alternatives := alternative isAlternative
      (isPrintable.children _ (.tail _ (.tail _ List.mem_cons_self))) (List.cons.inj rest).1
    rw [bare, bare, conditions, consequents, alternatives]
  | _ => contradiction

/-- Loops are told by the counter, its start, limit and perhaps step, and the body. -/
theorem told_loop (initial : first.IsTold) (limit : second.IsTold)
    (step : ∀ tree ∈ optional, tree.IsTold) (body : third.IsTold) :
    (loop name first second optional third span).IsToldByShape := by
  intro other shapes isOther isPrintable same
  cases isOther with
  | loop _ _ _ isInitial isLimit isStep isBody =>
    obtain ⟨headers, rest⟩ := List.cons.inj (Datum.list.inj same).2
    obtain ⟨names, parts⟩ := Datum.list.inj headers
    obtain ⟨ofInitial, parts⟩ := List.cons.inj parts
    obtain ⟨ofLimit, ofStep⟩ := List.cons.inj parts
    have initials := initial isInitial (isPrintable.children _ List.mem_cons_self) ofInitial
    have limits := limit isLimit (isPrintable.children _ (.tail _ List.mem_cons_self)) ofLimit
    have steps := bareOptional_eq step isStep (fun tree given => isPrintable.children _
      (.tail _ (.tail _ (List.mem_append_left _ (Option.mem_toList.2 given))))) ofStep
    have bodies := body isBody (isPrintable.children _
      (.tail _ (.tail _ (List.mem_append_right _ List.mem_cons_self)))) (List.cons.inj rest).1
    rw [bare, bare, names, initials, limits, steps, bodies]
  | _ => contradiction

/-- Local variables are told by their names, perhaps first values, and bodies. -/
theorem told_binding (initializer : ∀ tree ∈ optional, tree.IsTold) (body : first.IsTold) :
    (binding name optional first span).IsToldByShape := by
  intro other shapes isOther isPrintable same
  cases isOther with
  | binding _ _ _ isInitializer isBody =>
    obtain ⟨headers, rest⟩ := List.cons.inj (Datum.list.inj same).2
    obtain ⟨names, ofInitializer⟩ := Datum.list.inj headers
    have initializers := bareOptional_eq initializer isInitializer (fun tree given =>
      isPrintable.children _ (List.mem_append_left _ (Option.mem_toList.2 given))) ofInitializer
    have bodies := body isBody (isPrintable.children _
      (List.mem_append_right _ List.mem_cons_self)) (List.cons.inj rest).1
    rw [bare, bare, names, initializers, bodies]
  | _ => contradiction

end Constructs

/-- An expression of a source is told by its datum. -/
theorem IsMade.isTold (made : tree.IsMade Token.IsRead) :
    tree.Everywhere IsPrintable → tree.IsTold := by
  induction made with
  | number read literal =>
    intro printable
    exact isTold_of_shape (.number read literal) printable.own (told_number printable.own)
  | var read ident =>
    intro printable
    exact isTold_of_shape (.var read ident) printable.own told_var
  | binary read means ofLeft ofRight left right =>
    intro printable
    refine isTold_of_shape (.binary read means ofLeft ofRight) printable.own
      (told_binary read means (left ?_) (right ?_))
    · exact printable.children _ List.mem_cons_self
    · exact printable.children _ (.tail _ List.mem_cons_self)
  | unary read kind ofOperand operand =>
    intro printable
    exact isTold_of_shape (.unary read kind ofOperand) printable.own
      (told_unary read (operand (printable.children _ List.mem_cons_self)))
  | call read ident ofArguments arguments =>
    intro printable
    exact isTold_of_shape (.call read ident ofArguments) printable.own
      (told_call fun argument member => arguments argument member (printable.children _ member))
  | conditional held ofCondition ofConsequent ofAlternative condition consequent alternative =>
    intro printable
    refine isTold_of_shape (.conditional held ofCondition ofConsequent ofAlternative) printable.own
      (told_conditional (condition ?_) (consequent ?_) (alternative ?_))
    · exact printable.children _ List.mem_cons_self
    · exact printable.children _ (.tail _ List.mem_cons_self)
    · exact printable.children _ (.tail _ (.tail _ List.mem_cons_self))
  | loop held counted ident ofInitial ofLimit ofStep ofBody initial limit step body =>
    intro printable
    refine isTold_of_shape (.loop held counted ident ofInitial ofLimit ofStep ofBody) printable.own
      (told_loop (initial ?_) (limit ?_) (fun tree given => step tree given ?_) (body ?_))
    · exact printable.children _ List.mem_cons_self
    · exact printable.children _ (.tail _ List.mem_cons_self)
    · exact printable.children _
        (.tail _ (.tail _ (List.mem_append_left _ (Option.mem_toList.2 given))))
    · exact printable.children _ (.tail _ (.tail _ (List.mem_append_right _ List.mem_cons_self)))
  | binding held named ident ofInitializer ofBody initializer body =>
    intro printable
    refine isTold_of_shape (.binding held named ident ofInitializer ofBody) printable.own
      (told_binding (fun tree given => initializer tree given ?_) (body ?_))
    · exact printable.children _ (List.mem_append_left _ (Option.mem_toList.2 given))
    · exact printable.children _ (List.mem_append_right _ List.mem_cons_self)

end Expr

namespace Prototype

/-- A prototype as a source or the wrapper of an expression to run has it. -/
structure IsRegular (prototype : Prototype) : Prop where
  /-- The name of a function has no underscore unless it is that of the wrapper. -/
  named : prototype.kind = .function →
    '_' ∉ prototype.name.toList ∨ prototype.name = anonymousName
  /-- The precedence, if there is any, is finite and positive. -/
  strong : prototype.kind.IsStrong
  /-- The datum is clear. -/
  isClear : prototype.datum.IsClear

/-- A prototype of a source is regular. -/
theorem IsMade.isRegular {prototype : Prototype} (made : prototype.IsMade Token.IsRead) :
    prototype.IsRegular where
  named isFunction := by
    obtain ⟨token, read, names, kind⟩ := made.named
    exact .inl (read.letters_ident ⟨kind isFunction, names.2⟩).2
  strong := made.strong
  isClear := made.isClear

/-- The prototype of the wrapper of an expression to run is regular. -/
theorem isRegular_anonymous (span : Span) : (anonymous span).IsRegular where
  named _ := .inr rfl
  strong := nofun
  isClear := by
    have name : Datum.IsAtom anonymousName := Datum.isAtom_of_decide (by decide)
    exact .list (Datum.isAtom_of_decide (by decide)) (List.forall_mem_singleton.2 (.atom name))

/-- No function is linked under the name of an operator. -/
theorem IsRegular.name_ne {prototype : Prototype} (regular : prototype.IsRegular)
    (isFunction : prototype.kind = .function) (name : String) :
    prototype.name ≠ "unary_" ++ name ∧ prototype.name ≠ "binary_" ++ name := by
  constructor <;> intro same <;> rcases regular.named isFunction with plain | wrapper
  · exact plain (by simp [same])
  · have first := congrArg (·.toList.head?) (same.symm.trans wrapper)
    simp [anonymousName] at first
  · exact plain (by simp [same])
  · have first := congrArg (·.toList.head?) (same.symm.trans wrapper)
    simp [anonymousName] at first

/-- Regular prototypes with the same datum are the same up to their places. -/
theorem IsRegular.bare_eq {first second : Prototype} (isFirst : first.IsRegular)
    (isSecond : second.IsRegular) (same : first.datum = second.datum) : first.bare = second.bare := by
  obtain ⟨linked, rest⟩ := List.cons.inj (Datum.list.inj same).2
  have linked := Datum.atom.inj linked
  have atoms : ∀ {front back : List String}, front.map Datum.atom = back.map Datum.atom →
      front = back :=
    fun same => List.map_injective_iff.2 (fun _ _ => Datum.atom.inj) same
  have names : ∀ {front name other : String}, front ++ name = front ++ other → name = other := by
    intro front name other same
    have characters := congrArg String.toList same
    rw [String.toList_append, String.toList_append] at characters
    exact String.toList_inj.1 (List.append_cancel_left characters)
  have uses : ∀ {name other : String}, "unary_" ++ name ≠ "binary_" ++ other := by
    intro name other same
    have letters := congrArg (·.toList.head?) same
    simp at letters
  obtain ⟨name, parameters, kind, span⟩ := first
  obtain ⟨other, others, use, place⟩ := second
  cases kind with
  | function =>
    cases use with
    | function =>
      obtain rfl : name = other := linked
      obtain rfl : parameters = others := atoms rest
      rfl
    | unary => exact absurd linked (isFirst.name_ne rfl other).1
    | binary => exact absurd linked (isFirst.name_ne rfl other).2
  | unary =>
    cases use with
    | function => exact absurd linked.symm (isSecond.name_ne rfl name).1
    | unary =>
      obtain rfl : name = other := names linked
      obtain rfl : parameters = others := atoms rest
      rfl
    | binary => exact absurd linked uses
  | binary precedence =>
    cases use with
    | function => exact absurd linked.symm (isSecond.name_ne rfl name).2
    | unary => exact absurd linked.symm uses
    | binary strength =>
      obtain ⟨numbers, rest⟩ := List.cons.inj rest
      obtain rfl : name = other := names linked
      obtain rfl : parameters = others := atoms rest
      obtain rfl := NumberFormat.text_injective (isFirst.strong _ rfl).1 (isSecond.strong _ rfl).1
        (Datum.atom.inj numbers)
      rfl

end Prototype

namespace Expr

variable {first second form : Expr}

/-- A form that is read from a source: it is one of those that some tokens form, under some table of
operators. -/
def IsScanned (form : Expr) : Prop :=
  ∃ source tokens operators, Token.scan source = .ok tokens ∧
    form ∈ (Program.ofTokens tokens operators).1.forms

/-- A form of a source is a definition, perhaps one that wraps an expression to run, or a declaration;
its parts are those of a source. -/
theorem IsScanned.cases (scanned : form.IsScanned) :
    (∃ signature body span, form = .function signature body span ∧ signature.IsRegular ∧
      body.IsMade Token.IsRead) ∨
    ∃ signature span, form = .declaration signature span ∧ signature.IsRegular := by
  obtain ⟨source, tokens, operators, scanned, member⟩ := scanned
  cases Program.madeForms_ofTokens operators (Token.isRead_of_scan scanned) form member with
  | job ofBody => exact .inl ⟨_, _, _, rfl, Prototype.isRegular_anonymous _, ofBody⟩
  | definition _ ofSignature ofBody => exact .inl ⟨_, _, _, rfl, ofSignature.isRegular, ofBody⟩
  | declaration _ ofSignature => exact .inr ⟨_, _, rfl, ofSignature.isRegular⟩

/-- The datum of a form of a source is clear. -/
theorem IsScanned.isClear (scanned : form.IsScanned) (printable : form.Everywhere IsPrintable) :
    form.datum.IsClear := by
  obtain ⟨signature, body, span, rfl, regular, made⟩ | ⟨signature, span, rfl, regular⟩ :=
    scanned.cases
  · have inner := made.isClear (printable.children _ (.tail _ List.mem_cons_self))
    exact .list (Datum.isAtom_of_decide (by decide))
      (List.forall_mem_cons.2 ⟨regular.isClear, List.forall_mem_singleton.2 inner⟩)
  · exact .list (Datum.isAtom_of_decide (by decide)) (List.forall_mem_singleton.2 regular.isClear)

/-- Two forms of sources, under whatever operators, that are printed alike are the same up to the
places of their trees and tokens, if their numbers are finite and no operator in them is named by the
identifier `call`. -/
theorem bare_eq_of_render_eq (isFirst : first.IsScanned) (isSecond : second.IsScanned)
    (firstPrintable : first.Everywhere IsPrintable) (secondPrintable : second.Everywhere IsPrintable)
    (same : first.render = second.render) : first.bare = second.bare := by
  have data : first.datum = second.datum := by
    refine (isFirst.isClear firstPrintable).text_injective (isSecond.isClear secondPrintable) ?_
    rw [← toList_render, ← toList_render, same]
  obtain ⟨signature, body, span, rfl, regular, made⟩ | ⟨signature, span, rfl, regular⟩ :=
      isFirst.cases <;>
    obtain ⟨other, inner, place, rfl, otherRegular, otherMade⟩ | ⟨other, place, rfl, otherRegular⟩ :=
      isSecond.cases
  · obtain ⟨signatures, rest⟩ := List.cons.inj (Datum.list.inj data).2
    have bodies := made.isTold (firstPrintable.children _ (.tail _ List.mem_cons_self)) otherMade
      (secondPrintable.children _ (.tail _ List.mem_cons_self)) (List.cons.inj rest).1
    rw [bare, bare, regular.bare_eq otherRegular signatures, bodies]
  · exact absurd (Datum.list.inj data).1 (by decide)
  · exact absurd (Datum.list.inj data).1 (by decide)
  · have signatures := (List.cons.inj (Datum.list.inj data).2).1
    rw [bare, bare, regular.bare_eq otherRegular signatures]

/-- One operator between operands and before one, with and without parentheses, on one line and on two,
and two texts of one number. -/
theorem bare_eq_of_render_eq_layouts :
    let sign (line offset : UInt32) : Token :=
      ⟨.operator, "-", line, ⟨offset, offset + 1⟩, some (.word "-")⟩
    let number (text : String) : Float := Decimal.ofLiteral text.toList
    let first : Expr := .anonymous (.binary (sign 1 1) (.builtin .subtract) (.var "x" ⟨0, 1⟩)
      (.unary (sign 1 2) (.number (number "1.50") ⟨3, 7⟩) ⟨2, 7⟩) ⟨0, 7⟩)
    let second : Expr := .anonymous (.binary (sign 1 2) (.builtin .subtract) (.var "x" ⟨0, 1⟩)
      (.unary (sign 2 5) (.number (number "1.5") ⟨6, 9⟩) ⟨5, 9⟩) ⟨0, 9⟩)
    first.IsScanned ∧ second.IsScanned ∧ first.Everywhere IsPrintable ∧
      second.Everywhere IsPrintable ∧ first.render = second.render ∧ first.bare = second.bare := by
  intro sign number first second
  let word (offset : UInt32) : Token := ⟨.ident, "x", 1, ⟨offset, offset + 1⟩, some (.word "x")⟩
  let numeral (line offset : UInt32) (text : String) : Token :=
    ⟨.number, text, line, ⟨offset, offset + .ofNat text.length⟩, some (.value (number text))⟩
  let mark (kind : Token.Kind) (line offset : UInt32) : Token :=
    ⟨kind, kind.text, line, ⟨offset, offset + 1⟩, none⟩
  have scanned : ∀ {source : String} {tokens : List Token},
      (Token.scan source).toOption = some tokens → Token.scan source = .ok tokens := by
    intro source tokens found
    cases result : Token.scan source with
    | error => rw [result] at found; contradiction
    | ok => rw [result] at found; exact congrArg Except.ok (Option.some.inj found)
  have isFirst : first.IsScanned :=
    ⟨"x--1.50;", [word 0, sign 1 1, sign 1 2, numeral 1 3 "1.50", mark .semicolon 1 7,
      .endOfInput 1 8], ⟨[], ["-"]⟩, scanned (by decide +kernel), List.mem_singleton.2 rfl⟩
  have isSecond : second.IsScanned :=
    ⟨"x -\n(-1.5);", [word 0, sign 1 2, mark .leftParen 2 4, sign 2 5, numeral 2 6 "1.5",
      mark .rightParen 2 9, mark .semicolon 2 10, .endOfInput 2 11], ⟨[], ["-"]⟩,
      scanned (by decide +kernel), List.mem_singleton.2 rfl⟩
  have sign_plain : ∀ line offset, ¬(sign line offset).IsIdent "call" := by
    intro line offset ident
    cases ident.1
  have printable : ∀ (front back : Token) (numeral : Float) (left inner place outer : Span),
      ¬front.IsIdent "call" → ¬back.IsIdent "call" → numeral.isFinite = true →
      (anonymous (.binary front (.builtin .subtract) (.var "x" left)
        (.unary back (.number numeral inner) place) outer)).Everywhere IsPrintable := by
    intro front back numeral left inner place outer plainFront plainBack finite
    have operand : (unary back (.number numeral inner) place).Everywhere IsPrintable :=
      .node plainBack (List.forall_mem_singleton.2 (.node finite (List.forall_mem_nil _)))
    have name : (var "x" left).Everywhere IsPrintable := .node trivial (List.forall_mem_nil _)
    have body : (binary front (.builtin .subtract) (.var "x" left)
        (.unary back (.number numeral inner) place) outer).Everywhere IsPrintable :=
      .node plainFront (List.forall_mem_cons.2 ⟨name, List.forall_mem_singleton.2 operand⟩)
    exact .node trivial (List.forall_mem_cons.2
      ⟨.node trivial (List.forall_mem_nil _), List.forall_mem_singleton.2 body⟩)
  have firstPrintable : first.Everywhere IsPrintable :=
    printable _ _ _ _ _ _ _ (sign_plain 1 1) (sign_plain 1 2) (by decide +kernel)
  have secondPrintable : second.Everywhere IsPrintable :=
    printable _ _ _ _ _ _ _ (sign_plain 1 2) (sign_plain 2 5) (by decide +kernel)
  have same : first.render = second.render := by decide +kernel
  exact ⟨isFirst, isSecond, firstPrintable, secondPrintable, same,
    bare_eq_of_render_eq isFirst isSecond firstPrintable secondPrintable same⟩

end Expr

end Kaleidoscope
