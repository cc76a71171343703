import Kaleidoscope.Proofs.Decimal.Written
import Kaleidoscope.Proofs.Syntax.Making
import Kaleidoscope.Proofs.Token.Words

/-!
# Printed trees as data

A tree is printed as a datum (`Expr.toList_render`). The atoms of this datum are the texts of tokens,
names of operators under which functions are linked, and numbers, so none of them has a space or a
parenthesis in it if the tree is read from a source and its numbers are finite
(`Expr.IsMade.isClear`).
-/
namespace Kaleidoscope

namespace Datum

/-- Atoms one after the other. -/
theorem textAll_atoms (words : List String) :
    textAll (words.map atom) = (String.join (words.map (" " ++ ·))).toList := by
  induction words with
  | nil => rfl
  | cons word words hypothesis => simp [textAll, text, hypothesis]

/-- A word with something in front of it is an atom if both are without what stands between data. -/
theorem IsAtom.append {front back : String} (isFront : IsAtom front) (isBack : IsAtom back) :
    IsAtom (front ++ back) := by
  obtain ⟨some, clear⟩ := isFront
  unfold IsAtom
  rw [String.toList_append]
  exact ⟨by simp [some], List.forall_mem_append.2 ⟨clear, isBack.2⟩⟩

/-- A word is an atom if it can be seen to be one. -/
theorem isAtom_of_decide {word : String}
    (seen : (decide (word.toList ≠ []) && word.toList.all fun c => !isDelimiter c) = true) :
    IsAtom word := by
  simpa [IsAtom] using seen

end Datum

namespace Prototype

/-- A prototype as a datum. -/
def datum (prototype : Prototype) : Datum :=
  let precedence := match prototype.kind with
    | .binary precedence => [.atom (NumberFormat.plain.text precedence)]
    | _ => []
  .list "proto" (.atom prototype.linkedName :: (precedence ++ prototype.parameters.map .atom))

/-- A prototype is printed as its datum. -/
theorem toList_render (prototype : Prototype) : prototype.render.toList = prototype.datum.text := by
  obtain ⟨name, parameters, kind, span⟩ := prototype
  cases kind <;>
    simp [render, datum, Datum.text, Datum.textAll, Datum.textAll_atoms]

end Prototype

namespace Expr

mutual

/-- A tree as a datum. -/
def datum : Expr → Datum
  | number value _ => .atom (NumberFormat.plain.text value)
  | var name _ => .atom name
  | binary _ meaning left right _ => .list meaning.symbol [left.datum, right.datum]
  | unary operator operand _ => .list (unaryName operator) [operand.datum]
  | call callee arguments _ => .list "call" (.atom callee :: dataOf arguments)
  | conditional condition consequent alternative _ =>
    .list "if" [condition.datum, consequent.datum, alternative.datum]
  | loop counter start limit step body _ =>
    .list "for" [.list counter (start.datum :: limit.datum :: dataOfOptional step), body.datum]
  | binding name initializer body _ =>
    .list "var" [.list name (dataOfOptional initializer), body.datum]
  | prototype signature => signature.datum
  | function signature body _ => .list "def" [signature.datum, body.datum]
  | declaration signature _ => .list "extern" [signature.datum]

/-- Trees as data. -/
def dataOf : List Expr → List Datum
  | [] => []
  | tree :: others => tree.datum :: dataOf others

/-- A tree that may be left out as a datum. -/
def dataOfOptional : Option Expr → List Datum
  | none => []
  | some tree => [tree.datum]

end

/-- Trees are data one by one. -/
theorem dataOf_eq_map (trees : List Expr) : dataOf trees = trees.map datum := by
  induction trees with
  | nil => rfl
  | cons tree others hypothesis => rw [dataOf, hypothesis, List.map_cons]

mutual

/-- A tree is printed as its datum. -/
theorem toList_render : ∀ tree : Expr, tree.render.toList = tree.datum.text
  | number value _ | var name _ => rfl
  | binary _ meaning left right _ => by
    simp [render, datum, Datum.text, Datum.textAll, left.toList_render, right.toList_render]
  | unary operator operand _ => by
    simp [render, datum, Datum.text, Datum.textAll, operand.toList_render]
  | call callee arguments _ => by
    simp [render, datum, Datum.text, Datum.textAll, toList_renderAll arguments]
  | conditional condition consequent alternative _ => by
    simp [render, datum, Datum.text, Datum.textAll, condition.toList_render, consequent.toList_render,
      alternative.toList_render]
  | loop counter start limit step body _ => by
    simp [render, datum, Datum.text, Datum.textAll, start.toList_render, limit.toList_render,
      toList_renderOptional step, body.toList_render]
  | binding name initializer body _ => by
    simp [render, datum, Datum.text, Datum.textAll, toList_renderOptional initializer,
      body.toList_render]
  | prototype signature => signature.toList_render
  | function signature body _ => by
    simp [render, datum, Datum.text, Datum.textAll, signature.toList_render, body.toList_render]
  | declaration signature _ => by
    simp [render, datum, Datum.text, Datum.textAll, signature.toList_render]

/-- Trees are printed as their data. -/
theorem toList_renderAll : ∀ trees : List Expr,
    (renderAll trees).toList = Datum.textAll (dataOf trees)
  | [] => rfl
  | tree :: others => by
    simp [renderAll, dataOf, Datum.textAll, tree.toList_render, toList_renderAll others]

/-- A tree that may be left out is printed as its datum. -/
theorem toList_renderOptional : ∀ optional : Option Expr,
    (renderOptional optional).toList = Datum.textAll (dataOfOptional optional)
  | none => rfl
  | some tree => by
    simp [renderOptional, dataOfOptional, Datum.textAll, tree.toList_render]

end

/-- A number is finite, and an operator is not named by the identifier that calls are printed with. -/
def IsPrintable : Expr → Prop
  | number value _ => value.isFinite = true
  | binary operator _ _ _ _ | unary operator _ _ => ¬operator.IsIdent "call"
  | _ => True

end Expr

/-- The text of a finite number is an atom that starts with a digit or a sign. -/
theorem NumberFormat.isAtom_text {value : Float} (finite : value.isFinite = true) :
    Datum.IsAtom (plain.text value) ∧
      ∃ c ∈ (plain.text value).toList.head?, c.isDigit = true ∨ c = '-' := by
  obtain ⟨negative, _, _, magnitude, _, -, written, writes, -⟩ := writes_text finite
  obtain ⟨⟨c, isHead, digit⟩, characters⟩ := writes.shape
  have clear : ∀ d ∈ magnitude, Datum.isDelimiter d = false := fun d member =>
    Lexeme.isDelimiter_eq_false ((characters d member).imp_left Text.isAlphanumeric_of_isDigit)
  have some : magnitude ≠ [] := by
    rintro rfl
    cases isHead
  unfold Datum.IsAtom
  rw [written]
  cases negative with
  | true => exact ⟨⟨List.cons_ne_nil _ _, List.forall_mem_cons.2 ⟨rfl, clear⟩⟩, '-', rfl, .inr rfl⟩
  | false => exact ⟨⟨some, clear⟩, c, isHead, .inl digit⟩

namespace Token

variable {token : Token} {name : String}

/-- The name of an identifier or of an operator is an atom. -/
theorem IsRead.isAtom_name (read : token.IsRead) (named : token.Names name) : Datum.IsAtom name := by
  obtain ⟨kind, carried, -⟩ := named
  rw [read.name_eq carried]
  apply read.isAtom <;> rcases kind with kind | kind <;> simp [kind]

/-- The name of an identifier is an atom. -/
theorem IsRead.isAtom_ident (read : token.IsRead) (ident : token.IsIdent name) : Datum.IsAtom name :=
  read.isAtom_name ⟨.inl ident.1, ident.2⟩

/-- An identifier starts with a letter and has no underscore. -/
theorem IsRead.letters_ident (read : token.IsRead) (ident : token.IsIdent name) :
    (∃ c ∈ name.toList.head?, Text.isAlphabetic c = true) ∧ '_' ∉ name.toList := by
  obtain ⟨starts, letters⟩ := read.letters ident.1
  rw [read.name_eq ident.2.1]
  exact ⟨starts, fun member => absurd (letters _ member) (by decide)⟩

end Token

/-- The datum of a prototype that is read from a source is clear. -/
theorem Prototype.IsMade.isClear {signature : Prototype} (made : signature.IsMade Token.IsRead) :
    signature.datum.IsClear := by
  obtain ⟨token, read, names, -⟩ := made.named
  have isAtom := read.isAtom_name names
  have parameters : ∀ item ∈ signature.parameters.map Datum.atom, item.IsClear := by
    intro item member
    obtain ⟨name, inside, rfl⟩ := List.mem_map.1 member
    obtain ⟨token, read, ident⟩ := made.parameters name inside
    exact .atom (read.isAtom_ident ident)
  have strong := made.strong
  obtain ⟨name, names, kind, span⟩ := signature
  refine .list (Datum.isAtom_of_decide (by decide)) ?_
  cases kind with
  | function => exact List.forall_mem_cons.2 ⟨.atom isAtom, parameters⟩
  | unary =>
    exact List.forall_mem_cons.2
      ⟨.atom ((Datum.isAtom_of_decide (by decide)).append isAtom), parameters⟩
  | binary precedence =>
    have number := (NumberFormat.isAtom_text (strong _ rfl).1).1
    exact List.forall_mem_cons.2 ⟨.atom ((Datum.isAtom_of_decide (by decide)).append isAtom),
      List.forall_mem_cons.2 ⟨.atom number, parameters⟩⟩

namespace Expr

variable {tree : Expr}

/-- The data of trees are clear if those of each of them are. -/
theorem areClear_dataOf {trees : List Expr} (areClear : ∀ tree ∈ trees, tree.datum.IsClear) :
    ∀ item ∈ dataOf trees, item.IsClear := by
  rw [dataOf_eq_map]
  exact List.forall_mem_map.2 areClear

/-- The datum of a tree that may be left out is clear if that of the tree is. -/
theorem areClear_dataOfOptional {optional : Option Expr}
    (areClear : ∀ tree ∈ optional, tree.datum.IsClear) :
    ∀ item ∈ dataOfOptional optional, item.IsClear := by
  cases optional with
  | none => exact List.forall_mem_nil _
  | some tree => exact List.forall_mem_singleton.2 (areClear tree rfl)

/-- The datum of an expression that is read from a source is clear. -/
theorem IsMade.isClear (made : tree.IsMade Token.IsRead) :
    tree.Everywhere IsPrintable → tree.datum.IsClear := by
  induction made with
  | number => exact fun printable => .atom (NumberFormat.isAtom_text printable.own).1
  | var read ident => exact fun _ => .atom (read.isAtom_ident ident)
  | @binary operator meaning _ _ read means _ _ left right =>
    intro printable
    have isAtom : Datum.IsAtom meaning.symbol := by
      rw [read.symbol_eq means]
      apply read.isAtom <;> intro kind <;> simp [BinaryMeaning.ofToken?, kind] at means
    exact .list isAtom (List.forall_mem_cons.2 ⟨left (printable.children _ List.mem_cons_self),
      List.forall_mem_singleton.2 (right (printable.children _ (.tail _ List.mem_cons_self)))⟩)
  | @unary operator _ read kind _ operand =>
    intro printable
    have isAtom : Datum.IsAtom (unaryName operator) := by
      rw [read.unaryName_eq]
      apply read.isAtom <;> rcases kind with kind | kind <;> simp [kind]
    exact .list isAtom
      (List.forall_mem_singleton.2 (operand (printable.children _ List.mem_cons_self)))
  | call read ident _ arguments =>
    intro printable
    refine .list (Datum.isAtom_of_decide (by decide)) ?_
    refine List.forall_mem_cons.2 ⟨.atom (read.isAtom_ident ident), areClear_dataOf ?_⟩
    exact fun argument member => arguments argument member (printable.children _ member)
  | conditional _ _ _ _ condition consequent alternative =>
    intro printable
    refine .list (Datum.isAtom_of_decide (by decide)) ?_
    exact List.forall_mem_cons.2 ⟨condition (printable.children _ List.mem_cons_self),
      List.forall_mem_cons.2 ⟨consequent (printable.children _ (.tail _ List.mem_cons_self)),
        List.forall_mem_singleton.2
          (alternative (printable.children _ (.tail _ (.tail _ List.mem_cons_self))))⟩⟩
  | @loop _ _ name initial limit body step _ read ident _ _ _ _ ofInitial ofLimit ofStep ofBody =>
    intro printable
    obtain ⟨first, more⟩ := List.forall_mem_cons.1 printable.children
    obtain ⟨second, others⟩ := List.forall_mem_cons.1 more
    obtain ⟨optional, last⟩ := List.forall_mem_append.1 others
    have header : (Datum.list name (initial.datum :: limit.datum :: dataOfOptional step)).IsClear := by
      refine .list (read.isAtom_ident ident) ?_
      refine List.forall_mem_cons.2 ⟨ofInitial first, List.forall_mem_cons.2 ⟨ofLimit second, ?_⟩⟩
      exact areClear_dataOfOptional fun tree given =>
        ofStep tree given (optional tree (Option.mem_toList.2 given))
    exact .list (Datum.isAtom_of_decide (by decide)) (List.forall_mem_cons.2
      ⟨header, List.forall_mem_singleton.2 (ofBody (last body List.mem_cons_self))⟩)
  | @binding _ _ name initializer body _ _ read ident _ _ ofInitializer ofBody =>
    intro printable
    obtain ⟨optional, last⟩ := List.forall_mem_append.1 printable.children
    have header : (Datum.list name (dataOfOptional initializer)).IsClear :=
      .list (read.isAtom_ident ident) (areClear_dataOfOptional fun tree given =>
        ofInitializer tree given (optional tree (Option.mem_toList.2 given)))
    exact .list (Datum.isAtom_of_decide (by decide)) (List.forall_mem_cons.2
      ⟨header, List.forall_mem_singleton.2 (ofBody (last body List.mem_cons_self))⟩)

end Expr

end Kaleidoscope
