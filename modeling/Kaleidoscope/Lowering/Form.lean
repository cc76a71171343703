import Kaleidoscope.Lowering.Expr

/-!
# Lowering of forms

A form is lowered outside any routine. If that fails, what the form has introduced under its own
name is undone: the registry means by the name what it meant before, and a routine declared for it
is forgotten unless code already calls it.
-/
namespace Kaleidoscope

namespace Expr

mutual

/-- How many definitions a tree holds, itself included. -/
def definitionCount : Expr → Nat
  | number _ _ | var _ _ | prototype _ | declaration _ _ => 0
  | binary _ _ left right _ => left.definitionCount + right.definitionCount
  | unary _ operand _ => operand.definitionCount
  | call _ arguments _ => definitionCountAll arguments
  | conditional condition consequent alternative _ =>
    condition.definitionCount + consequent.definitionCount + alternative.definitionCount
  | loop _ start limit step body _ =>
    start.definitionCount + limit.definitionCount + definitionCountOptional step +
      body.definitionCount
  | binding _ initializer body _ => definitionCountOptional initializer + body.definitionCount
  | function _ body _ => body.definitionCount + 1

/-- How many definitions some trees hold. -/
def definitionCountAll : List Expr → Nat
  | [] => 0
  | expr :: rest => expr.definitionCount + definitionCountAll rest

/-- How many definitions a tree that may be left out holds. -/
def definitionCountOptional : Option Expr → Nat
  | none => 0
  | some expr => expr.definitionCount

end

end Expr

namespace Entry

/-- How many definitions an entry holds, itself included. -/
def definitionCount : Entry → Nat
  | function _ body => body.definitionCount + 1
  | declaration _ => 0

end Entry

namespace Registry

/-- How many definitions the entries hold: a bound on how deeply they can nest when they are
lowered on demand. -/
def definitionCount (registry : Registry) : Nat :=
  registry.entries.foldr (fun entry count => entry.2.definitionCount + count) 0

end Registry

namespace Lower

/-- The routine of a tree; an expression has none. -/
def asRoutine (span : Span) : Artifact → Lower Nat
  | .routine id => return id
  | .value _ => throw (.expectedFunction span)

/-- Undo what a failed form has introduced under a name, given the state before it. -/
def undo (name : String) (before after : Lowering) : Lowering :=
  let builder :=
    if (before.builder.lookup? name).isSome then after.builder
    else match after.builder.lookup? name with
      | some id => after.builder.forget id
      | none => after.builder
  { after with
    builder := builder
    registry := after.registry.restore name (before.registry.lookup? name) }

/-- Do something for a form, and undo its introductions if that fails. Expressions to run
introduce nothing. -/
def undoingOnError {α : Type} (form : Expr) (action : Lower α) : Lower α := fun before =>
  match action before with
  | .ok value after => .ok value after
  | .error error after =>
    if form.isAnonymous then .error error after
    else match form.linkedName? with
      | some name => .error error (undo name before after)
      | none => .error error after

/-- Lower a form and yield its routine. -/
def form (form : Expr) : Lower Nat :=
  match form.prototype? with
  | none => throw (.expectedFunction form.span)
  | some _ => undoingOnError form do
    let depth := (← get).registry.definitionCount + form.definitionCount
    asRoutine form.span (← lower (recallWithin depth) .empty form)

end Lower

end Kaleidoscope
