import Kaleidoscope.Syntax.Expr

/-!
# Printed trees

A tree is printed in parentheses with its head first, so `1 + 2 * 3` becomes `(+ 1 (* 2 3))`.
Definitions and declarations print their prototype under the linked name, a binary operator with
its precedence.
-/
namespace Kaleidoscope

namespace Prototype

/-- A prototype: its linked name, the precedence of a binary operator, and the parameters. -/
def render (prototype : Prototype) : String :=
  let precedence := match prototype.kind with
    | .binary precedence => " " ++ NumberFormat.plain.text precedence
    | _ => ""
  "(proto " ++ prototype.linkedName ++ precedence ++
    String.join (prototype.parameters.map (" " ++ ·)) ++ ")"

end Prototype

namespace Expr

mutual

/-- A tree as text. -/
def render : Expr → String
  | number value _ => NumberFormat.plain.text value
  | var name _ => name
  | binary _ meaning left right _ =>
    "(" ++ meaning.symbol ++ " " ++ left.render ++ " " ++ right.render ++ ")"
  | unary operator operand _ => "(" ++ unaryName operator ++ " " ++ operand.render ++ ")"
  | call callee arguments _ => "(call " ++ callee ++ renderAll arguments ++ ")"
  | conditional condition consequent alternative _ =>
    "(if " ++ condition.render ++ " " ++ consequent.render ++ " " ++ alternative.render ++ ")"
  | loop counter start limit step body _ =>
    "(for (" ++ counter ++ " " ++ start.render ++ " " ++ limit.render ++ renderOptional step ++
      ") " ++ body.render ++ ")"
  | binding name initializer body _ =>
    "(var (" ++ name ++ renderOptional initializer ++ ") " ++ body.render ++ ")"
  | prototype signature => signature.render
  | function signature body _ => "(def " ++ signature.render ++ " " ++ body.render ++ ")"
  | declaration signature _ => "(extern " ++ signature.render ++ ")"

/-- Trees in order, a space before each. -/
def renderAll : List Expr → String
  | [] => ""
  | expr :: rest => " " ++ expr.render ++ renderAll rest

/-- A tree that may be left out, with a space before it. -/
def renderOptional : Option Expr → String
  | none => ""
  | some expr => " " ++ expr.render

end

end Expr

end Kaleidoscope
