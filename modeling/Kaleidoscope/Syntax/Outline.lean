import Kaleidoscope.Syntax.Expr
import Kaleidoscope.Text.Quoted

/-!
# Outlines of trees

The full content of a tree, one field a line: tokens and places are shown with everything else,
which the printed form leaves out. Records are indented by four, every entry ends with a comma,
and names stand between quotes.
-/
namespace Kaleidoscope

/-- The lines of an outline. -/
abbrev Outline := List String

namespace Outline

/-- Put a comma after the last line. -/
def ended : Outline → Outline
  | [] => []
  | [line] => [line ++ ","]
  | line :: rest => line :: ended rest

/-- An entry of a record, a wrapper or a list: indented, and ended by a comma. -/
def entry (lead : String) : Outline → Outline
  | [] => []
  | line :: rest => (ended ((lead ++ line) :: rest)).map ("    " ++ ·)

/-- Something shown on one line. -/
def atom (text : String) : Outline := [text]

/-- A name with fields. -/
def record (name : String) (fields : List (String × Outline)) : Outline :=
  (name ++ " \x7b") :: ((fields.map fun (field, value) => entry (field ++ ": ") value).flatten ++ ["\x7d"])

/-- A name with one thing in it. -/
def wrap (name : String) (content : Outline) : Outline :=
  (name ++ "(") :: (entry "" content ++ [")"])

/-- A list. -/
def items (contents : List Outline) : Outline :=
  if contents.isEmpty then ["[]"] else "[" :: ((contents.map (entry "")).flatten ++ ["]"])

/-- Something that may be missing. -/
def optional : Option Outline → Outline
  | none => ["None"]
  | some content => wrap "Some" content

/-- Quoted text. -/
def text (text : String) : Outline := [Text.quoted text]

/-- A natural number. -/
def natural (number : Nat) : Outline := [Nat.repr number]

/-- A double. -/
def double (number : Float) : Outline := [NumberFormat.marked.text number]

end Outline

open Outline

/-- The outline of a span. -/
def Span.outline (span : Span) : Outline :=
  record "SrcSpan" [("start", natural span.start.toNat), ("end", natural span.stop.toNat)]

namespace Token

/-- The outline of what a token stands for. -/
def Literal.outline : Literal → Outline
  | word name => wrap "Ident" (Outline.text name)
  | value number => wrap "Number" (double number)

/-- The outline of a token. -/
def outline (token : Token) : Outline :=
  record "Token" [("kind", atom token.kind.label), ("lexeme", Outline.text token.lexeme),
    ("line", natural token.line.toNat), ("span", token.span.outline),
    ("literal", Outline.optional (token.literal.map Literal.outline))]

end Token

/-- The outline of what a binary operator does. -/
def BinaryMeaning.outline : BinaryMeaning → Outline
  | builtin .add => atom "Add"
  | builtin .subtract => atom "Subtract"
  | builtin .multiply => atom "Multiply"
  | builtin .lessThan => atom "LessThan"
  | builtin .equal => atom "Equal"
  | assign => atom "Assign"
  | user name => wrap "User" (Outline.text name)

/-- The outline of what a prototype introduces. -/
def PrototypeKind.outline : PrototypeKind → Outline
  | function => atom "Function"
  | unary => atom "UnaryOperator"
  | binary precedence => record "BinaryOperator" [("precedence", double precedence)]

/-- The outline of a prototype. -/
def Prototype.outline (prototype : Prototype) : Outline :=
  record "Prototype" [("name", Outline.text prototype.name),
    ("parameters", items (prototype.parameters.map Outline.text)),
    ("kind", prototype.kind.outline), ("location", prototype.span.outline)]

namespace Expr

/-- A node of a tree: its class is named twice, around it and on it, and its place comes last. -/
def node (name : String) (fields : List (String × Outline)) (span : Span) : Outline :=
  wrap name (record name (fields ++ [("location", span.outline)]))

mutual

/-- The outline of a tree. -/
def outline : Expr → Outline
  | number value span => node "Number" [("value", double value)] span
  | var name span => node "Variable" [("name", Outline.text name)] span
  | binary operator meaning left right span =>
    node "Binary" [("operator", operator.outline), ("kind", meaning.outline),
      ("left", left.outline), ("right", right.outline)] span
  | unary operator operand span =>
    node "Unary" [("operator", operator.outline), ("operand", operand.outline)] span
  | call callee arguments span =>
    node "Call" [("callee", Outline.text callee), ("arguments", items (outlineAll arguments))] span
  | conditional condition consequent alternative span =>
    node "If" [("condition", condition.outline), ("then", consequent.outline),
      ("otherwise", alternative.outline)] span
  | loop counter start limit step body span =>
    node "For" [("variable", Outline.text counter), ("start", start.outline),
      ("end", limit.outline), ("step", Outline.optional (outlineOptional step)),
      ("body", body.outline)] span
  | binding name initializer body span =>
    node "VarIn" [("name", Outline.text name),
      ("initializer", Outline.optional (outlineOptional initializer)), ("body", body.outline)] span
  | prototype signature => wrap "Prototype" signature.outline
  | function signature body span =>
    node "Function" [("prototype", signature.outline), ("body", body.outline)] span
  | declaration signature span => node "Extern" [("prototype", signature.outline)] span

/-- The outlines of some trees. -/
def outlineAll : List Expr → List Outline
  | [] => []
  | expr :: rest => expr.outline :: outlineAll rest

/-- The outline of a tree that may be left out. -/
def outlineOptional : Option Expr → Option Outline
  | none => none
  | some expr => some expr.outline

end

/-- The outline of a tree as text, ended by a line break. -/
def outlineText (expr : Expr) : String := String.join (expr.outline.map (· ++ "\n"))

end Expr

end Kaleidoscope
