import Kaleidoscope.Decimal.Notation
import Kaleidoscope.Source.Span

/-!
# Tokens

The words of the language. A token has a kind, the text it was read from, its line, its span, and
for identifiers, operators and numbers the value that it stands for. Operators carry their text as
their value just as identifiers do, so a symbol and a word that name an operator are looked up
alike once it is declared.
-/
namespace Kaleidoscope

/-- The reserved words. -/
inductive Keyword where
  /-- Starts a definition. -/
  | define
  /-- Starts a declaration of a function of the host. -/
  | declare
  /-- Starts a conditional. -/
  | ifWord
  /-- Separates a condition from the value it selects. -/
  | thenWord
  /-- Separates the two values of a conditional. -/
  | elseWord
  /-- Starts a loop. -/
  | forWord
  /-- Separates a binding from its body. -/
  | inWord
  /-- Starts local variables. -/
  | varWord
  /-- Starts the prototype of a unary operator. -/
  | unary
  /-- Starts the prototype of a binary operator. -/
  | binary
deriving DecidableEq

namespace Keyword

/-- All reserved words. -/
def all : List Keyword :=
  [define, declare, ifWord, thenWord, elseWord, forWord, inWord, varWord, unary, binary]

/-- The spelling in source text. -/
def text : Keyword → String
  | define => "def"
  | declare => "extern"
  | ifWord => "if"
  | thenWord => "then"
  | elseWord => "else"
  | forWord => "for"
  | inWord => "in"
  | varWord => "var"
  | unary => "unary"
  | binary => "binary"

/-- The spelling in displays of tokens. -/
def label : Keyword → String
  | define => "Def"
  | declare => "Extern"
  | ifWord => "If"
  | thenWord => "Then"
  | elseWord => "Else"
  | forWord => "For"
  | inWord => "In"
  | varWord => "Var"
  | unary => "Unary"
  | binary => "Binary"

/-- The reserved word with a given spelling. -/
def ofText? (word : String) : Option Keyword := all.find? (·.text = word)

end Keyword

namespace Token

/-- The classes of tokens. -/
inductive Kind where
  /-- The end of the input. -/
  | eof
  /-- A reserved word. -/
  | keyword (keyword : Keyword)
  /-- Any other word. -/
  | ident
  /-- A number literal. -/
  | number
  /-- An opening parenthesis. -/
  | leftParen
  /-- A closing parenthesis. -/
  | rightParen
  /-- A comma. -/
  | comma
  /-- The end of a statement. -/
  | semicolon
  /-- The assignment sign. -/
  | equal
  /-- The equality sign and every other character. -/
  | operator
deriving DecidableEq

namespace Kind

/-- How a kind is named where a parser expects it. -/
def text : Kind → String
  | eof => "end of input"
  | keyword word => word.text
  | ident => "identifier"
  | number => "number"
  | leftParen => "("
  | rightParen => ")"
  | comma => ","
  | semicolon => ";"
  | equal => "="
  | operator => "operator"

/-- How a kind is named in displays of tokens. -/
def label : Kind → String
  | eof => "Eof"
  | keyword word => word.label
  | ident => "Ident"
  | number => "Number"
  | leftParen => "LParen"
  | rightParen => "RParen"
  | comma => "Comma"
  | semicolon => "Semicolon"
  | equal => "Equal"
  | operator => "Operator"

/-- All kinds. -/
def all : List Kind :=
  [eof] ++ Keyword.all.map keyword ++
    [ident, number, leftParen, rightParen, comma, semicolon, equal, operator]

/-- The kind of a given name in displays. -/
def ofLabel? (name : String) : Option Kind := all.find? (·.label = name)

/-- Whether a kind is a reserved word. -/
def isReserved : Kind → Bool
  | keyword _ => true
  | _ => false

end Kind

/-- What a token stands for beyond its kind. -/
inductive Literal where
  /-- The text of an identifier or operator. -/
  | word (text : String)
  /-- The value of a number. -/
  | value (number : Float)
deriving DecidableEq

end Token

/-- A token and where it was read. -/
structure Token where
  /-- Its class. -/
  kind : Token.Kind
  /-- The source text it was read from. -/
  lexeme : String
  /-- The line it stands on, counted from one. -/
  line : UInt32
  /-- Its place in the source. -/
  span : Span
  /-- What it stands for. -/
  literal : Option Token.Literal
deriving DecidableEq

namespace Token

/-- The name that an identifier or operator carries. -/
def name? (token : Token) : Option String :=
  match token.literal with
  | some (.word text) => some text
  | _ => none

/-- The value that a number carries. -/
def number? (token : Token) : Option Float :=
  match token.literal with
  | some (.value number) => some number
  | _ => none

/-- The end of input on a line, at an offset. -/
def endOfInput (line offset : UInt32) : Token := ⟨.eof, "", line, .point offset, none⟩

/-- A token as messages to the programmer name it. -/
def describe (token : Token) : String :=
  match token.kind with
  | .eof => "end of input"
  | .ident => "identifier `" ++ token.lexeme ++ "`"
  | .number => "number `" ++ token.lexeme ++ "`"
  | .keyword _ => "the keyword `" ++ token.lexeme ++ "`"
  | _ => "`" ++ token.lexeme ++ "`"

/-- A token as listings of tokens show it: the line, the kind and the text. -/
def display (token : Token) : String :=
  let line := "[" ++ Nat.repr token.line.toNat ++ "] " ++ token.kind.label
  if token.kind = .eof then line else line ++ " `" ++ token.lexeme ++ "`"

end Token

end Kaleidoscope
