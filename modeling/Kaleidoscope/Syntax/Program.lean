import Kaleidoscope.Syntax.Grammar
import Kaleidoscope.Token.Lexer

/-!
# Programs

A program is a list of statements, each ended by a semicolon; empty ones are skipped. A malformed
statement is reported and passed over: parsing goes on after its semicolon, or earlier at the next
`if` or `for`. Forms and errors come in source order.
-/
namespace Kaleidoscope

/-- The forms of a program and the errors of its malformed statements. -/
structure Program where
  /-- The well-formed statements in order. -/
  forms : List Expr
  /-- The errors in order. -/
  errors : List ParseError

namespace Program

/-- A program without statements. -/
def empty : Program := ⟨[], []⟩

/-- A program with one more form in front. -/
def addForm (form : Expr) (program : Program) : Program :=
  { program with forms := form :: program.forms }

/-- A program with one more error in front. -/
def addError (error : ParseError) (program : Program) : Program :=
  { program with errors := error :: program.errors }

end Program

namespace Parser

/-- Whether recovery stops here: at the end, just after a semicolon, or at a word that starts a
conditional or a loop. -/
def isRecovered (parser : Parser) : Bool :=
  parser.isAt .eof || parser.previous = some .semicolon ||
    parser.isAt (.keyword .forWord) || parser.isAt (.keyword .ifWord)

/-- Leave tokens until recovery stops, at most the given number. -/
def recoverWithin : Nat → Parser → Parser
  | 0, parser => parser
  | bound + 1, parser =>
    if parser.isRecovered then parser else recoverWithin bound parser.advance

/-- Leave the offending token and then whatever belongs to the malformed statement. -/
def recover (parser : Parser) : Parser :=
  let next := if parser.isAt .eof then parser else parser.advance
  recoverWithin next.remaining next

/-- Parse statements up to the end of the input, at most the given number. -/
def programWithin : Nat → Parser → Program × Parser
  | 0, parser => (.empty, parser)
  | bound + 1, parser =>
    if parser.isAt .eof then (.empty, parser)
    else if parser.isAt .semicolon then programWithin bound parser.advance
    else match Parse.statement parser with
      | .ok form next =>
        let (program, last) := programWithin bound next
        (program.addForm form, last)
      | .error error next =>
        let (program, last) := programWithin bound next.recover
        (program.addError error, last)

/-- Parse every statement up to the end of the input. -/
def program (parser : Parser) : Program × Parser := programWithin parser.remaining parser

end Parser

namespace Program

/-- The program that some tokens form, and the operators known after it. -/
def ofTokens (tokens : List Token) (operators : OperatorTable) : Program × OperatorTable :=
  let (program, last) := (Parser.start tokens operators).program
  (program, last.operators)

end Program

end Kaleidoscope
