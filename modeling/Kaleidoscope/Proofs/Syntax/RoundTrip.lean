import Kaleidoscope.Proofs.Syntax.Rereading
import Kaleidoscope.Proofs.Syntax.Statements
import Kaleidoscope.Proofs.Syntax.Tables

/-!
# Every form can be written and read back

With a table of operators that parsing has led to, the tokens of a form and its semicolon are read
as that form alone and without an error (`Program.ofTokens_write`). The form itself is accepted in
front of a semicolon, so its statement is read, and nothing is left but the end of the input.
-/
namespace Kaleidoscope

namespace Parser

variable {operators : OperatorTable} {form : Expr} {layout : Layout} {parser : Parser}
  {last : Token} {behind : List Token}

/-- A form that has been written is read up to the token behind it, where that is a semicolon, and
the semicolon is left. -/
theorem statement_write (positive : operators.IsPositive)
    (writable : form.IsWritableForm operators)
    (faces : parser.Faces operators (form.writeForm layout) (last :: behind))
    (semicolon : last.kind = .semicolon) :
    ∃ (read : Expr) (middle : Parser), Parse.statement parser = .ok read middle.advance ∧
      middle.pending = last :: behind ∧ read.bare = form.bare := by
  obtain ⟨after, accepts⟩ := Parse.accepts_form layout positive writable
  have stops : last.kind.Stops := semicolon ▸ by decide
  obtain ⟨read, middle, done, left, same⟩ := accepts parser last behind faces stops
  have here : middle.current.kind = .semicolon := left.current_eq ▸ semicolon
  refine ⟨read, middle, ?_, ?_, same⟩
  · show EStateM.bind Parse.form _ parser = _
    rw [EStateM.bind, done]
    show EStateM.bind (Parse.expect .semicolon) _ middle = _
    rw [EStateM.bind, Parse.expect_eq here]
    rfl
  · obtain ⟨front, pending, none⟩ := left.pending_eq
    obtain rfl : front = [] := List.map_eq_nil_iff.1 none
    exact pending

/-- Behind a last token, the input is at its end. -/
theorem isAt_advance_eof (pending : parser.pending = last :: behind)
    (ends : ∀ token ∈ behind.head?, token.kind = .eof) : parser.advance.isAt .eof = true := by
  obtain ⟨current, ahead, previous, operators⟩ := parser
  obtain ⟨_, rfl⟩ := List.cons.inj pending
  cases ahead with
  | nil => rfl
  | cons token rest => exact decide_eq_true (ends token rfl)

/-- A program of one statement. -/
theorem program_of_statement {read : Expr} {next : Parser}
    (begins : parser.current.kind ∉ [Token.Kind.eof, .semicolon])
    (done : Parse.statement parser = .ok read next) (ended : next.isAt .eof = true) :
    parser.program = (⟨[read], []⟩, next) := by
  have more : parser.isAt .eof = false := by simp_all [isAt]
  have some : parser.isAt .semicolon = false := by simp_all [isAt]
  obtain ⟨bound, room⟩ := Nat.exists_eq_add_of_lt (remaining_pos more)
  rw [program, room, Nat.zero_add, programWithin, more, some, done]
  simp only [Bool.false_eq_true, if_false]
  rw [programWithin_of_isAt ended]
  rfl

end Parser

namespace Program

/-- Every form can be written and is read back: with a table of operators that parsing has led to,
its tokens and a semicolon, wherever they stand, form a program of that form alone, up to places and
without an error. -/
theorem ofTokens_write {operators : OperatorTable} (parsed : operators.IsParsed) {form : Expr}
    (writable : form.IsWritableForm operators) (layout : Layout) {tokens ending : List Token}
    (written : tokens.map Token.bare =
      (form.writeForm layout ++ [Token.ofKind .semicolon]).map Token.bare)
    (ends : ∀ token ∈ ending.head?, token.kind = .eof) :
    ∃ read, (ofTokens (tokens ++ ending) operators).1 = ⟨[read], []⟩ ∧ read.bare = form.bare := by
  rw [List.map_append, List.map_eq_append_iff] at written
  obtain ⟨front, back, rfl, before, closes⟩ := written
  obtain ⟨last, none, rfl, semicolon, empty⟩ := List.map_eq_cons_iff.1 closes
  obtain rfl : none = [] := List.map_eq_nil_iff.1 empty
  obtain ⟨token, rest, same, others⟩ := writable.begins layout
  rw [same] at before
  obtain ⟨first, ahead, rfl, own, _⟩ := List.map_eq_cons_iff.1 before
  have whole : first :: ahead ++ [last] ++ ending = first :: (ahead ++ last :: ending) := by simp
  have faces : (Parser.start (first :: (ahead ++ last :: ending)) operators).Faces operators
      (form.writeForm layout) (last :: ending) :=
    ⟨rfl, first :: ahead, rfl, by rw [same, before]⟩
  obtain ⟨read, middle, done, pending, isForm⟩ := Parser.statement_write parsed.isPositive writable
    faces (Token.kind_eq_of_bare_eq semicolon)
  have kind : first.kind ∉ [Token.Kind.eof, .semicolon] := Token.kind_eq_of_bare_eq own ▸ others
  have ended := Parser.isAt_advance_eof pending ends
  refine ⟨read, ?_, isForm⟩
  rw [ofTokens, whole, Parser.program_of_statement kind done ended]

/-- A binary operator whose body has itself and operators of both kinds that a source has declared;
one of them is a word. -/
theorem ofTokens_write_itself :
    let table : OperatorTable := ⟨[("or", 5)], ["!"]⟩
    let layout : Layout := ⟨fun _ => "6", true, true, false⟩
    let a : Expr := .var "a" default
    let b : Expr := .var "b" default
    let either : Expr := .binary (.sign "or") (.user "or") (.unary (.sign "!") a default) b default
    let both : Expr :=
      .binary (.sign "&") (.user "&") b (.call "f" [a, .number 1 default] default) default
    let body : Expr := .binding "x" (some either)
      (.loop "i" a both (some b) (.var "x" default) default) default
    let form : Expr := .function ⟨"&", ["a", "b"], .binary 6, default⟩ body default
    table.IsParsed ∧ form.IsWritableForm table ∧
      ∃ read, (ofTokens (form.writeForm layout ++ [.ofKind .semicolon] ++ []) table).1 =
        ⟨[read], []⟩ ∧ read.bare = form.bare := by
  intro table layout a b either both body form
  have parsed : table.IsParsed :=
    .of_source "extern unary !(v); def binary or 5 (a b) if a then 1 else b;" (by decide +kernel)
  have writable : form.IsWritableForm table := by
    refine .definition (by decide) ⟨by decide, by decide, fun precedence same => ?_, by decide⟩ ?_
    · cases same
      decide +kernel
    · show body.IsWritable (table.declareBinary "&" 6)
      decide +kernel
  exact ⟨parsed, writable, ofTokens_write parsed writable layout rfl (by simp)⟩

end Program

end Kaleidoscope
