import Kaleidoscope.Proofs.Syntax.Prototypes
import Kaleidoscope.Proofs.Syntax.Writing

/-!
# Accepting a text

An action accepts a text if it succeeds wherever the text stands, leaves exactly its tokens, and
yields a value with some property (`Parse.Accepts`). What stands behind the text matters only
through the kind of the next token: an action may look one token further than its own before it
stops, as an expression that is not enclosed goes on at an operator. Texts are put together token by
token (`Accepts.leave`) and part by part (`Accepts.bind`).
-/
namespace Kaleidoscope

namespace Parser

/-- A parser is at some tokens, up to their places, and others are behind them. -/
structure Faces (table : OperatorTable) (text behind : List Token) (parser : Parser) : Prop where
  /-- The operators that are known. -/
  operators_eq : parser.operators = table
  /-- The tokens that have not been left. -/
  pending_eq : ∃ front, parser.pending = front ++ behind ∧
    front.map Token.bare = text.map Token.bare

namespace Faces

variable {table : OperatorTable} {text front back behind : List Token} {token last : Token}
  {parser : Parser}

/-- The first token of a text is the current one. -/
theorem bare_current (faces : parser.Faces table (token :: text) behind) :
    parser.current.bare = token.bare := by
  obtain ⟨front, pending, same⟩ := faces.pending_eq
  cases front with
  | nil => contradiction
  | cons first others =>
    have here : parser.current = first := (List.cons.inj pending).1
    have own : first.bare = token.bare := (List.cons.inj same).1
    rw [here, own]

/-- Without a text, the parser is at what is behind it. -/
theorem current_eq (faces : parser.Faces table [] (last :: behind)) : parser.current = last := by
  obtain ⟨front, pending, same⟩ := faces.pending_eq
  obtain rfl : front = [] := List.map_eq_nil_iff.1 same
  exact (List.cons.inj pending).1

/-- Leaving the first token of a text. -/
theorem advance (faces : parser.Faces table (token :: text) (last :: behind)) :
    parser.advance.Faces table text (last :: behind) where
  operators_eq := by rw [operators_advance, faces.operators_eq]
  pending_eq := by
    obtain ⟨front, all, same⟩ := faces.pending_eq
    cases front with
    | nil => contradiction
    | cons first others =>
      refine ⟨others, ?_, (List.cons.inj same).2⟩
      have ahead : parser.ahead = others ++ last :: behind := (List.cons.inj all).2
      rw [← ahead]
      unfold Parser.advance pending
      cases more : parser.ahead with
      | nil => simp [more] at ahead
      | cons => rfl

/-- Where a text is cut, its first part stands before the rest. -/
theorem cut (faces : parser.Faces table (front ++ token :: back) behind) :
    ∃ next others, next.bare = token.bare ∧ parser.Faces table front (next :: others) ∧
      ∀ {other : OperatorTable} {later : Parser}, later.Faces other [] (next :: others) →
        later.Faces other (token :: back) behind := by
  obtain ⟨whole, pending, same⟩ := faces.pending_eq
  rw [List.map_append, List.map_cons, List.map_eq_append_iff] at same
  obtain ⟨start, stop, rfl, before, after⟩ := same
  obtain ⟨next, others, rfl, own, rest⟩ := List.map_eq_cons_iff.1 after
  refine ⟨next, others ++ behind, own, ⟨faces.operators_eq, start, ?_, before⟩, ?_⟩
  · simpa using pending
  · rintro other later ⟨known, front, pending, none⟩
    obtain rfl : front = [] := List.map_eq_nil_iff.1 none
    exact ⟨known, next :: others, pending, by rw [List.map_cons, List.map_cons, own, rest]⟩

/-- The tokens of a text have not been left. -/
theorem length_le (faces : parser.Faces table text (last :: behind)) :
    text.length ≤ parser.remaining := by
  obtain ⟨front, pending, same⟩ := faces.pending_eq
  have long := congrArg List.length same
  have total := congrArg List.length pending
  simp only [Parser.pending, List.length_map, List.length_append, List.length_cons] at long total
  unfold remaining
  omega

end Faces

end Parser

namespace Parse

open Kaleidoscope.Parser (Faces)

/-- An action succeeds at a text that is followed by a token of the right kind, leaves exactly the
text, and yields a value with some property. It may change the table of operators. -/
def Accepts {α : Type} (before after : OperatorTable) (action : Parse α) (text : List Token)
    (follow : Token.Kind → Prop) (post : α → Prop) : Prop :=
  ∀ (parser : Parser) (last : Token) (behind : List Token),
    parser.Faces before text (last :: behind) → follow last.kind →
    ∃ value next, action parser = .ok value next ∧ next.Faces after [] (last :: behind) ∧ post value

variable {α β : Type} {before middle after table : OperatorTable} {action : Parse α}
  {next : α → Parse β} {text front back : List Token} {token : Token}
  {follow between : Token.Kind → Prop} {early : α → Prop} {post : β → Prop}

namespace Accepts

/-- Yielding a value. -/
theorem pure {value : α} (holds : early value) :
    Accepts table table (pure value : Parse α) [] follow early :=
  fun _ _ _ faces _ => ⟨value, _, rfl, faces, holds⟩

/-- Less may be asked of the value, and more of what is behind. -/
theorem imp {late : α → Prop} (accepts : Accepts before after action text between early)
    (allowed : ∀ kind, follow kind → between kind) (weaker : ∀ value, early value → late value) :
    Accepts before after action text follow late := by
  intro parser last behind faces follows
  obtain ⟨value, stop, done, left, holds⟩ := accepts _ _ _ faces (allowed _ follows)
  exact ⟨value, stop, done, left, weaker value holds⟩

/-- A text in front of one kind of token. -/
theorem inFrontOf {kind : Token.Kind} (accepts : Accepts before after action text follow early)
    (allowed : follow kind) : Accepts before after action text (· = kind) early :=
  accepts.imp (fun _ same => same ▸ allowed) fun _ => id

/-- One action after another, where the second has a text of its own. -/
theorem bind (first : Accepts before middle action front between early)
    (allowed : between token.kind)
    (second : ∀ value, early value →
      Accepts middle after (next value) (token :: back) follow post) :
    Accepts before after (action >>= next) (front ++ token :: back) follow post := by
  intro parser last behind faces follows
  obtain ⟨own, others, same, before, restore⟩ := faces.cut
  have allowed : between own.kind := Token.kind_eq_of_bare_eq same ▸ allowed
  obtain ⟨value, between, done, left, holds⟩ := first _ _ _ before allowed
  obtain ⟨final, stop, ended, rest, result⟩ := second value holds _ _ _ (restore left) follows
  refine ⟨final, stop, ?_, rest, result⟩
  show EStateM.bind action next parser = _
  rw [EStateM.bind, done]
  exact ended

/-- One action after another, where the second only looks at what is behind. -/
theorem last (first : Accepts before middle action text follow early)
    (second : ∀ value, early value → Accepts middle after (next value) [] follow post) :
    Accepts before after (action >>= next) text follow post := by
  intro parser last behind faces follows
  obtain ⟨value, between, done, left, holds⟩ := first _ _ _ faces follows
  obtain ⟨final, stop, ended, rest, result⟩ := second value holds _ _ _ left follows
  refine ⟨final, stop, ?_, rest, result⟩
  show EStateM.bind action next parser = _
  rw [EStateM.bind, done]
  exact ended

/-- Going on with a value that is known. -/
theorem known {value : α} (back : Accepts before after (next value) text follow post) :
    Accepts before after (Pure.pure value >>= next) text follow post :=
  back

/-- Looking at the parser. -/
theorem get {next : Parser → Parse β}
    (back : ∀ parser last behind, parser.Faces before text (last :: behind) → follow last.kind →
      Accepts before after (next parser) text follow post) :
    Accepts before after ((MonadState.get : Parse Parser) >>= next) text follow post :=
  fun _ _ _ faces follows => back _ _ _ faces follows _ _ _ faces follows

/-- Looking at the token that is current. -/
theorem peek {next : Token → Parse β}
    (back : ∀ own, Accepts before after (next own) text follow post) :
    Accepts before after (current >>= next) text follow post :=
  fun parser _ _ faces follows => back parser.current _ _ _ faces follows

/-- Looking at the token behind. -/
theorem peekBehind {next : Token → Parse β}
    (back : ∀ own : Token, follow own.kind → Accepts before after (next own) [] follow post) :
    Accepts before after (current >>= next) [] follow post :=
  fun _ _ _ faces follows =>
    back _ (faces.current_eq.symm ▸ follows) _ _ _ faces follows

/-- Looking at the first token of a text. -/
theorem current {next : Token → Parse β}
    (back : ∀ own : Token, own.bare = token.bare →
      Accepts before after (next own) (token :: text) follow post) :
    Accepts before after (current >>= next) (token :: text) follow post :=
  fun _ _ _ faces follows => back _ faces.bare_current _ _ _ faces follows

/-- Asking for the kind of the first token of a text. -/
theorem isAt {next : Bool → Parse β} {kind : Token.Kind} (answer : Bool)
    (known : decide (token.kind = kind) = answer)
    (back : Accepts before after (next answer) (token :: text) follow post) :
    Accepts before after (isAt kind >>= next) (token :: text) follow post := by
  intro parser last behind faces follows
  have own : parser.isAt kind = answer := by
    rw [← known, Parser.isAt, Token.kind_eq_of_bare_eq faces.bare_current]
  show ∃ value stop, next (parser.isAt kind) parser = .ok value stop ∧ _
  rw [own]
  exact back _ _ _ faces follows

/-- Asking for a kind that is not behind. -/
theorem isNotAt {next : Bool → Parse β} {kind : Token.Kind}
    (other : ∀ found, follow found → found ≠ kind)
    (back : Accepts before after (next false) [] follow post) :
    Accepts before after (Parse.isAt kind >>= next) [] follow post := by
  intro parser last behind faces follows
  have own : parser.isAt kind = false := by
    rw [Parser.isAt, faces.current_eq]
    exact decide_eq_false (other _ follows)
  show ∃ value stop, next (parser.isAt kind) parser = .ok value stop ∧ _
  rw [own]
  exact back _ _ _ faces follows

/-- Leaving the first token of a text with an action that is made for it. -/
theorem leave {result : Token → α}
    (read : ∀ parser : Parser, parser.current.bare = token.bare →
      action parser = .ok (result parser.current) parser.advance)
    (back : ∀ own : Token, own.bare = token.bare →
      Accepts before after (next (result own)) text follow post) :
    Accepts before after (action >>= next) (token :: text) follow post := by
  intro parser last behind faces follows
  have own := faces.bare_current
  show ∃ value stop, EStateM.bind action next parser = .ok value stop ∧ _
  rw [EStateM.bind, read parser own]
  exact back _ own _ _ _ faces.advance follows

/-- Leaving the first token of a text. -/
theorem step {next : Token → Parse β}
    (back : ∀ own : Token, own.bare = token.bare →
      Accepts before after (next own) text follow post) :
    Accepts before after (step >>= next) (token :: text) follow post :=
  leave (fun _ _ => rfl) back

/-- Leaving the first token of a text, which is of the right kind. -/
theorem expect {next : Token → Parse β} {kind : Token.Kind} (here : token.kind = kind)
    (back : ∀ own : Token, own.bare = token.bare →
      Accepts before after (next own) text follow post) :
    Accepts before after (expect kind >>= next) (token :: text) follow post :=
  leave (fun _ own => expect_eq ((Token.kind_eq_of_bare_eq own).trans here)) back

/-- An action that leaves one token, and what comes after it. -/
theorem first (first : Accepts before middle action [token] (fun _ => True) early)
    (second : ∀ value, early value → Accepts middle after (next value) text follow post) :
    Accepts before after (action >>= next) (token :: text) follow post := by
  cases text with
  | nil => exact (first.imp (fun _ _ => trivial) fun _ => id).last second
  | cons other back =>
    have cut : [token] ++ other :: back = token :: other :: back := rfl
    exact cut ▸ first.bind trivial second

/-- An action that leaves one token and yields what it stands for and its place. -/
theorem placed {action : Parse (α × Span)} {next : α × Span → Parse β} {known : α}
    (own : Accepts before middle action [token] (fun _ => True) fun found => found.1 = known)
    (back : ∀ span, Accepts middle after (next (known, span)) text follow post) :
    Accepts before after (action >>= next) (token :: text) follow post := by
  refine own.first fun found same => ?_
  obtain ⟨other, span⟩ := found
  obtain rfl : other = known := same
  exact back span

/-- Leaving an identifier. -/
theorem expectIdent {next : String × Span → Parse β} {name : String} (named : name ≠ "")
    (back : ∀ span, Accepts before after (next (name, span)) text follow post) :
    Accepts before after (expectIdent >>= next) (.word name :: text) follow post := by
  have own : Accepts before before Parse.expectIdent [.word name] (fun _ => True)
      fun found => found.1 = name := by
    refine .current fun own same => ?_
    rw [Token.kind_eq_of_bare_eq same, Token.name?_eq_of_bare_eq same]
    show Accepts before before (if name.isEmpty = true then _ else _) _ _ _
    rw [if_neg (by simpa using named)]
    exact .step fun _ _ => .pure rfl
  exact own.placed back

/-- Leaving the name of an operator. -/
theorem expectOperatorName {next : String × Span → Parse β} {name : String} (named : name ≠ "")
    (back : ∀ span, Accepts before after (next (name, span)) text follow post) :
    Accepts before after (expectOperatorName >>= next) (.sign name :: text) follow post := by
  have own : Accepts before before Parse.expectOperatorName [.sign name] (fun _ => True)
      fun found => found.1 = name := by
    refine .current fun own same => ?_
    have kind : own.kind = .ident ∨ own.kind = .operator := by
      rw [Token.kind_eq_of_bare_eq same]
      exact Token.kind_sign name
    rw [Token.name?_eq_of_bare_eq same]
    show Accepts before before
      (if (own.kind = .ident ∨ own.kind = .operator) ∧ !name.isEmpty then _ else _) _ _ _
    rw [if_pos ⟨kind, by simpa using named⟩]
    exact .step fun _ _ => .pure rfl
  exact own.placed back

variable {lexeme : String} {value : Float}

/-- Leaving a number. -/
theorem expectNumber {next : Float × Span → Parse β}
    (back : ∀ span, Accepts before after (next (value, span)) text follow post) :
    Accepts before after (expectNumber >>= next) (.numeral lexeme value :: text) follow post := by
  have own : Accepts before before Parse.expectNumber [.numeral lexeme value] (fun _ => True)
      fun found => found.1 = value := by
    refine .current fun own same => ?_
    rw [Token.kind_eq_of_bare_eq same, Token.number?_eq_of_bare_eq same]
    exact .step fun _ _ => .pure rfl
  exact own.placed back

/-- Leaving a precedence. -/
theorem expectPrecedence {next : Float → Parse β} (finite : value.isFinite = true)
    (positive : 0 < value) (back : Accepts before after (next value) text follow post) :
    Accepts before after (expectPrecedence >>= next) (.numeral lexeme value :: text) follow
      post := by
  have own : Accepts before before Parse.expectPrecedence [.numeral lexeme value] (fun _ => True)
      (· = value) := by
    refine .current fun own same => ?_
    have number : own.kind = .number := Token.kind_eq_of_bare_eq same
    rw [if_pos number]
    refine .expectNumber fun span => ?_
    show Accepts before before (if (value.isFinite && decide (0 < value)) = true then _ else _) _ _ _
    rw [if_pos (by simp [finite, positive])]
    exact .pure rfl
  exact own.first fun found same => same ▸ back

end Accepts

end Parse

end Kaleidoscope
