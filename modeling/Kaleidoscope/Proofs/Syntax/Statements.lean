import Kaleidoscope.Proofs.Syntax.Locality

/-!
# Statements are parsed one by one

A statement, well-formed or not, is read within the tokens up to its semicolon, and recovery from an
error stops behind that semicolon at the latest. So the tokens of a program can be cut behind any
semicolon: the front is parsed as if nothing followed, and the rest with the operators known by then
(`Program.ofTokens_append`).
-/
namespace Kaleidoscope

namespace Parse

open Kaleidoscope.Parser (Precedes)

variable {declaring : Prop} {rest : List Token} {bound limit : Nat} {first second : Parser}

/-- A parameter, and the others if they are mirrored where fewer tokens are left. -/
theorem mirrors_parametersTurn {others more : Parse (List String)} {limit : Nat}
    {first second : Parser} (precedes : Precedes rest first second)
    (within : first.remaining ≤ bound) (room : first.remaining < limit)
    (behind : ∀ {later following : Parser}, Precedes rest later following →
      later.remaining < first.remaining →
      Mirrors declaring rest bound limit others more later following) :
    Mirrors declaring rest bound limit (parametersTurn others) (parametersTurn more) first
      second := by
  refine .current precedes ?_
  split
  · refine .bind (mirrors_expectIdent precedes within) ?_
    rintro ⟨name, place⟩ middle second precedes left
    have separated : ∀ early second : Parser, Precedes rest early second →
        early.remaining < middle.remaining + 1 →
        Mirrors declaring rest bound limit
          (others >>= fun others => Pure.pure (name :: others))
          (more >>= fun others => Pure.pure (name :: others)) early second := by
      intro early second precedes left
      refine .bind (behind precedes (by omega)) ?_
      exact fun others last second precedes left => .pure _ precedes left
    refine .isAt .comma precedes fun answer here => ?_
    cases answer with
    | false => exact separated middle second precedes (Nat.lt_succ_self _)
    | true =>
      have comma : middle.current.kind = .comma := by simpa [Parser.isAt] using here
      refine .bind (.step precedes (by simp [comma]) (by simp [comma])) ?_
      exact fun _ later second precedes left => separated later second precedes (by omega)
  · exact .pure _ precedes room
  · exact .unexpected _ precedes within

/-- Parameters up to the closing parenthesis. -/
theorem mirrors_parameters {loop : Nat → Parse (List String)}
    (turns : ∀ bound, loop (bound + 1) = parametersTurn (loop bound)) {fewer more : Nat}
    (limit : Nat) {first second : Parser} (precedes : Precedes rest first second)
    (enough : first.remaining < fewer) (enoughMore : first.remaining < more)
    (within : first.remaining ≤ bound) (room : first.remaining < limit) :
    Mirrors declaring rest bound limit (parameters fewer) (loop more) first second := by
  have mirror : TurnsMirror declaring rest fewer 1
      (fun others (_ : Unit) => parametersTurn (others ()))
      (fun others _ => parametersTurn (others ())) :=
    fun _ precedes _ behind => mirrors_parametersTurn precedes (Nat.le_refl _) (Nat.lt_succ_self _)
      fun precedes left =>
        (behind () precedes left).mono (Nat.le_refl _) (Nat.le_of_lt (Nat.succ_lt_succ left))
  have mirrors := mirror.loops (fun bound _ => parameters bound) (fun bound _ => loop bound)
    (fun bound => funext fun _ => parameters_succ bound) (fun bound => funext fun _ => turns bound)
    () precedes enough enoughMore enough
  exact mirrors.mono within room

/-- What a prototype introduces. -/
theorem mirrors_prototypeHead (precedes : Precedes rest first second)
    (within : first.remaining ≤ bound) :
    Mirrors declaring rest bound first.remaining prototypeHead prototypeHead first second := by
  unfold prototypeHead
  refine .current precedes ?_
  split
  · next unary =>
    refine .bind (.step precedes (by simp [unary]) (by simp [unary])) ?_
    intro _ first second precedes left
    refine .bind (mirrors_expectOperatorName precedes (by omega)) ?_
    exact fun _ first second precedes left => .pure _ precedes (by omega)
  · next binary =>
    refine .bind (.step precedes (by simp [binary]) (by simp [binary])) ?_
    intro _ first second precedes left
    refine .isAt .number precedes fun answer _ => ?_
    cases answer with
    | true =>
      refine .bind (mirrors_expectPrecedence precedes (by omega)) ?_
      intro precedence first second precedes left
      refine .bind (mirrors_expectOperatorName precedes (by omega)) ?_
      exact fun _ first second precedes left => .pure _ precedes (by omega)
    | false =>
      refine .bind (mirrors_expectOperatorName precedes (by omega)) ?_
      intro name first second precedes left
      refine .bind (mirrors_expectPrecedence precedes (by omega)) ?_
      exact fun _ first second precedes left => .pure _ precedes (by omega)
  · refine .bind (mirrors_expectIdent precedes within) ?_
    exact fun _ first second precedes left => .pure _ precedes left

/-- A prototype, with the operators known after it. -/
theorem mirrors_prototype (precedes : Precedes rest first second)
    (within : first.remaining ≤ bound) :
    Mirrors True rest bound first.remaining prototype prototype first second := by
  unfold prototype
  refine .current precedes ?_
  generalize first.current = start
  refine .bind (mirrors_prototypeHead precedes within) ?_
  rintro ⟨name, kind⟩ first second precedes left
  refine .bind (mirrors_expect (by simp) (by simp) precedes (by omega)) ?_
  intro _ first second precedes left
  refine .get (.bind (mirrors_parameters parameters_succ (first.remaining + 1) precedes
    (Nat.lt_succ_self _) precedes.remaining_lt (by omega) (Nat.lt_succ_self _)) ?_)
  intro names first second precedes left
  refine .bind (mirrors_expect (by simp) (by simp) precedes (by omega)) ?_
  intro close first second precedes left
  simp only
  split
  · exact .throw _ precedes (by omega)
  · refine ⟨rfl, .declare precedes (·.declare _), ?_⟩
    show first.remaining < _
    omega

/-- A definition. -/
theorem mirrors_definition (precedes : Precedes rest first second)
    (within : first.remaining ≤ bound) :
    Mirrors True rest bound first.remaining definition definition first second := by
  unfold definition
  refine .bind (mirrors_expect (by simp) (by simp) precedes within) ?_
  intro start first second precedes left
  refine .bind (mirrors_prototype precedes (by omega)) ?_
  intro signature first second precedes left
  refine .bind (mirrors_expression precedes (by omega)) ?_
  exact fun body first second precedes left => .pure _ precedes (by omega)

/-- A declaration. -/
theorem mirrors_declaration (precedes : Precedes rest first second)
    (within : first.remaining ≤ bound) :
    Mirrors True rest bound first.remaining declaration declaration first second := by
  unfold declaration
  refine .bind (mirrors_expect (by simp) (by simp) precedes within) ?_
  intro start first second precedes left
  refine .bind (mirrors_prototype precedes (by omega)) ?_
  exact fun signature first second precedes left => .pure _ precedes (by omega)

/-- A form. -/
theorem mirrors_form (precedes : Precedes rest first second) (within : first.remaining ≤ bound) :
    Mirrors True rest bound first.remaining form form first second := by
  unfold form
  refine .current precedes ?_
  split
  · exact mirrors_definition precedes within
  · exact mirrors_declaration precedes within
  · refine .bind (mirrors_expression precedes within) ?_
    exact fun body first second precedes left => .pure _ precedes left

end Parse

namespace Parser

/-- A parser that sees some tokens and nothing else. -/
def Starts (tokens : List Token) (parser : Parser) : Prop :=
  match tokens with
  | [] => parser.isAt .eof = true
  | token :: ahead => parser.current = token ∧ parser.ahead = ahead

/-- A parser sees the tokens that it starts from. -/
theorem starts_start (tokens : List Token) (operators : OperatorTable) :
    (start tokens operators).Starts tokens := by
  cases tokens with
  | nil => exact decide_eq_true rfl
  | cons => exact ⟨rfl, rfl⟩

namespace Takes

variable {tokens : List Token} {first last : Parser}

/-- The tokens that are left are the first of those that the parser sees. -/
theorem exists_append (takes : Takes tokens first last) {seen : List Token}
    (starts : first.Starts seen) : ∃ rest, seen = tokens ++ rest ∧ last.Starts rest := by
  induction takes generalizing seen with
  | none => exact ⟨seen, rfl, starts⟩
  | @cons _ first _ before _ hypothesis =>
    cases seen with
    | nil => exact absurd (by simpa [Starts, isAt] using starts) before
    | cons token ahead =>
      obtain ⟨rfl, rfl⟩ := starts
      have next : first.advance.Starts first.ahead := by
        obtain ⟨current, ahead, previous, operators⟩ := first
        cases ahead with
        | nil => exact decide_eq_true rfl
        | cons => exact ⟨rfl, rfl⟩
      obtain ⟨rest, same, starts⟩ := hypothesis next
      exact ⟨rest, congrArg _ same, starts⟩

end Takes

/-- Two parsers that read the same statements until the first is at its end and the second at
further tokens. -/
inductive Meets (rest : List Token) (first second : Parser) : Prop
  /-- Both are among the tokens of the first. -/
  | inside (precedes : Precedes rest first second)
  /-- The first has come to its end. -/
  | beyond (ended : first.isAt .eof = true) (starts : second.Starts rest)
      (operators_eq : second.operators = first.operators)

variable {rest : List Token} {first second : Parser}

/-- Further tokens do not stand behind the end of the input. -/
theorem Precedes.eq_nil (precedes : Precedes rest first second)
    (ended : first.isAt .eof = true) : rest = [] := by
  by_cases none : rest = []
  · exact none
  obtain ⟨front, last, same, semicolon, noEnd⟩ := precedes.closes none
  have here : first.current.kind = .eof := by simpa [isAt] using ended
  have member : first.current ∈ front ++ [last] := same ▸ List.mem_cons_self
  rcases List.mem_append.1 member with early | late
  · exact absurd here (noEnd _ early)
  · rw [List.mem_singleton.1 late, semicolon] at here
    contradiction

/-- Leaving a semicolon. -/
theorem Precedes.leave (precedes : Precedes rest first second) :
    first.current.kind = .semicolon → Meets rest first.advance second.advance := by
  intro semicolon
  by_cases more : rest = [] ∨ first.ahead ≠ []
  · exact .inside (precedes.advance_of more)
  · obtain ⟨further, last⟩ := not_or.1 more
    rw [Classical.not_not] at last
    obtain ⟨token, ahead, rfl⟩ := List.exists_cons_of_ne_nil further
    have next := precedes.ahead_eq
    rw [last, List.nil_append] at next
    refine .beyond ?_ ?_ ?_
    · rw [Parser.advance, last]
      rfl
    · rw [Parser.advance, next]
      exact ⟨rfl, rfl⟩
    · rw [Parser.advance, Parser.advance, next, last]
      exact precedes.operators_eq

/-- Recovery that stops at once leaves the parser where it is. -/
theorem recoverWithin_of_isRecovered {parser : Parser} (recovered : parser.isRecovered = true)
    (bound : Nat) : parser.recoverWithin bound = parser := by
  cases bound with
  | zero => rfl
  | succ bound => rw [recoverWithin, if_pos recovered]

/-- The kind of the token that is left is remembered. -/
theorem previous_advance (parser : Parser) :
    parser.advance.previous = some parser.current.kind := by
  rw [advance]
  split <;> rfl

/-- A parser just behind a semicolon has recovered. -/
theorem isRecovered_advance {parser : Parser} (semicolon : parser.current.kind = .semicolon) :
    parser.advance.isRecovered = true := by
  simp [isRecovered, previous_advance, semicolon]

/-- Recovery stops at the same place for related parsers. -/
theorem Precedes.recoverWithin {fewer : Nat} : ∀ (more : Nat) {first second : Parser},
    Precedes rest first second → second.previous = first.previous →
    first.remaining ≤ fewer → first.remaining ≤ more →
    Meets rest (first.recoverWithin fewer) (second.recoverWithin more) ∧
      (first.recoverWithin fewer).remaining ≤ first.remaining := by
  induction fewer with
  | zero =>
    intro more first second precedes _ none _
    have ended : first.isAt .eof = true := by
      rw [← Bool.not_eq_false]
      intro before
      simp [remaining, before] at none
    have recovered : second.isRecovered = true := by
      simp [isRecovered, precedes.isAt_eq, ended]
    rw [recoverWithin_of_isRecovered recovered]
    exact ⟨.inside precedes, Nat.le_refl _⟩
  | succ fewer hypothesis =>
    intro more first second precedes previous enough enoughMore
    have same : second.isRecovered = first.isRecovered := by
      simp only [isRecovered, precedes.isAt_eq, previous]
    cases recovered : first.isRecovered with
    | true =>
      rw [recoverWithin_of_isRecovered recovered, recoverWithin_of_isRecovered (same ▸ recovered)]
      exact ⟨.inside precedes, Nat.le_refl _⟩
    | false =>
      have before : first.isAt .eof = false := by
        simp only [isRecovered, Bool.or_eq_false_iff] at recovered
        exact recovered.1.1.1
      have less := remaining_advance_lt before
      obtain ⟨more, rfl⟩ : ∃ count, more = count + 1 := ⟨more - 1, by omega⟩
      rw [Parser.recoverWithin, Parser.recoverWithin, same, recovered]
      simp only [Bool.false_eq_true, if_false]
      by_cases semicolon : first.current.kind = .semicolon
      · have other : second.current.kind = .semicolon := by rw [precedes.current_eq, semicolon]
        rw [recoverWithin_of_isRecovered (isRecovered_advance semicolon),
          recoverWithin_of_isRecovered (isRecovered_advance other)]
        exact ⟨precedes.leave semicolon, Nat.le_of_lt less⟩
      · have moved : second.advance.previous = first.advance.previous := by
          rw [previous_advance, previous_advance, precedes.current_eq]
        obtain ⟨meets, left⟩ := hypothesis more (precedes.advance semicolon) moved (by omega)
          (by omega)
        exact ⟨meets, by omega⟩

/-- A parser that is not at the end has a token left. -/
theorem remaining_pos {parser : Parser} (before : parser.isAt .eof = false) :
    0 < parser.remaining := by
  simp [remaining, before]

/-- Recovery from the same error ends at the same place, or behind the last semicolon that both
parsers see. It leaves a token unless it is at the end. -/
theorem Precedes.recover (precedes : Precedes rest first second) :
    Meets rest first.recover second.recover ∧
      (first.recover.remaining < first.remaining ∨ first.recover.isAt .eof = true) := by
  unfold Parser.recover
  rw [precedes.isAt_eq]
  cases ended : first.isAt .eof with
  | true =>
    obtain rfl := precedes.eq_nil ended
    have recovered : first.isRecovered = true := by simp [isRecovered, ended]
    have other : second.isRecovered = true := by simp [isRecovered, precedes.isAt_eq, ended]
    simp only [if_true, recoverWithin_of_isRecovered recovered, recoverWithin_of_isRecovered other]
    exact ⟨.inside precedes, .inr ended⟩
  | false =>
    have less := remaining_advance_lt ended
    simp only [Bool.false_eq_true, if_false]
    by_cases semicolon : first.current.kind = .semicolon
    · have other : second.current.kind = .semicolon := by rw [precedes.current_eq, semicolon]
      rw [recoverWithin_of_isRecovered (isRecovered_advance semicolon),
        recoverWithin_of_isRecovered (isRecovered_advance other)]
      exact ⟨precedes.leave semicolon, .inl less⟩
    · have next := precedes.advance semicolon
      have moved : second.advance.previous = first.advance.previous := by
        rw [previous_advance, previous_advance, precedes.current_eq]
      obtain ⟨meets, left⟩ := next.recoverWithin _ moved (Nat.le_refl _)
        (Nat.le_of_lt_succ next.remaining_lt)
      exact ⟨meets, .inl (Nat.lt_of_le_of_lt left less)⟩

/-- A statement is read the same way whatever follows its semicolon. -/
theorem Precedes.statement (precedes : Precedes rest first second) :
    match Parse.statement first, Parse.statement second with
    | .ok form first', .ok same second' =>
      form = same ∧ Meets rest first' second' ∧ first'.remaining < first.remaining
    | .error error first', .error same second' =>
      error = same ∧ Precedes rest first' second' ∧ first'.remaining ≤ first.remaining
    | _, _ => False := by
  have forms := Parse.mirrors_form precedes (Nat.le_refl _)
  unfold Parse.Mirrors at forms
  unfold Parse.statement
  simp only [Bind.bind, EStateM.bind]
  cases left : Parse.form first <;> cases right : Parse.form second <;>
    simp only [left, right] at forms ⊢
  · next form middle _ between =>
    obtain ⟨rfl, ⟨precedes, -⟩, less⟩ := forms
    have same := precedes.isAt_eq .semicolon
    cases here : middle.isAt .semicolon with
    | true =>
      have semicolon : middle.current.kind = .semicolon := by simpa [isAt] using here
      have before : middle.isAt .eof = false := by simp [isAt, semicolon]
      rw [Parse.expect_eq semicolon, Parse.expect_eq (precedes.current_eq ▸ semicolon)]
      exact ⟨rfl, precedes.leave semicolon, Nat.lt_trans (remaining_advance_lt before) less⟩
    | false =>
      rw [Parse.expect_eq_error here, Parse.expect_eq_error (same.trans here),
        precedes.isAt_eq, precedes.current_eq]
      exact ⟨rfl, precedes, Nat.le_of_lt less⟩
  · exact ⟨forms.1, forms.2.1.precedes, forms.2.2⟩

end Parser

namespace Program

/-- Two programs one after the other. -/
def append (front back : Program) : Program :=
  ⟨front.forms ++ back.forms, front.errors ++ back.errors⟩

@[simp] theorem append_empty (program : Program) : program.append empty = program := by
  simp [append, empty]

@[simp] theorem addForm_append (form : Expr) (front back : Program) :
    (front.addForm form).append back = (front.append back).addForm form := rfl

@[simp] theorem addError_append (error : ParseError) (front back : Program) :
    (front.addError error).append back = (front.append back).addError error := rfl

end Program

namespace Parser

variable {rest : List Token} {first second : Parser}

/-- At the end of the input no statement is left. -/
theorem programWithin_of_isAt {parser : Parser} (ended : parser.isAt .eof = true) (bound : Nat) :
    parser.programWithin bound = (.empty, parser) := by
  cases bound with
  | zero => rfl
  | succ bound => rw [programWithin, if_pos ended]

/-- When the first parser is at its end, the second is at the further tokens. -/
theorem Meets.starts (meets : Meets rest first second) (ended : first.isAt .eof = true) :
    second.Starts rest ∧ second.operators = first.operators := by
  cases meets with
  | inside precedes =>
    obtain rfl := precedes.eq_nil ended
    exact ⟨(precedes.isAt_eq _).trans ended, precedes.operators_eq⟩
  | beyond _ starts same => exact ⟨starts, same⟩

/-- Where the statements of the first parser end, those of the further tokens begin. -/
def Continues (rest : List Token) (first : Program × Parser) (second : Program × Parser) : Prop :=
  ∃ (last : Parser) (bound : Nat), last.Starts rest ∧ rest.length ≤ bound ∧
    last.operators = first.2.operators ∧
    second = (first.1.append (last.programWithin bound).1, (last.programWithin bound).2)

/-- The statements of the second parser are those of the first and then those of the further
tokens. -/
theorem Meets.continues {fewer : Nat} : ∀ (more : Nat) {first second : Parser},
    Meets rest first second → rest.length ≤ more →
    (first.isAt .eof = true ∨
      first.remaining ≤ fewer ∧ first.remaining + rest.length ≤ more) →
    Continues rest (first.programWithin fewer) (second.programWithin more) := by
  have atEnd : ∀ {fewer more : Nat} {first second : Parser}, Meets rest first second →
      rest.length ≤ more → first.isAt .eof = true →
      Continues rest (first.programWithin fewer) (second.programWithin more) := by
    intro fewer more first second meets long ended
    obtain ⟨starts, same⟩ := meets.starts ended
    rw [programWithin_of_isAt ended]
    exact ⟨second, more, starts, long, same, rfl⟩
  induction fewer with
  | zero =>
    intro more first second meets long room
    refine atEnd meets long ?_
    rcases room with ended | ⟨none, _⟩
    · exact ended
    · rw [← Bool.not_eq_false]
      exact fun before => absurd (remaining_pos before) (by omega)
  | succ fewer hypothesis =>
    intro more first second meets long room
    cases ended : first.isAt .eof with
    | true => exact atEnd meets long ended
    | false =>
      cases meets with
      | beyond atEof => simp [atEof] at ended
      | inside precedes =>
        have some := remaining_pos ended
        obtain ⟨fits, enough⟩ := room.resolve_left (by simp [ended])
        obtain ⟨more, rfl⟩ : ∃ count, more = count + 1 := ⟨more - 1, by omega⟩
        rw [programWithin, programWithin, precedes.isAt_eq, precedes.isAt_eq, ended]
        cases empty : first.isAt .semicolon with
        | true =>
          have semicolon : first.current.kind = .semicolon := by simpa [isAt] using empty
          have less := remaining_advance_lt ended
          exact hypothesis more (precedes.leave semicolon) (by omega) (.inr (by omega))
        | false =>
          have statements := precedes.statement
          simp only [Bool.false_eq_true, if_false]
          cases left : Parse.statement first <;> cases right : Parse.statement second <;>
            simp only [left, right] at statements ⊢
          · obtain ⟨rfl, meets, less⟩ := statements
            obtain ⟨last, bound, starts, long, same, runs⟩ :=
              hypothesis more meets (by omega) (.inr (by omega))
            exact ⟨last, bound, starts, long, same, by rw [runs, Program.addForm_append]⟩
          · next error first' _ second' =>
            obtain ⟨rfl, precedes, less⟩ := statements
            obtain ⟨meets, progress⟩ := precedes.recover
            obtain ⟨last, bound, starts, long, same, runs⟩ :=
              hypothesis more meets (by omega)
                (progress.symm.imp_right fun progress => by omega)
            exact ⟨last, bound, starts, long, same, by rw [runs, Program.addError_append]⟩

/-- Two parsers at the same tokens with the same operators read the same statements. -/
theorem Starts.programWithin {tokens : List Token} (starts : first.Starts tokens)
    {bound : Nat} (long : tokens.length ≤ bound) :
    ∃ last, first.programWithin bound = ((Program.ofTokens tokens first.operators).1, last) ∧
      last.operators = (Program.ofTokens tokens first.operators).2 := by
  cases tokens with
  | nil =>
    have ended : first.isAt .eof = true := starts
    exact ⟨first, programWithin_of_isAt ended bound, rfl⟩
  | cons token ahead =>
    obtain ⟨rfl, rfl⟩ := starts
    have precedes : Precedes [] (start (first.current :: first.ahead) first.operators) first :=
      ⟨rfl, (List.append_nil _).symm, rfl, fun some => absurd rfl some⟩
    have fits : (start (first.current :: first.ahead) first.operators).remaining ≤ bound := by
      refine Nat.le_trans ?_ long
      simp only [remaining, start, List.length_cons]
      cases isAt _ _ <;> simp
    obtain ⟨last, count, starts, _, same, runs⟩ := (Meets.inside precedes).continues bound
      (Nat.zero_le bound) (.inr ⟨Nat.le_refl _, fits⟩)
    rw [programWithin_of_isAt (show last.isAt .eof = true from starts), Program.append_empty]
      at runs
    exact ⟨last, runs, same⟩

end Parser

namespace Program

/-- Statements are read independently: the tokens up to a semicolon form the same program and the
same errors whatever follows, and what follows is read as on its own, with the operators known by
then. Malformed statements make no difference. -/
theorem ofTokens_append (operators : OperatorTable) {front : List Token} (back : List Token)
    (closed : front = [] ∨ ∃ last ∈ front.getLast?, last.kind = .semicolon)
    (noEnd : ∀ token ∈ front, token.kind ≠ .eof) :
    ofTokens (front ++ back) operators =
      (⟨(ofTokens front operators).1.forms ++
            (ofTokens back (ofTokens front operators).2).1.forms,
          (ofTokens front operators).1.errors ++
            (ofTokens back (ofTokens front operators).2).1.errors⟩,
        (ofTokens back (ofTokens front operators).2).2) := by
  cases front with
  | nil => rfl
  | cons token ahead =>
    have closes : (Parser.start (token :: ahead) operators).Closes := by
      obtain ⟨last, isLast, semicolon⟩ := closed.resolve_left (List.cons_ne_nil _ _)
      obtain ⟨init, same⟩ := List.getLast?_eq_some_iff.1 isLast
      exact ⟨init, last, same, semicolon, fun token member =>
        noEnd token (same ▸ List.mem_append_left _ member)⟩
    have precedes : Parser.Precedes back (Parser.start (token :: ahead) operators)
        (Parser.start (token :: ahead ++ back) operators) :=
      ⟨rfl, rfl, rfl, fun _ => closes⟩
    have long : back.length ≤ (Parser.start (token :: ahead ++ back) operators).remaining := by
      rw [precedes.remaining_eq]
      exact Nat.le_add_left _ _
    obtain ⟨middle, bound, starts, long, same, runs⟩ := (Parser.Meets.inside precedes).continues _
      long (.inr ⟨Nat.le_refl _, Nat.le_of_eq precedes.remaining_eq.symm⟩)
    obtain ⟨last, rest, known⟩ := starts.programWithin long
    rw [rest, same] at runs
    rw [same] at known
    simp only [ofTokens, Parser.program, runs] at known ⊢
    rw [known]
    rfl

/-- Two numbers side by side are malformed, which the number in the next statement does not see. -/
theorem ofTokens_append_malformed :
    let number : Float → Token := fun value => ⟨.number, "", 1, default, some (.value value)⟩
    let semicolon : Token := ⟨.semicolon, ";", 1, default, none⟩
    let front := [number 1, number 2, semicolon]
    let back := [number 3, semicolon]
    (front = [] ∨ ∃ last ∈ front.getLast?, last.kind = .semicolon) ∧
      (∀ token ∈ front, token.kind ≠ .eof) ∧
      (ofTokens front .empty).1.forms.length = 0 ∧ (ofTokens front .empty).1.errors.length = 1 ∧
      (ofTokens (front ++ back) .empty).1.forms.length = 1 ∧
      (ofTokens (front ++ back) .empty).1.errors.length = 1 := by
  intro number semicolon front back
  have closed : front = [] ∨ ∃ last ∈ front.getLast?, last.kind = .semicolon :=
    .inr ⟨semicolon, rfl, rfl⟩
  have noEnd : ∀ token ∈ front, token.kind ≠ .eof := by simp [front, number, semicolon]
  refine ⟨closed, noEnd, by decide +kernel, by decide +kernel, ?_⟩
  rw [ofTokens_append .empty back closed noEnd]
  decide +kernel

end Program

end Kaleidoscope
