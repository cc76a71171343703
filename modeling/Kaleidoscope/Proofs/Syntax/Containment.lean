import Kaleidoscope.Proofs.Session.Locations
import Kaleidoscope.Proofs.Syntax.Making
import Kaleidoscope.Proofs.Token.Lines

/-!
# Trees and the tokens they are read from

The places of a form and of all trees below it start and end where tokens that are left for the form
do, and the place of every tree contains those of its children (`Program.nested_forms`). That they
start and end at tokens ahead, in the order of the source, is known from the grammar
(`Parse.places_form`); what remains is that these tokens do not stand behind the form. The first one
there is a semicolon, so no token from there on ends where the form does or earlier, and none starts
where a tree of the form starts, since every tree has at least one byte (`Expr.IsMadeForm.isWide`).
-/
namespace Kaleidoscope

variable {marks : Landmarks}

/-- Places that start where one of some tokens starts, and end where one of them ends. -/
def Landmarks.ofTokens (tokens : List Token) : Landmarks where
  IsStart offset := ∃ token ∈ tokens, token.span.start = offset
  IsEnd offset := ∃ token ∈ tokens, token.span.stop = offset

/-- A span has at least one byte. -/
def Span.IsWide (span : Span) : Prop := span.start < span.stop

/-- What covers a span with a byte has one. -/
theorem Span.IsWide.join {span : Span} (wide : span.IsWide) (last : Span) :
    (span.join last).IsWide := by
  have start := span.start_join_le last
  unfold IsWide at *
  rw [stop_join]
  lia

/-- A prototype that is made of tokens with bytes has a byte. -/
theorem Prototype.IsMade.isWide {signature : Prototype}
    (made : signature.IsMade (·.span.IsWide)) :
    (Expr.prototype signature).Everywhere (·.span.IsWide) := by
  obtain ⟨start, outer, held, same⟩ := made.place
  have wide : signature.span.IsWide := same ▸ held.join outer
  exact .node wide (List.forall_mem_nil _)

namespace Expr

variable {tree : Expr}

/-- Every expression that is made of tokens with bytes has a byte, and so do those below it. -/
theorem IsMade.isWide (made : tree.IsMade (·.span.IsWide)) : tree.Everywhere (·.span.IsWide) := by
  induction made with
  | number held | var held => exact .node held (List.forall_mem_nil _)
  | binary _ _ _ _ left right =>
    exact .node (left.own.join _) (List.forall_mem_cons.2 ⟨left, List.forall_mem_singleton.2 right⟩)
  | unary held _ _ operand => exact .node (held.join _) (List.forall_mem_singleton.2 operand)
  | call held _ _ arguments => exact .node (held.join _) arguments
  | conditional held _ _ _ condition consequent alternative =>
    exact .node (held.join _) (List.forall_mem_cons.2 ⟨condition,
      List.forall_mem_cons.2 ⟨consequent, List.forall_mem_singleton.2 alternative⟩⟩)
  | loop held _ _ _ _ _ _ initial limit step body =>
    refine .node (held.join _) (List.forall_mem_cons.2 ⟨initial, List.forall_mem_cons.2 ⟨limit, ?_⟩⟩)
    refine List.forall_mem_append.2 ⟨fun child member => ?_, List.forall_mem_singleton.2 body⟩
    exact step child (Option.mem_toList.1 member)
  | binding held _ _ _ _ initializer body =>
    refine .node (held.join _) ?_
    refine List.forall_mem_append.2 ⟨fun child member => ?_, List.forall_mem_singleton.2 body⟩
    exact initializer child (Option.mem_toList.1 member)

/-- Every form that is made of tokens with bytes has a byte, and so do the trees below it. The
prototype of an expression to run stands where the expression does. -/
theorem IsMadeForm.isWide (made : tree.IsMadeForm (·.span.IsWide)) :
    tree.Everywhere (·.span.IsWide) := by
  cases made with
  | job ofBody =>
    have body := ofBody.isWide
    exact .node body.own (List.forall_mem_cons.2 ⟨.node body.own (List.forall_mem_nil _),
      List.forall_mem_singleton.2 body⟩)
  | definition held ofSignature ofBody =>
    exact .node (held.join _) (List.forall_mem_cons.2 ⟨ofSignature.isWide,
      List.forall_mem_singleton.2 ofBody.isWide⟩)
  | declaration held ofSignature =>
    exact .node (held.join _) (List.forall_mem_singleton.2 ofSignature.isWide)

/-- What holds of the places of a nested tree may follow from what is known of its trees. -/
theorem IsNested.imp {holds other : Span → Prop} {known : Expr → Prop} (nested : tree.IsNested holds)
    (everywhere : tree.Everywhere known)
    (implies : ∀ tree : Expr, holds tree.span → known tree → other tree.span) :
    tree.IsNested other := by
  induction nested with
  | node own within _ hypothesis =>
    exact .node (implies _ own everywhere.own) within fun child below =>
      hypothesis child below (everywhere.children _ below)

end Expr

namespace Parser

variable {parser next last : Parser} {tokens others : List Token}

/-- The tokens between two parsers are determined by them. -/
theorem Takes.tokens_eq (takes : Takes tokens parser last) (other : Takes others parser last) :
    tokens = others := by
  induction takes generalizing others with
  | none =>
    have none := other.remaining_le
    exact (List.length_eq_zero_iff.1 (by omega)).symm
  | @cons tokens first last before rest hypothesis =>
    obtain ⟨-, same⟩ | ⟨others, rfl, more⟩ := other.inversion
    · have some := (Takes.cons before rest).remaining_le
      rw [same, List.length_cons] at some
      omega
    · rw [hypothesis more]

/-- Tokens in order start and end where tokens do. -/
theorem IsOrdered.ofTokens (isOrdered : parser.IsOrdered marks) :
    parser.IsOrdered (.ofTokens parser.pending) where
  aligned token member :=
    ⟨(isOrdered.aligned token member).forward, ⟨token, member, rfl⟩, ⟨token, member, rfl⟩⟩
  ordered := isOrdered.ordered
  empty := isOrdered.empty

/-- No token that has not been left starts before the current one. -/
theorem IsOrdered.offset_le (isOrdered : parser.IsOrdered marks) :
    ∀ token ∈ parser.pending, parser.offset ≤ token.span.start := by
  refine List.forall_mem_cons.2 ⟨UInt32.le_refl _, fun token member => ?_⟩
  exact UInt32.le_trans isOrdered.current.forward
    (List.rel_of_pairwise_cons isOrdered.ordered member)

/-- Every token that has not been left ends behind the start of the current one, if that has a
byte. -/
theorem IsOrdered.offset_lt (isOrdered : parser.IsOrdered marks) (wide : parser.current.span.IsWide) :
    ∀ token ∈ parser.pending, parser.offset < token.span.stop := by
  refine List.forall_mem_cons.2 ⟨wide, fun token member => ?_⟩
  have after := List.rel_of_pairwise_cons isOrdered.ordered member
  have forward := (isOrdered.aligned token (List.mem_cons_of_mem _ member)).forward
  unfold Span.IsWide at wide
  unfold offset
  lia

/-- The tokens ahead are those that are left, and then those that are ahead of the last parser. -/
theorem pending_eq (consumes : parser.Consumes tokens last) (before : last.current.kind ≠ .eof) :
    parser.pending = tokens ++ last.pending := by
  have itself : parser.Starts parser.pending := ⟨rfl, rfl⟩
  obtain ⟨rest, same, starts⟩ := Takes.exists_append consumes itself
  cases rest with
  | nil => exact absurd (of_decide_eq_true starts) before
  | cons token rest =>
    obtain ⟨rfl, rfl⟩ := starts
    exact same

end Parser

namespace Parse

open Kaleidoscope.Parser (pending_eq)

variable {parser next : Parser} {tree : Expr} {consumed : List Token}

/-- A statement is a form in front of a semicolon. -/
theorem form_of_statement (read : statement parser = .ok tree next) :
    ∃ middle, form parser = .ok tree middle ∧ middle.current.kind = .semicolon ∧
      next = middle.advance := by
  unfold statement at read
  simp only [Bind.bind, EStateM.bind] at read
  cases ran : form parser with
  | error error middle =>
    rw [ran] at read
    contradiction
  | ok found middle =>
    rw [ran] at read
    cases here : middle.isAt .semicolon with
    | false =>
      simp only [expect_eq_error here] at read
      contradiction
    | true =>
      have semicolon : middle.current.kind = .semicolon := of_decide_eq_true here
      simp only [expect_eq semicolon] at read
      cases read
      exact ⟨middle, rfl, semicolon, rfl⟩

/-- A statement is read from the tokens that are left for it: the places of its trees are those of
tokens before the semicolon. -/
theorem nested_of_statement (isOrdered : parser.IsOrdered marks)
    (offers : parser.Offers (·.span.IsWide)) (read : statement parser = .ok tree next)
    (consumes : parser.Consumes consumed next) :
    ∃ left semicolon, consumed = left ++ [semicolon] ∧ semicolon.kind = .semicolon ∧
      tree.IsNested (Span.IsAligned (.ofTokens left)) := by
  obtain ⟨middle, ran, semicolon, rfl⟩ := form_of_statement read
  have before : middle.current.kind ≠ .eof := by simp [semicolon]
  have crosses := (mirrors_form (.refl parser) (Nat.le_refl _)).crosses
  have places := places_form isOrdered.ofTokens
  unfold Advances at places
  simp only [ran] at crosses places
  obtain ⟨⟨left, crosses⟩, -⟩ := crosses
  obtain ⟨inOrder, -, placed⟩ := places
  have ahead := pending_eq crosses.consumes before
  obtain ⟨others, made⟩ := makes_form offers _ _ ran
  have wide : middle.current.span.IsWide := others _ List.mem_cons_self before
  refine ⟨left, middle.current, ?_, semicolon, ?_⟩
  · exact consumes.tokens_eq (crosses.consumes.trans (.advance before))
  · -- What starts or ends at a token behind the form starts or ends behind the form.
    have inside : tree.span.Within ⟨parser.offset, middle.offset⟩ := ⟨placed.after, placed.before⟩
    have confined := placed.nested.confined inside
    refine confined.imp made.isWide fun tree own some => ?_
    obtain ⟨aligned, -, stops⟩ := own
    simp only at stops
    unfold Span.IsWide at some
    refine ⟨aligned.forward, ?_, ?_⟩
    · obtain ⟨token, member, same⟩ := aligned.isStart
      rw [ahead] at member
      refine ⟨token, (List.mem_append.1 member).resolve_right fun behind => ?_, same⟩
      have after := inOrder.offset_le token behind
      lia
    · obtain ⟨token, member, same⟩ := aligned.isEnd
      rw [ahead] at member
      refine ⟨token, (List.mem_append.1 member).resolve_right fun behind => ?_, same⟩
      have after := inOrder.offset_lt wide token behind
      lia

end Parse

namespace Parser

variable {parser last : Parser} {items : List (List Token × Item)}

/-- Every form of a program is read from the tokens that are left for it. -/
theorem Completes.nested (completes : parser.Completes items last) (isOrdered : parser.IsOrdered marks)
    (offers : parser.Offers (·.span.IsWide)) :
    ∀ consumed form, (consumed, .form form) ∈ items →
      ∃ left semicolon, consumed = left ++ [semicolon] ∧ semicolon.kind = .semicolon ∧
        form.IsNested (Span.IsAligned (.ofTokens left)) := by
  refine completes.forall_form
    (fun parser (known : parser.IsOrdered marks ∧ parser.Offers (·.span.IsWide)) =>
      ⟨known.1.advance, known.2.advance⟩) ?_ ?_ ⟨isOrdered, offers⟩
  · intro parser next tree tokens known read consumes
    have places := Parse.places_statement known.1
    unfold Parse.Advances at places
    rw [read] at places
    exact ⟨⟨places.1, (known.2.takes consumes).1⟩,
      Parse.nested_of_statement known.1 known.2 read consumes⟩
  · intro parser next error tokens known read consumes
    have places := Parse.places_statement known.1
    unfold Parse.Advances at places
    rw [read] at places
    exact ⟨places.1.recover, (known.2.takes consumes).1⟩

end Parser

variable {source : String} {tokens : List Token}

/-- Every token of a source but its end has a byte. -/
theorem Token.isWide_of_scan (scanned : Token.scan source = .ok tokens)
    (short : source.utf8ByteSize < UInt32.size - 1) :
    ∀ token ∈ tokens, token.kind ≠ .eof → token.span.IsWide := by
  intro token member before
  by_cases nonempty : source = ""
  · subst nonempty
    obtain rfl := Except.ok.inj (Token.scan_empty.symm.trans scanned)
    obtain rfl := List.mem_singleton.1 member
    exact absurd rfl before
  · have covers := Lexer.covers_ofSource nonempty short
    obtain ⟨line, offset, last, -⟩ := covers.last
    have inside : Except.ok token ∈ (Lexer.ofSource source).items.map (·.2) := by
      rw [Lexer.items_ofSource, items_of_scan scanned]
      exact List.mem_map_of_mem member
    rw [← List.dropLast_append_getLast? _ last, List.mem_append, List.mem_singleton] at inside
    rcases inside with inner | last
    · exact (covers.stands _ inner).start_lt_stop
    · cases last
      exact absurd rfl before

/-- The tokens of a source stand in order, also if it is empty. -/
theorem Parser.isOrdered_start_tokens (scanned : Token.scan source = .ok tokens)
    (short : source.utf8ByteSize < UInt32.size - 1) (operators : OperatorTable) :
    (start tokens operators).IsOrdered (.ofTokens (start tokens operators).pending) := by
  by_cases nonempty : source = ""
  · subst nonempty
    obtain rfl := Except.ok.inj (Token.scan_empty.symm.trans scanned)
    refine ⟨List.forall_mem_singleton.2 ?_, List.pairwise_singleton _ _, ?_⟩
    · exact ⟨UInt32.le_refl _, ⟨_, List.mem_cons_self, rfl⟩, ⟨_, List.mem_cons_self, rfl⟩⟩
    · rintro token ⟨⟩
      exact UInt32.le_refl _
  · exact (isOrdered_start nonempty short scanned operators).ofTokens

namespace Program

/-- Every form of a source whose bytes can be counted is read from tokens of its own, which are left for
it in front of a semicolon. The place of every tree of the form ends no earlier than it starts, starts where one of
these tokens does and ends where one of them does, and contains the places of the tree's children. -/
theorem nested_forms (scanned : Token.scan source = .ok tokens)
    (short : source.utf8ByteSize < UInt32.size - 1) (operators : OperatorTable) :
    ∃ items, (Parser.start tokens operators).Completes items
        (Parser.start tokens operators).program.2 ∧
      items.flatMap (·.1) = tokens.takeWhile (·.kind ≠ .eof) ∧
      (ofTokens tokens operators).1.forms = items.filterMap (·.2.form?) ∧
      ∀ consumed form, (consumed, .form form) ∈ items →
        ∃ left semicolon, consumed = left ++ [semicolon] ∧ semicolon.kind = .semicolon ∧
          form.IsNested (Span.IsAligned (.ofTokens left)) := by
  obtain ⟨items, completes, forms, -⟩ := Parser.completes_programWithin
    (Parser.start tokens operators).remaining (.inr (Nat.le_refl _))
  refine ⟨items, completes, ?_, forms, ?_⟩
  · exact completes.consumes.eq_takeWhile (Parser.starts_start tokens operators) completes.ended
  · exact completes.nested (Parser.isOrdered_start_tokens scanned short operators)
      (Parser.offers_start (Token.isWide_of_scan scanned short) operators)

/-- A definition with parentheses around its whole body, a conditional in parentheses, and a `var in`
without local variables, none of which has a place of its own. -/
theorem nested_forms_parentheses :
    let source := "; def f(x) (var in (if x then -x else (f(1))) + 2);"
    ∃ tokens, Token.scan source = .ok tokens ∧ source.utf8ByteSize < UInt32.size - 1 ∧
      (ofTokens tokens ⟨[], ["-"]⟩).1.forms.map (fun form => form.span :: form.children.map (·.span)) =
        [[⟨2, 49⟩, ⟨6, 10⟩, ⟨20, 49⟩]] ∧
      ∃ items, (Parser.start tokens ⟨[], ["-"]⟩).Completes items
          (Parser.start tokens ⟨[], ["-"]⟩).program.2 ∧
        items.flatMap (·.1) = tokens.takeWhile (·.kind ≠ .eof) ∧
        (ofTokens tokens ⟨[], ["-"]⟩).1.forms = items.filterMap (·.2.form?) ∧
        ∀ consumed form, (consumed, .form form) ∈ items →
          ∃ left semicolon, consumed = left ++ [semicolon] ∧ semicolon.kind = .semicolon ∧
            form.IsNested (Span.IsAligned (.ofTokens left)) := by
  intro source
  have spans : (Token.scan source).toOption.map (fun tokens =>
      (ofTokens tokens ⟨[], ["-"]⟩).1.forms.map (fun form =>
        form.span :: form.children.map (·.span))) = some [[⟨2, 49⟩, ⟨6, 10⟩, ⟨20, 49⟩]] := by
    decide +kernel
  cases scanned : Token.scan source with
  | error error =>
    rw [scanned] at spans
    contradiction
  | ok tokens =>
    rw [scanned] at spans
    exact ⟨tokens, rfl, by decide, Option.some.inj spans, nested_forms scanned (by decide) _⟩

/-- Behind so many blanks that the offsets start again from zero within a name, the expression that the
name is ends before it starts, so it is not nested, whatever tokens it is read from. -/
theorem not_nested_of_wrapped :
    let source := String.ofList (List.replicate 4294967294 ' ') ++ "abcd;"
    ∃ tokens form, Token.scan source = .ok tokens ∧ form ∈ (ofTokens tokens ⟨[], []⟩).1.forms ∧
      form.span = ⟨4294967294, 2⟩ ∧ ¬form.span.start ≤ form.span.stop ∧
      ∀ marks, ¬form.IsNested (Span.IsAligned marks) := by
  intro source
  have blank : ∀ c ∈ List.replicate 4294967294 ' ', Text.isBlank c = true ∧ c ≠ '\n' :=
    fun c member => List.eq_of_mem_replicate member ▸ ⟨by decide, by decide⟩
  have alone : Token.scan "abcd;" = .ok [⟨.ident, "abcd", 1, ⟨0, 4⟩, some (.word "abcd")⟩,
      ⟨.semicolon, ";", 1, ⟨4, 5⟩, none⟩, .endOfInput 1 5] := by
    decide +kernel
  have scanned := Token.scan_append_blanks blank (by decide : "abcd;" ≠ "") alone
  rw [Span.width_replicate] at scanned
  refine ⟨_, .anonymous (.var "abcd" ⟨4294967294, 2⟩), scanned, List.mem_singleton.2 rfl, rfl,
    by decide, fun marks nested => absurd nested.own.forward (by decide)⟩

end Program

end Kaleidoscope
