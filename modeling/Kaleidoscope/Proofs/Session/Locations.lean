import Kaleidoscope.Diagnostic.Basic
import Kaleidoscope.Proofs.Batch.Locations
import Kaleidoscope.Proofs.Session.Declarations
import Kaleidoscope.Proofs.Syntax.Placing
import Kaleidoscope.Proofs.Token.Coverage

/-!
# Errors point into the source

Every error of a source is shown at a place in that very source, from one character to another
(`Span.PointsInto`), if offsets can count the bytes of the source, and although definitions of earlier sources are lowered again where they are called
and the places in them belong to other texts. An error that belongs to a form is shown inside of that
form (`Session.failures_pointInto`).
-/
namespace Kaleidoscope

/-- A span points into a source: it ends no earlier than it starts and no later than the source does,
and it starts and ends between two characters. -/
structure Span.PointsInto (source : String) (span : Span) : Prop where
  /-- It ends no earlier than it starts. -/
  forward : span.start ≤ span.stop
  /-- It ends no later than the source. -/
  inside : span.stop.toNat ≤ source.utf8ByteSize
  /-- It starts between two characters. -/
  starts : String.Pos.Raw.IsValid source ⟨span.start.toNat⟩
  /-- It ends between two characters. -/
  stops : String.Pos.Raw.IsValid source ⟨span.stop.toNat⟩

/-- In a source something can start and end between any two characters. -/
def Landmarks.ofSource (source : String) : Landmarks where
  IsStart offset := String.Pos.Raw.IsValid source ⟨offset.toNat⟩
  IsEnd offset := String.Pos.Raw.IsValid source ⟨offset.toNat⟩

variable {source : String}

/-- Spans from one place between characters to another point into the source. -/
theorem Span.IsAligned.pointsInto {span : Span}
    (aligned : span.IsAligned (.ofSource source)) : span.PointsInto source :=
  ⟨aligned.forward, aligned.isEnd.le_rawEndPos, aligned.isStart, aligned.isEnd⟩

/-- The end of a source whose bytes can be counted points into it. -/
theorem Span.pointsInto_end (short : source.utf8ByteSize < UInt32.size - 1) :
    (Span.point (.ofNat source.utf8ByteSize)).PointsInto source := by
  have same : (UInt32.ofNat source.utf8ByteSize).toNat = source.utf8ByteSize :=
    UInt32.toNat_ofNat_of_lt' (Nat.lt_trans short (by decide))
  have ends : String.Pos.Raw.IsValid source ⟨(UInt32.ofNat source.utf8ByteSize).toNat⟩ :=
    same.symm ▸ String.Pos.Raw.isValid_rawEndPos
  exact ⟨UInt32.le_refl _, Nat.le_of_eq same, ends, ends⟩

/-- The width of what stands before some text is a place between two characters. -/
theorem isValid_width {front : List Char} (back : List Char) (split : source.toList = front ++ back) :
    String.Pos.Raw.IsValid source ⟨Span.width front⟩ := by
  refine String.Pos.Raw.isValid_iff_exists_append.2 ⟨.ofList front, .ofList back, ?_, ?_⟩
  · rw [← String.ofList_append, ← split, String.ofList_toList]
  · rw [Span.width_eq]
    rfl

/-- What stands for a text of a source stands between two characters. -/
theorem Item.Stands.aligned {item : Item} (stands : Item.Stands source.toList item) :
    (Item.span item).IsAligned (.ofSource source) := by
  have forward := UInt32.le_of_lt stands.start_lt_stop
  obtain ⟨before, text, after, split, _, start, stop, _⟩ := stands
  have starts := isValid_width (text ++ after) (by rw [split, List.append_assoc])
  have stops := isValid_width after split
  rw [← start] at starts
  rw [← stop] at stops
  exact ⟨forward, starts, stops⟩

/-- The tokens and errors of a source that is not empty stand in it. -/
theorem aligned_items (nonempty : source ≠ "") (short : source.utf8ByteSize < UInt32.size - 1) :
    ∀ item ∈ (Lexer.ofSource source).items.map (·.2),
      (Item.span item).IsAligned (.ofSource source) := by
  intro item member
  have covers := Lexer.covers_ofSource nonempty short
  obtain ⟨line, offset, last, -, stop⟩ := covers.last
  rw [← List.dropLast_append_getLast? _ last, List.mem_append, List.mem_singleton] at member
  rcases member with inner | rfl
  · exact (covers.stands item inner).aligned
  · have ends : String.Pos.Raw.IsValid source ⟨offset.toNat⟩ :=
      stop ▸ isValid_width [] (List.append_nil _).symm
    exact ⟨UInt32.le_refl _, ends, ends⟩

/-- An empty source has nothing but its end, which is one behind its start. -/
theorem Cursor.items_empty : (start "").items = [.ok (.endOfInput 1 1)] := by
  have nothing : (start "").skip.rest = [] := rfl
  rw [items, dif_pos nothing]
  rfl

/-- An empty source has no token but its end. -/
theorem Token.scan_empty : Token.scan "" = .ok [.endOfInput 1 1] := by
  rw [scan_eq_mapM, Cursor.items_empty]
  rfl

/-- The error of a source that cannot be read stands in it. -/
theorem Token.aligned_of_scan_error {error : LexicalError}
    (scanned : Token.scan source = .error error) (short : source.utf8ByteSize < UInt32.size - 1) :
    error.span.IsAligned (.ofSource source) := by
  obtain ⟨item, inside, rfl⟩ := exists_of_mapM_error ((Token.scan_eq_mapM source).symm.trans scanned)
  have nonempty : source ≠ "" := by
    rintro rfl
    rw [Cursor.items_empty, List.mem_singleton] at inside
    contradiction
  exact aligned_items nonempty short _ (Lexer.items_ofSource source ▸ inside)

/-- The tokens of a source that is not empty stand in order. -/
theorem Parser.isOrdered_start {tokens : List Token} (nonempty : source ≠ "")
    (short : source.utf8ByteSize < UInt32.size - 1) (scanned : Token.scan source = .ok tokens)
    (operators : OperatorTable) :
    (Parser.start tokens operators).IsOrdered (.ofSource source) := by
  have items := Token.items_of_scan scanned
  rw [← Lexer.items_ofSource] at items
  have covers := Lexer.covers_ofSource nonempty short
  have ordered := covers.ordered
  have aligned := aligned_items nonempty short
  obtain ⟨line, offset, last, -⟩ := covers.last
  rw [items] at last ordered aligned
  have pending : (Parser.start tokens operators).pending = tokens := by
    cases tokens with
    | nil => exact absurd last (by simp)
    | cons token rest => rfl
  refine ⟨fun token member => ?_, ?_, fun token member => ?_⟩ <;> rw [pending] at *
  · exact aligned _ (List.mem_map_of_mem member)
  · rw [List.map_map, List.pairwise_map] at ordered
    exact ordered
  · rw [List.getLast?_map, Option.mem_def.1 member] at last
    cases last
    exact UInt32.le_refl _

/-- The forms of a source are nested in it, and the errors of its malformed statements stand in it. -/
theorem Program.nested_ofTokens {tokens : List Token} (scanned : Token.scan source = .ok tokens)
    (short : source.utf8ByteSize < UInt32.size - 1) (operators : OperatorTable) :
    (∀ tree ∈ (Program.ofTokens tokens operators).1.forms,
        tree.IsNested (Span.IsAligned (.ofSource source))) ∧
      ∀ error ∈ (Program.ofTokens tokens operators).1.errors,
        error.span.IsAligned (.ofSource source) := by
  by_cases nonempty : source = ""
  · subst nonempty
    obtain rfl := Except.ok.inj (Token.scan_empty.symm.trans scanned)
    exact ⟨List.forall_mem_nil _, List.forall_mem_nil _⟩
  · exact Parser.nested_programWithin _ (Parser.isOrdered_start nonempty short scanned operators)

namespace Session

variable {session after : Session} {history : List Declared} {execution : Execution}
  {answer : Answer}

/-- A syntax error is shown in its source: at the end of it, or at its own place. -/
theorem placeOf_pointsInto {error : ParseError} (aligned : error.span.IsAligned (.ofSource source))
    (short : source.utf8ByteSize < UInt32.size - 1) :
    (Failure.placeOf source error).PointsInto source := by
  unfold Failure.placeOf
  split
  · exact Span.pointsInto_end short
  · exact aligned.pointsInto

/-- An error of a form is shown at its place. -/
theorem label_span_eq {path : String} {error : FormError} {snippet : Snippet}
    (shown : (error.diagnostic path source).snippet = some snippet) :
    snippet.source = source ∧ error.span = some snippet.label.span ∧ snippet.others = [] := by
  unfold FormError.diagnostic at shown
  cases place : error.span with
  | none =>
    rw [place] at shown
    contradiction
  | some span =>
    rw [place] at shown
    cases shown
    exact ⟨rfl, rfl, rfl⟩

/-- Every error of a source whose bytes can be counted is shown at a place in that very source, if it
has one, and an error that belongs to a form stands inside of that form. -/
theorem failures_pointInto (reachable : session.Reachable history)
    (short : source.utf8ByteSize < UInt32.size - 1)
    (done : session.run execution source = some (answer, after)) :
    (∀ failure ∈ answer.failures, ∀ snippet ∈ failure.diagnostic.snippet,
      snippet.source = source ∧ snippet.label.span.PointsInto source ∧ snippet.others = []) ∧
    ∀ error ∈ answer.formErrors, ∀ index, error.index = some index →
      ∃ program next form span, session.parse source = .ok (program, next) ∧
        program.forms[index]? = some form ∧ error.span = some span ∧ span.Within form.span := by
  unfold Session.run at done
  cases scanned : Token.scan source with
  | error error =>
    simp only [parse, scanned] at done
    cases done
    refine ⟨List.forall_mem_singleton.2 fun snippet shown => ?_, fun _ none => by contradiction⟩
    obtain rfl := Option.some.inj shown
    exact ⟨rfl, (Token.aligned_of_scan_error scanned short).pointsInto, rfl⟩
  | ok tokens =>
    have named := Token.isNamed_of_scan scanned
    have reads := Parser.reads_program (Parser.isNamed_start named session.operators)
    obtain ⟨nested, aligned⟩ := Program.nested_ofTokens scanned short session.operators
    have read : session.parse source = .ok ((Program.ofTokens tokens session.operators).1,
        { session with operators := (Program.ofTokens tokens session.operators).2 }) := by
      simp only [parse, scanned]
    simp only [read, runProgram, Option.bind_eq_bind] at done
    obtain ⟨⟨report, evaluator⟩, ran, done⟩ := Option.bind_eq_some_iff.1 done
    cases done
    obtain ⟨plan, reached⟩ := reachable.stands.reachable
    have inside := reached.isInside_runBatch reads.areForms nested ran
    constructor
    · refine List.forall_mem_append.2 ⟨fun failure member => ?_, fun failure member => ?_⟩
      · obtain ⟨error, found, rfl⟩ := List.mem_map.1 member
        intro snippet shown
        obtain rfl := Option.some.inj shown
        exact ⟨rfl, placeOf_pointsInto (aligned error found) short, rfl⟩
      · obtain ⟨error, found, rfl⟩ := List.mem_map.1 member
        intro snippet shown
        obtain ⟨same, place, none⟩ := label_span_eq shown
        have within := inside error found
        cases owner : error.index with
        | none => exact absurd (place.symm.trans (within.ofUnit owner)) (by simp)
        | some index =>
          obtain ⟨span, stands, form, _, isAligned, _⟩ := within.ofForm index owner
          obtain rfl := Option.some.inj (place.symm.trans stands)
          exact ⟨same, isAligned.pointsInto, none⟩
    · intro error member index owner
      rw [formErrors_eq] at member
      obtain ⟨span, stands, form, listed, _, within⟩ := (inside error member).ofForm index owner
      refine ⟨_, _, form, span, read, ?_, stands, within⟩
      exact List.mk_mem_zipIdx_iff_getElem?.1 listed

/-- A definition is lowered again where another one of an earlier source is called, and fails. -/
theorem failures_pointInto_stale :
    ∃ (session after : Session) (history : List Declared) (answer : Answer),
      session.Reachable history ∧ "def g(a b) a; f(1);".utf8ByteSize < UInt32.size - 1 ∧
      session.run ⟨⟨.none, 4⟩, 10⟩ "def g(a b) a; f(1);" = some (answer, after) ∧
      answer.formErrors.map (·.span) = [some ⟨14, 18⟩] ∧
      (∀ failure ∈ answer.failures, ∀ snippet ∈ failure.diagnostic.snippet,
        snippet.source = "def g(a b) a; f(1);" ∧
          snippet.label.span.PointsInto "def g(a b) a; f(1);" ∧ snippet.others = []) ∧
      ∀ error ∈ answer.formErrors, ∀ index, error.index = some index →
        ∃ program next form span, session.parse "def g(a b) a; f(1);" = .ok (program, next) ∧
          program.forms[index]? = some form ∧ error.span = some span ∧ span.Within form.span := by
  have gives : ((Session.new interactive false []).runAll ⟨⟨.none, 4⟩, 10⟩ []
      ["def g(x) x;                    def f(x) g(x);"]).bind (fun reached =>
        (reached.1.run ⟨⟨.none, 4⟩, 10⟩ "def g(a b) a; f(1);").map fun outcome =>
          outcome.1.formErrors.map (·.span)) = some [some ⟨14, 18⟩] := by
    decide +kernel
  obtain ⟨⟨session, history⟩, earlier, gives⟩ := Option.bind_eq_some_iff.1 gives
  obtain ⟨⟨answer, after⟩, done, same⟩ := Option.map_eq_some_iff.1 gives
  have reachable := (Reachable.new interactive false []).runAll _ earlier
  have points := failures_pointInto reachable (by decide) done
  exact ⟨session, after, history, answer, reachable, by decide, done, same, points.1, points.2⟩

end Session

end Kaleidoscope
