import Kaleidoscope.Proofs.Syntax.Forms

/-!
# Where trees stand

The tokens of a source stand in order, each from one offset to another, and every tree is read off
some of them. Its span starts where a token starts and ends where a token ends, and the spans of its
children lie inside it (`Expr.IsNested`): a rule joins the place of its first token or child with that
of its last, and everything that it reads in between stands between them. What carries this through
the grammar is that no rule goes back: the offset of a parser never decreases, and a tree stands
between the offsets at which its rule starts and ends (`Expr.IsPlaced`). Errors stand at tokens or
trees, so their places are of the same kind (`Parse.Advances`).
-/
namespace Kaleidoscope

/-- The offsets at which something can start, and those at which something can end. -/
structure Landmarks where
  /-- Something can start here. -/
  IsStart : UInt32 → Prop
  /-- Something can end here. -/
  IsEnd : UInt32 → Prop

variable {marks : Landmarks}

namespace Span

/-- A span from an offset where something can start to one where something can end. -/
structure IsAligned (marks : Landmarks) (span : Span) : Prop where
  /-- It ends no earlier than it starts. -/
  forward : span.start ≤ span.stop
  /-- Something can start at its start. -/
  isStart : marks.IsStart span.start
  /-- Something can end at its end. -/
  isEnd : marks.IsEnd span.stop

/-- An aligned span between two offsets. -/
structure Stands (marks : Landmarks) (front back : UInt32) (span : Span) : Prop where
  /-- It is aligned. -/
  aligned : span.IsAligned marks
  /-- It starts at the first offset or later. -/
  after : front ≤ span.start
  /-- It ends at the second offset or earlier. -/
  before : span.stop ≤ back

variable {first last inner outer : Span} {front middle later back : UInt32}

/-- The span over two aligned ones is aligned. -/
theorem IsAligned.join (left : first.IsAligned marks) (right : last.IsAligned marks) :
    (first.join last).IsAligned marks where
  forward := by
    have forward := left.forward
    rw [start_join, stop_join]
    lia
  isStart := by
    rw [start_join]
    split
    · exact left.isStart
    · exact right.isStart
  isEnd := by
    rw [stop_join]
    split
    · exact right.isEnd
    · exact left.isEnd

/-- A join starts no later than the first of both. -/
theorem start_join_le (first last : Span) : (first.join last).start ≤ first.start := by
  rw [start_join]
  lia

/-- A join ends no earlier than the last of both. -/
theorem le_stop_join (first last : Span) : last.stop ≤ (first.join last).stop := by
  rw [stop_join]
  lia

/-- The span over two that stand one after the other stands between the offsets around both. -/
theorem Stands.join (left : first.Stands marks front middle) (right : last.Stands marks later back)
    (le : middle ≤ later) : (first.join last).Stands marks front back where
  aligned := left.aligned.join right.aligned
  after := by
    have forward := left.aligned.forward
    have start := left.after
    have stop := left.before
    have next := right.after
    rw [start_join]
    lia
  before := by
    have forward := right.aligned.forward
    have start := right.after
    have stop := right.before
    have previous := left.before
    rw [stop_join]
    lia

/-- What lies inside a span lies inside everything around it. -/
theorem Within.trans (inside : inner.Within first) (around : first.Within outer) :
    inner.Within outer :=
  ⟨UInt32.le_trans around.1 inside.1, UInt32.le_trans inside.2 around.2⟩

end Span

namespace Expr

/-- The trees directly below a tree in the order of the source; the prototype of a form is one. -/
def children : Expr → List Expr
  | number _ _ | var _ _ | prototype _ => []
  | binary _ _ left right _ => [left, right]
  | unary _ operand _ => [operand]
  | call _ arguments _ => arguments
  | conditional condition consequent alternative _ => [condition, consequent, alternative]
  | loop _ start limit step body _ => start :: limit :: (step.toList ++ [body])
  | binding _ initializer body _ => initializer.toList ++ [body]
  | function signature body _ => [.prototype signature, body]
  | declaration signature _ => [.prototype signature]

/-- Something holds of the places of a tree and of all trees below it, and each lies inside the one
above it. -/
inductive IsNested (holds : Span → Prop) : Expr → Prop
  /-- A tree and those below it. -/
  | node {tree : Expr} (own : holds tree.span)
      (within : ∀ child ∈ tree.children, child.span.Within tree.span)
      (inner : ∀ child ∈ tree.children, IsNested holds child) : IsNested holds tree

namespace IsNested

variable {holds : Span → Prop} {tree : Expr} {outer : Span}

/-- What holds of the place of the whole tree. -/
theorem own (nested : tree.IsNested holds) : holds tree.span := by
  obtain ⟨own, _, _⟩ := nested
  exact own

/-- The trees below a tree are nested as well. -/
theorem child {inner : Expr} (nested : tree.IsNested holds) (below : inner ∈ tree.children) :
    inner.IsNested holds := by
  obtain ⟨_, _, all⟩ := nested
  exact all inner below

/-- The operands of a binary expression are nested. -/
theorem pair {operator : Token} {meaning : BinaryMeaning} {left right : Expr} {span : Span}
    (nested : (Expr.binary operator meaning left right span).IsNested holds) :
    left.IsNested holds ∧ right.IsNested holds :=
  ⟨nested.child List.mem_cons_self, nested.child (List.mem_cons_of_mem _ List.mem_cons_self)⟩

/-- All places of a nested tree lie inside whatever is around the whole tree. -/
theorem confined (nested : tree.IsNested holds) (inside : tree.span.Within outer) :
    tree.IsNested fun span => holds span ∧ span.Within outer := by
  induction nested with
  | node own within _ hypothesis =>
    refine .node ⟨own, inside⟩ within fun child below => ?_
    exact hypothesis child below ((within child below).trans inside)

end IsNested

/-- A nested tree of aligned places that stands between two offsets. -/
structure IsPlaced (marks : Landmarks) (front back : UInt32) (tree : Expr) : Prop where
  /-- Its places are nested and aligned. -/
  nested : tree.IsNested (Span.IsAligned marks)
  /-- It starts at the first offset or later. -/
  after : front ≤ tree.span.start
  /-- It ends at the second offset or earlier. -/
  before : tree.span.stop ≤ back

namespace IsPlaced

variable {tree : Expr} {start stop : Span} {front middle later back : UInt32}

/-- The place of a tree stands where the tree does. -/
theorem stands (placed : tree.IsPlaced marks front back) : tree.span.Stands marks front back :=
  ⟨placed.nested.own, placed.after, placed.before⟩

/-- A tree stands between all offsets around those that it stands between. -/
theorem widen {first last : UInt32} (placed : tree.IsPlaced marks front back) (before : first ≤ front)
    (after : back ≤ last) : tree.IsPlaced marks first last :=
  ⟨placed.nested, UInt32.le_trans before placed.after, UInt32.le_trans placed.before after⟩

/-- A tree stands between the ends of its own place. -/
theorem tight (placed : tree.IsPlaced marks front back) :
    tree.IsPlaced marks tree.span.start tree.span.stop :=
  ⟨placed.nested, UInt32.le_refl _, UInt32.le_refl _⟩

/-- A tree over others that stand between the ends of its own place. -/
theorem node (own : tree.span.Stands marks front back)
    (below : ∀ child ∈ tree.children, child.IsPlaced marks tree.span.start tree.span.stop) :
    tree.IsPlaced marks front back := by
  refine ⟨.node own.aligned (fun child member => ?_) fun child member => ?_, own.after, own.before⟩
  · exact ⟨(below child member).after, (below child member).before⟩
  · exact (below child member).nested

/-- A tree without others below it. -/
theorem leaf (own : tree.span.Stands marks front back) (none : tree.children = []) :
    tree.IsPlaced marks front back :=
  .node own fun child member => by
    rw [none] at member
    contradiction

/-- A tree that is read from one place to another, with others below it that stand in between. -/
theorem spanning (left : start.Stands marks front middle) (right : stop.Stands marks later back)
    (le : middle ≤ later) (own : tree.span = start.join stop)
    (below : ∀ child ∈ tree.children, child.IsPlaced marks start.start stop.stop) :
    tree.IsPlaced marks front back := by
  refine .node (own ▸ left.join right le) fun child member => ?_
  refine (below child member).widen ?_ ?_
  · rw [own]
    exact start.start_join_le stop
  · rw [own]
    exact start.le_stop_join stop

end IsPlaced

end Expr

namespace Parser

/-- Where the current token starts. -/
def offset (parser : Parser) : UInt32 := parser.current.span.start

/-- The tokens that have not been left stand in order at aligned places, and the last of them is
empty, as the end of the input is. -/
structure IsOrdered (marks : Landmarks) (parser : Parser) : Prop where
  /-- The places are aligned. -/
  aligned : ∀ token ∈ parser.pending, token.span.IsAligned marks
  /-- No token starts before an earlier one ends. -/
  ordered : parser.pending.Pairwise fun early late => early.span.stop ≤ late.span.start
  /-- The last token is empty. -/
  empty : ∀ token ∈ parser.pending.getLast?, token.span.stop ≤ token.span.start

/-- The current token, which stands at some place, has been left. -/
structure Leaves (marks : Landmarks) (parser : Parser) (span : Span) (next : Parser) : Prop extends
    span.Stands marks parser.offset next.offset where
  /-- The place is that of the current token. -/
  current_eq : span = parser.current.span

variable {parser : Parser}

/-- The current token stands at an aligned place. -/
theorem IsOrdered.current (isOrdered : parser.IsOrdered marks) :
    parser.current.span.IsAligned marks :=
  isOrdered.aligned parser.current List.mem_cons_self

/-- The token after the current one starts where that ends, or later. -/
theorem IsOrdered.le_advance (isOrdered : parser.IsOrdered marks) :
    parser.current.span.stop ≤ parser.advance.offset := by
  obtain ⟨current, ahead, previous, operators⟩ := parser
  cases ahead with
  | nil => exact UInt32.le_refl _
  | cons token rest => exact List.rel_of_pairwise_cons isOrdered.ordered List.mem_cons_self

/-- Leaving a token leaves the others in order. Past the last one stands the end of the input, which
is where that one is. -/
theorem IsOrdered.advance (isOrdered : parser.IsOrdered marks) :
    parser.advance.IsOrdered marks := by
  obtain ⟨current, ahead, previous, operators⟩ := parser
  obtain ⟨aligned, ordered, empty⟩ := isOrdered
  cases ahead with
  | nil =>
    have own := aligned current List.mem_cons_self
    have none : current.span.stop ≤ current.span.start := empty current rfl
    have same : current.span.start = current.span.stop := UInt32.le_antisymm own.forward none
    have isStart : marks.IsStart current.span.stop := by simpa only [same] using own.isStart
    refine ⟨List.forall_mem_singleton.2 ⟨UInt32.le_refl _, isStart, own.isEnd⟩,
      List.pairwise_singleton _ _, fun token member => ?_⟩
    obtain rfl := Option.some.inj member
    exact UInt32.le_refl _
  | cons token rest =>
    refine ⟨fun other member => aligned other (List.mem_cons_of_mem _ member), ordered.of_cons, ?_⟩
    intro other member
    refine empty other ?_
    simpa only [pending, List.getLast?_cons_cons, Parser.advance] using member

/-- Recovery leaves the tokens in order. -/
theorem IsOrdered.recoverWithin (bound : Nat) : ∀ {parser : Parser}, parser.IsOrdered marks →
    (parser.recoverWithin bound).IsOrdered marks := by
  induction bound with
  | zero => exact fun isOrdered => isOrdered
  | succ bound hypothesis =>
    intro parser isOrdered
    rw [Parser.recoverWithin]
    split
    · exact isOrdered
    · exact hypothesis isOrdered.advance

/-- Leaving a malformed statement leaves the tokens in order. -/
theorem IsOrdered.recover (isOrdered : parser.IsOrdered marks) :
    parser.recover.IsOrdered marks := by
  unfold Parser.recover
  apply IsOrdered.recoverWithin
  split
  · exact isOrdered
  · exact isOrdered.advance

end Parser

namespace Parse

variable {α β : Type} {action : Parse α} {next : α → Parse β} {parser : Parser}

/-- An action does not go back: the tokens left afterwards stand in order, and none of them before
the current one. Some things hold of its value and the parser afterwards if it succeeds, and its
error stands at an aligned place if it fails. -/
def Advances (marks : Landmarks) (action : Parse α) (parser : Parser) (post : α → Parser → Prop) :
    Prop :=
  match action parser with
  | .ok value next => next.IsOrdered marks ∧ parser.offset ≤ next.offset ∧ post value next
  | .error error next => next.IsOrdered marks ∧ error.span.IsAligned marks

/-- A rule reads a tree that stands between the offsets before and after it. -/
def Places (marks : Landmarks) (rule : Parse Expr) : Prop :=
  ∀ {parser : Parser}, parser.IsOrdered marks → Advances marks rule parser
    fun tree next => tree.IsPlaced marks parser.offset next.offset

namespace Advances

variable {between : α → Parser → Prop} {post : β → Parser → Prop}

/-- One action after another. -/
theorem bind (front : Advances marks action parser between)
    (back : ∀ value middle, middle.IsOrdered marks → parser.offset ≤ middle.offset →
      between value middle → Advances marks (next value) middle post) :
    Advances marks (action >>= next) parser post := by
  unfold Advances at front back ⊢
  simp only [Bind.bind, EStateM.bind]
  cases first : action parser with
  | error error middle =>
    rw [first] at front
    exact front
  | ok value middle =>
    rw [first] at front
    obtain ⟨isOrdered, le, holds⟩ := front
    have rest := back value middle isOrdered le holds
    simp only
    cases second : next value middle with
    | error error last =>
      rw [second] at rest
      exact rest
    | ok result last =>
      rw [second] at rest
      exact ⟨rest.1, UInt32.le_trans le rest.2.1, rest.2.2⟩

/-- Reading something off the parser before an action. -/
theorem read {value : α} (same : action parser = .ok value parser)
    (back : Advances marks (next value) parser post) :
    Advances marks (action >>= next) parser post := by
  unfold Advances at back ⊢
  simp only [Bind.bind, EStateM.bind, same]
  exact back

section Steps

variable (isOrdered : parser.IsOrdered marks)
include isOrdered

/-- Yielding a value. -/
theorem pure {value : α} (holds : between value parser) :
    Advances marks (Pure.pure value) parser between :=
  ⟨isOrdered, UInt32.le_refl _, holds⟩

/-- Failing at an aligned place. -/
theorem throw {error : ParseError} (aligned : error.span.IsAligned marks) :
    Advances marks (throw error : Parse α) parser between :=
  ⟨isOrdered, aligned⟩

/-- Failing at the current token. -/
theorem failHere (cause : ParseCause) :
    Advances marks (Parse.failHere cause : Parse α) parser between :=
  ⟨isOrdered, isOrdered.current⟩

/-- Failing because the current token is not expected. -/
theorem unexpected (expected : List Expectation) :
    Advances marks (Parse.unexpected expected : Parse α) parser between :=
  ⟨isOrdered, isOrdered.current⟩

/-- Leaving a token. -/
theorem step :
    Advances marks Parse.step parser fun token next => parser.Leaves marks token.span next :=
  have own := isOrdered.current
  have le := isOrdered.le_advance
  ⟨isOrdered.advance, UInt32.le_trans own.forward le, ⟨own, UInt32.le_refl _, le⟩, rfl⟩

end Steps

end Advances

end Parse

end Kaleidoscope
