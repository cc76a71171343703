/-!
# Spans of source text

A place in a source is a half-open range of byte offsets into its text. Offsets are words of 32 bits,
so in a source of more bytes than these can count they start again from zero. Spans of neighbouring
parts are joined into the smallest span that covers both.
-/
namespace Kaleidoscope

/-- A range of byte offsets, from `start` up to but not including `stop`. -/
structure Span where
  /-- Offset of the first byte. -/
  start : UInt32
  /-- Offset just after the last byte. -/
  stop : UInt32
deriving DecidableEq, Inhabited

namespace Span

/-- The smallest span that covers both. -/
def join (left right : Span) : Span := ⟨min left.start right.start, max left.stop right.stop⟩

/-- The empty span at an offset. -/
def point (offset : UInt32) : Span := ⟨offset, offset⟩

/-- Whether a span covers no byte. -/
def isEmpty (span : Span) : Bool := span.stop ≤ span.start

/-- The two offsets around a double dot. -/
def render (span : Span) : String :=
  Nat.repr span.start.toNat ++ ".." ++ Nat.repr span.stop.toNat

/-- The number of bytes that a text takes in a source. -/
def width (text : List Char) : Nat := text.foldr (·.utf8Size + ·) 0

/-- One span lies inside another. -/
def Within (inner outer : Span) : Prop := outer.start ≤ inner.start ∧ inner.stop ≤ outer.stop

/-- A join starts where the first of both does. -/
theorem start_join (left right : Span) :
    (left.join right).start = if left.start ≤ right.start then left.start else right.start := rfl

/-- A join ends where the last of both does. -/
theorem stop_join (left right : Span) :
    (left.join right).stop = if left.stop ≤ right.stop then right.stop else left.stop := rfl

/-- No text takes no bytes. -/
@[simp] theorem width_nil : width [] = 0 := rfl

/-- The first character of a text takes its own bytes. -/
@[simp] theorem width_cons (c : Char) (text : List Char) :
    width (c :: text) = c.utf8Size + width text := rfl

/-- The widths of two texts add up. -/
@[simp] theorem width_append (front back : List Char) :
    width (front ++ back) = width front + width back := by
  induction front with
  | nil => exact (Nat.zero_add _).symm
  | cons c front hypothesis => rw [List.cons_append, width_cons, width_cons, hypothesis, Nat.add_assoc]

/-- Blanks take one byte each. -/
theorem width_replicate (count : Nat) : width (List.replicate count ' ') = count := by
  induction count with
  | zero => rfl
  | succ count hypothesis =>
    rw [List.replicate_succ, width_cons, hypothesis, Nat.add_comm]
    rfl

end Span

end Kaleidoscope
