import GeneratedKeys.Text.Basic

/-!
# Spans

A span is a stretch of a text between two byte offsets. What it covers is a text only if both
offsets fall between characters; otherwise, and beyond the end, it covers nothing.
-/
namespace GeneratedKeys.Text

/-- The bytes from `start` up to, but not including, `stop`. -/
structure Span where
  start : Nat
  stop : Nat
deriving DecidableEq, Repr

namespace Span

def length (s : Span) : Nat :=
  s.stop - s.start

def isEmpty (s : Span) : Bool :=
  s.start == s.stop

/-- The text that a span covers, if there is one. -/
def slice? (s : Span) (t : Text) : Option Text :=
  if s.start ≤ s.stop then (dropSize? s.start t).bind (takeSize? s.length) else none

/-- The text that a span covers, empty where there is none. -/
def slice (s : Span) (t : Text) : Text :=
  (s.slice? t).getD []

theorem slice?_append (before piece after : Text) :
    slice? ⟨size before, size before + size piece⟩ (before ++ (piece ++ after)) = some piece := by
  have hd := dropSize?_size_append before (piece ++ after)
  simp [slice?, hd, length, takeSize?_size_append]

theorem slice_append (before piece after : Text) :
    slice ⟨size before, size before + size piece⟩ (before ++ piece ++ after) = piece := by
  rw [slice, List.append_assoc, slice?_append]
  rfl

end Span
end GeneratedKeys.Text
