/-!
# Source spans

Where a token or an operation stands in its source: the line, counted from one, the column,
counted from zero, the byte offset and the number of bytes.
-/

namespace Custody

/-- A stretch of source text. -/
structure Span where
  line : Nat := 0
  column : Nat := 0
  offset : Nat := 0
  length : Nat := 0
  deriving DecidableEq, Repr, Inhabited

namespace Span

/-- The byte offset just past the span. -/
def stop (span : Span) : Nat :=
  span.offset + span.length

/-- The span from the beginning of one to the further end of both. -/
def cover (first last : Span) : Span :=
  { first with length := max last.stop first.stop - first.offset }

/-- The column as readers count it, from one. -/
def shownColumn (span : Span) : Nat :=
  span.column + 1

/-- Line and column. -/
def render (span : Span) : String :=
  s!"{span.line}:{span.shownColumn}"

@[simp] theorem cover_offset (first last : Span) : (first.cover last).offset = first.offset := rfl

/-- A cover ends at the further of the two ends. -/
theorem cover_stop (first last : Span) : (first.cover last).stop = max last.stop first.stop := by
  simp only [stop, cover]
  omega

end Span

end Custody
