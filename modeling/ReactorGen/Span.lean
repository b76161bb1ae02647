/-!
# Source spans

Where an element of the model stands in the source it was read from.  Lines and
columns count from one.
-/

namespace ReactorGen

/-- A stretch of source text. -/
structure Span where
  /-- The line of the first character. -/
  line : UInt32
  /-- The column of the first character. -/
  column : UInt32
  /-- The line of the end. -/
  endLine : UInt32
  /-- The column of the end. -/
  endColumn : UInt32
deriving DecidableEq, Repr

namespace Span

/-- The empty span at one position. -/
def point (line column : UInt32) : Span :=
  ⟨line, column, line, column⟩

/-- Whether the first position is not after the second. -/
def notAfter (line column otherLine otherColumn : UInt32) : Bool :=
  line < otherLine || (line == otherLine && column ≤ otherColumn)

/-- Whether `inner` lies entirely inside `outer`. -/
def contains (outer inner : Span) : Bool :=
  notAfter outer.line outer.column inner.line inner.column &&
    notAfter inner.endLine inner.endColumn outer.endLine outer.endColumn

/-- The spelling of a span in messages, which is where it starts. -/
def text (span : Span) : String :=
  toString span.line.toNat ++ ":" ++ toString span.column.toNat

end Span
end ReactorGen
