namespace EightBit

/-!
# Reports

What a failure tells its reader: a code that names the kind of failure, a
message, advice, and labels on the places of a source text that it is about.
-/

/-- A stretch of a text, counted in bytes of its UTF-8 form. -/
structure Span where
  offset : Nat
  length : Nat
  deriving Repr, DecidableEq

/-- The same stretch after a number of bytes has been put in front of the text. -/
def Span.shift (span : Span) (bytes : Nat) : Span where
  offset :=
    bytes + span.offset
  length :=
    span.length

/-- A remark on a stretch of the source text. -/
structure Label where
  span : Span
  remark : String
  deriving Repr, DecidableEq

/-- How grave a report is; reports on source texts are all errors. -/
inductive Severity where
  | error
  deriving Repr, DecidableEq

/-- A failure as it is shown to its reader. -/
structure Report where
  code : Option String
  message : String
  help : Option String
  severity : Option Severity
  labels : List Label
  deriving Repr, DecidableEq

/-- Number of source lines to show on either side of a label. -/
def Report.contextLines : Nat :=
  4

/-- A report that has a message and nothing else. -/
def Report.plain (message : String) : Report where
  code := none
  message := message
  help := none
  severity := none
  labels := []

/-- Two insertions in front of a text move a stretch by their sum. -/
theorem Span.shift_shift
    (span : Span)
    (first second : Nat) :
    (span.shift first).shift second = span.shift (second + first) := by
  simp [Span.shift, Nat.add_assoc]

end EightBit
