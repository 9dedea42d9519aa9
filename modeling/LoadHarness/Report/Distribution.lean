import LoadHarness.Text.Numeral

/-!
# Distribution of requests over clients

The final report groups the clients by how many requests each of them accounted for.
`bracketWidth` chooses the width of a bracket from the size of the run, `segments` cuts the
counts, in the order given, wherever a count lies in a bracket above that of the first count
of the open segment, and `distribution` writes one line for each segment.
-/

namespace LoadHarness.Report

/-! ## Brackets -/

/-- The width of a bracket in a run of ordinary size. -/
def ordinaryWidth : Nat := 10

/-- Runs that expect more requests than this are large. -/
def largeRun : Nat := 500000

/-- A large run has about this many brackets. -/
def largeRunBrackets : Nat := 50000

/-- The bracket width for a run that expects `total` requests. Large runs widen the bracket,
so that the lines printed stay few. -/
def bracketWidth (total : Nat) : Nat :=
  if largeRun < total then max (total / largeRunBrackets) 1 else ordinaryWidth

/-! ## Segments -/

/-- A row of clients that are reported together: how many, and the first and the last of
their counts. -/
structure Segment where
  clients : Nat
  low : Nat
  high : Nat
deriving DecidableEq, Repr

/-- The line that reports a segment. -/
def Segment.line (s : Segment) : String :=
  let clients := Text.numeral s.clients
  if s.low = s.high then clients ++ " clients with " ++ Text.numeral s.low ++ " requests."
  else clients ++ " clients with " ++ Text.numeral s.low ++ " to " ++ Text.numeral s.high
    ++ " requests."

/-- A segment followed by one more client. -/
def Segment.extend (s : Segment) (count : Nat) : Segment :=
  { s with clients := s.clients + 1, high := count }

/-- The segments of the counts that follow an open segment. -/
def segmentsFrom (width : Nat) (s : Segment) : List Nat → List Segment
  | [] => [s]
  | count :: counts =>
    if s.low / width < count / width then s :: segmentsFrom width ⟨1, count, count⟩ counts
    else segmentsFrom width (s.extend count) counts

/-- The segments of a list of counts under a bracket width; a width of zero counts as one. -/
def segments (width : Nat) : List Nat → List Segment
  | [] => []
  | count :: counts => segmentsFrom (max width 1) ⟨1, count, count⟩ counts

/-- The lines that report counts under a bracket width. -/
def linesOfWidth (width : Nat) (counts : List Nat) : List String :=
  (segments width counts).map Segment.line

/-- The lines that report the counts of a run that expected `total` requests. -/
def distribution (counts : List Nat) (total : Nat) : List String :=
  linesOfWidth (bracketWidth total) counts

end LoadHarness.Report
