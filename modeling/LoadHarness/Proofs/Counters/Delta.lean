import LoadHarness.Counters.Basic

/-!
# What lies between two snapshots

A difference of two snapshots is cut off at zero. Where no counter has gone back from one to the
other (`Counters.Precedes`) it is the whole change (`Delta.spans_since`), and changes that follow
each other add up (`Delta.Spans.add`).
-/

namespace LoadHarness

namespace Counters

/-- No counter has gone back from one snapshot to another. -/
structure Precedes (earlier current : Counters) : Prop where
  remaining : current.remaining ≤ earlier.remaining
  retransmissions : earlier.retransmissions ≤ current.retransmissions
  errors : earlier.errors ≤ current.errors

end Counters

namespace Delta

/-- The activity of two windows together. -/
def add (a b : Delta) : Delta :=
  ⟨a.sent + b.sent, a.retransmissions + b.retransmissions, a.errors + b.errors⟩

/-- The activity of a row of windows together. -/
def total : List Delta → Delta
  | [] => ⟨0, 0, 0⟩
  | d :: ds => d.add (total ds)

/-- The activity is the whole change from one snapshot to another. -/
structure Spans (earlier current : Snapshot) (d : Delta) : Prop where
  sent : current.remaining + d.sent = earlier.remaining
  retransmissions : earlier.retransmissions + d.retransmissions = current.retransmissions
  errors : earlier.errors + d.errors = current.errors

variable {a b : Delta} {s t u : Snapshot}

/-- A difference of snapshots is the whole change if no counter has gone back. -/
theorem spans_since (h : s.Precedes t) : (t.since s).Spans s t :=
  ⟨Nat.add_sub_of_le h.remaining, Nat.add_sub_of_le h.retransmissions, Nat.add_sub_of_le h.errors⟩

theorem Spans.add (ha : a.Spans s t) (hb : b.Spans t u) : (a.add b).Spans s u := by
  obtain ⟨ha1, ha2, ha3⟩ := ha
  obtain ⟨hb1, hb2, hb3⟩ := hb
  constructor <;> simp only [Delta.add] <;> omega

end Delta

end LoadHarness
