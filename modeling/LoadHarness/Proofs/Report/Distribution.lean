import LoadHarness.Proofs.Text
import LoadHarness.Report.Distribution
import Mathlib.Algebra.BigOperators.Ring.List
import Mathlib.Algebra.Order.BigOperators.Group.List
import Mathlib.Algebra.Order.Ring.Nat
import Mathlib.Data.List.SplitBy
import Mathlib.Tactic.Ring

/-!
# The distribution as a cut of the counts

A `Report.Row` is what one line of the distribution reports, and `Report.Cut` says of rows that
counts are cut into them where the brackets tell: no count of a row lies in a bracket above that of
its first, and the first of the next row does. There is one such cut of any counts
(`Report.exists_cut`), and its rows are what is reported (`Report.segments_of_cut`). In ascending
counts they are the runs of one bracket (`Report.Cut.map_counts_eq_splitBy`).

The brackets of the first counts grow from row to row, so that many rows take many requests. A run
has a limited number of these, and the width of its brackets grows with it, which leaves room for
332 lines (`Report.length_distribution_le`).
-/

namespace LoadHarness.Report

/-! ## Rows -/

/-- Counts that are reported together. There is at least one. -/
structure Row where
  first : Nat
  others : List Nat
deriving DecidableEq, Repr

namespace Row

def counts (r : Row) : List Nat := r.first :: r.others

def last (r : Row) : Nat := r.counts.getLast (List.cons_ne_nil _ _)

/-- What is reported of a row. -/
def segment (r : Row) : Segment := ⟨r.counts.length, r.first, r.last⟩

end Row

variable {width : Nat} {counts : List Nat} {r : Row} {rows : List Row}

/-- Counts are cut into rows where the brackets tell. -/
structure Cut (width : Nat) (counts : List Nat) (rows : List Row) : Prop where
  /-- No count is lost, doubled or moved. -/
  joined : rows.flatMap Row.counts = counts
  /-- No count lies in a bracket above that of the first of its row. -/
  within : ∀ r ∈ rows, ∀ c ∈ r.others, c / width ≤ r.first / width
  /-- But the first of the next row does. -/
  above : rows.IsChain fun r r' => r.first / width < r'.first / width

/-! ## What is reported of a cut -/

theorem foldl_extend (s : Segment) (cs : List Nat) : cs.foldl Segment.extend s
    = ⟨s.clients + cs.length, s.low, (s.high :: cs).getLast (List.cons_ne_nil _ _)⟩ := by
  induction cs generalizing s with
  | nil => rfl
  | cons c cs ih =>
    rw [List.foldl_cons, ih]
    simp [Segment.extend, Nat.add_comm, Nat.add_left_comm]

theorem Row.segment_eq (r : Row) :
    r.segment = r.others.foldl Segment.extend ⟨1, r.first, r.first⟩ := by
  rw [foldl_extend, segment, counts, List.length_cons, Nat.add_comm]
  rfl

/-- Counts that lie in no bracket above go into the open segment. -/
theorem segmentsFrom_append {s : Segment} {cs : List Nat}
    (h : ∀ c ∈ cs, c / width ≤ s.low / width) (rest : List Nat) :
    segmentsFrom width s (cs ++ rest) = segmentsFrom width (cs.foldl Segment.extend s) rest := by
  induction cs generalizing s with
  | nil => rfl
  | cons c cs ih =>
    obtain ⟨hc, hcs⟩ := List.forall_mem_cons.1 h
    rw [List.cons_append, segmentsFrom, if_neg (Nat.not_lt.2 hc), List.foldl_cons]
    exact ih hcs

theorem segmentsFrom_row (h : ∀ c ∈ r.others, c / width ≤ r.first / width) (rest : List Nat) :
    segmentsFrom width ⟨1, r.first, r.first⟩ (r.others ++ rest)
      = segmentsFrom width r.segment rest := by
  rw [Row.segment_eq, segmentsFrom_append h]

theorem Cut.tail (h : Cut width counts (r :: rows)) :
    Cut width (rows.flatMap Row.counts) rows :=
  ⟨rfl, (List.forall_mem_cons.1 h.within).2, h.above.tail⟩

/-- Behind an open segment that is a row comes what is reported of the other rows. -/
theorem segmentsFrom_of_cut (h : Cut width counts (r :: rows)) :
    segmentsFrom width r.segment (rows.flatMap Row.counts) = (r :: rows).map Row.segment := by
  induction rows generalizing counts r with
  | nil => rfl
  | cons r' rows ih =>
    have habove : r.segment.low / width < r'.first / width := (List.isChain_cons_cons.1 h.above).1
    have hwithin := (List.forall_mem_cons.1 h.tail.within).1
    rw [List.flatMap_cons, Row.counts, List.cons_append, segmentsFrom, if_pos habove,
      segmentsFrom_row hwithin, ih h.tail]
    rfl

theorem segments_of_cut (h : Cut (max width 1) counts rows) :
    segments width counts = rows.map Row.segment := by
  obtain rfl := h.joined
  cases rows with
  | nil => rfl
  | cons r rows =>
    rw [List.flatMap_cons, Row.counts, List.cons_append, segments,
      segmentsFrom_row (List.forall_mem_cons.1 h.within).1, segmentsFrom_of_cut h]

/-! ## There is one cut -/

/-- Counts behind an open row are cut so that those in front which lie in no bracket above go into
this row. -/
theorem exists_cut_from (h : ∀ c ∈ r.others, c / width ≤ r.first / width) (cs : List Nat) :
    ∃ others rows, Cut width (r.counts ++ cs) (⟨r.first, r.others ++ others⟩ :: rows) := by
  induction cs generalizing r with
  | nil => exact ⟨[], [], by simp [Row.counts], by simpa using h, List.isChain_singleton _⟩
  | cons c cs ih =>
    by_cases hc : r.first / width < c / width
    case pos =>
      obtain ⟨others, rows, hcut⟩ := ih (r := ⟨c, []⟩) (by simp)
      refine ⟨[], ⟨c, others⟩ :: rows, ?_, ?_, List.isChain_cons_cons.2 ⟨hc, hcut.above⟩⟩
      · rw [List.flatMap_cons, List.append_nil]
        exact congrArg (r.counts ++ ·) hcut.joined
      · exact List.forall_mem_cons.2 ⟨by simpa using h, hcut.within⟩
    case neg =>
      obtain ⟨others, rows, hcut⟩ := ih (r := ⟨r.first, r.others ++ [c]⟩)
        (by simpa [or_imp, forall_and] using ⟨h, Nat.not_lt.1 hc⟩)
      exact ⟨c :: others, rows, by simpa [Row.counts] using hcut⟩

theorem exists_cut (width : Nat) (counts : List Nat) : ∃ rows, Cut width counts rows := by
  cases counts with
  | nil => exact ⟨[], rfl, by simp, List.isChain_nil⟩
  | cons c cs =>
    have hnone : ∀ d ∈ ([] : List Nat), d / width ≤ c / width := by simp
    obtain ⟨others, rows, hcut⟩ := exists_cut_from (r := ⟨c, []⟩) hnone cs
    exact ⟨⟨c, [] ++ others⟩ :: rows, hcut⟩

/-- Rows are determined by what is reported of them. -/
theorem Cut.eq {rows' : List Row} (h : Cut (max width 1) counts rows)
    (h' : Cut (max width 1) counts rows') : rows = rows' := by
  have hlengths : (rows.map Row.counts).map List.length = (rows'.map Row.counts).map List.length := by
    have hsegments := (segments_of_cut h).symm.trans (segments_of_cut h')
    simpa [Function.comp_def, Row.segment] using congrArg (List.map Segment.clients) hsegments
  have hcounts : rows.map Row.counts = rows'.map Row.counts := by
    refine List.eq_iff_flatten_eq.2 ⟨?_, hlengths⟩
    rw [← List.flatMap_def, ← List.flatMap_def, h.joined, h'.joined]
  refine List.map_injective_iff.2 (fun r r' hr => ?_) hcounts
  obtain ⟨hfirst, hothers⟩ := List.cons.inj hr
  cases r
  cases r'
  simp_all

/-- The brackets of the first counts grow from row to row. -/
theorem Cut.pairwise_brackets (h : Cut width counts rows) :
    (rows.map (·.first / width)).Pairwise (· < ·) :=
  List.isChain_iff_pairwise.1 ((List.isChain_map _).2 h.above)

/-! ## Ascending counts -/

theorem Cut.bounds (h : Cut width counts rows) (hasc : counts.Pairwise (· ≤ ·)) (hr : r ∈ rows) :
    ∀ c ∈ r.counts, r.first ≤ c ∧ c ≤ r.last := by
  have hrow : r.counts.Pairwise (· ≤ ·) := by
    rw [← h.joined] at hasc
    exact (List.pairwise_flatMap.1 hasc).1 r hr
  intro c hc
  refine ⟨?_, hrow.rel_getLast hc⟩
  rcases List.mem_cons.1 hc with rfl | hc
  · exact Nat.le_refl _
  · exact (List.pairwise_cons.1 hrow).1 c hc

/-- A row of ascending counts lies in one bracket. -/
theorem Cut.bracket_eq (h : Cut width counts rows) (hasc : counts.Pairwise (· ≤ ·))
    (hr : r ∈ rows) : ∀ c ∈ r.counts, c / width = r.first / width := by
  intro c hc
  refine Nat.le_antisymm ?_ (Nat.div_le_div_right (h.bounds hasc hr c hc).1)
  rcases List.mem_cons.1 hc with rfl | hc
  · exact Nat.le_refl _
  · exact h.within r hr c hc

/-- The rows of ascending counts are the runs of one bracket. -/
theorem Cut.map_counts_eq_splitBy (h : Cut width counts rows) (hasc : counts.Pairwise (· ≤ ·)) :
    rows.map Row.counts = counts.splitBy fun a b => a / width == b / width := by
  refine (List.splitBy_eq_iff.2 ⟨?_, ?_, ?_, ?_⟩).symm
  · rw [← List.flatMap_def, h.joined]
  · simp [Row.counts]
  · refine List.forall_mem_map.2 fun r hr => List.Pairwise.isChain ?_
    refine List.pairwise_of_forall_mem_list fun a ha b hb => ?_
    rw [h.bracket_eq hasc hr a ha, h.bracket_eq hasc hr b hb, beq_self_eq_true]
  · refine (List.isChain_map _).2 (h.above.imp_of_mem_imp fun r r' hr hr' hlt => ?_)
    have hlast := h.bracket_eq hasc hr _ (List.getLast_mem (List.cons_ne_nil _ _))
    exact ⟨List.cons_ne_nil _ _, List.cons_ne_nil _ _, by simpa [Row.counts, hlast] using hlt.ne⟩

/-! ## The lines -/

theorem Segment.toList_line (s : Segment) : s.line.toList =
    (Text.numeral s.clients).toList ++ (" clients with ".toList ++ ((Text.numeral s.low).toList ++
      if s.low = s.high then " requests.".toList
      else " to ".toList ++ ((Text.numeral s.high).toList ++ " requests.".toList))) := by
  unfold Segment.line
  dsimp only
  split <;> simp only [String.toList_append, List.append_assoc]

/-- A line shows the number of its clients, and the first and the last of their counts. -/
theorem Segment.line_injective : Function.Injective Segment.line := by
  have hclients (rest : List Char) :
      ∀ c ∈ (" clients with ".toList ++ rest).head?, c.isDigit = false := by simp
  have hrequests : ∀ c ∈ " requests.".toList.head?, c.isDigit = false := by simp
  have hrange (p : Prop) [Decidable p] (rest : List Char) :
      ∀ c ∈ (if p then " requests.".toList else " to ".toList ++ rest).head?,
        c.isDigit = false := by
    split <;> simp
  rintro ⟨clients, low, high⟩ ⟨clients', low', high'⟩ h
  have htext := congrArg String.toList h
  rw [toList_line, toList_line] at htext
  obtain ⟨rfl, htext⟩ := Text.numeral_append_inj (hclients _) (hclients _) htext
  obtain ⟨rfl, htext⟩ := Text.numeral_append_inj (hrange _ _) (hrange _ _)
    (List.append_cancel_left htext)
  dsimp only at htext
  have hhigh : high = high' := by
    split at htext <;> split at htext
    case isTrue.isTrue h h' => rw [← h, ← h']
    case isTrue.isFalse => simp at htext
    case isFalse.isTrue => simp at htext
    case isFalse.isFalse =>
      exact (Text.numeral_append_inj hrequests hrequests (List.append_cancel_left htext)).1
  rw [hhigh]

/-- Under any width, counts are cut into rows in one way, and each row is reported by a line that
tells its length, its first and its last count. The rows of ascending counts are the runs of one
bracket, and their brackets grow. -/
theorem linesOfWidth_of_cut (width : Nat) (counts : List Nat) :
    let w := max width 1
    ∃ rows, (∀ rows', Cut w counts rows' ↔ rows' = rows) ∧
      linesOfWidth width counts = rows.map (·.segment.line) ∧ Function.Injective Segment.line ∧
      (rows.map (·.segment.clients)).sum = counts.length ∧
      (counts.Pairwise (· ≤ ·) →
        (rows.map Row.counts = counts.splitBy fun a b => a / w == b / w) ∧
        (∀ r ∈ rows, ∀ c ∈ r.counts, c / w = r.first / w ∧ r.first ≤ c ∧ c ≤ r.last) ∧
        (rows.map (·.first / w)).Pairwise (· < ·)) := by
  intro w
  obtain ⟨rows, hcut⟩ := exists_cut w counts
  refine ⟨rows, fun rows' => ⟨fun h => h.eq hcut, fun h => h ▸ hcut⟩, ?_, Segment.line_injective,
    ?_, fun hasc => ⟨hcut.map_counts_eq_splitBy hasc, fun r hr c hc =>
      ⟨hcut.bracket_eq hasc hr c hc, hcut.bounds hasc hr c hc⟩, hcut.pairwise_brackets⟩⟩
  · rw [linesOfWidth, segments_of_cut hcut, List.map_map]
    rfl
  · rw [← hcut.joined, List.length_flatMap]
    rfl

theorem linesOfWidth_of_cut_ascending :
    let counts := [3, 3, 3, 7, 7, 12]
    counts.Pairwise (· ≤ ·) ∧ ∃ rows, Cut 10 counts rows ∧
      rows.map Row.counts = [[3, 3, 3, 7, 7], [12]] ∧
      linesOfWidth 10 counts
        = ["5 clients with 3 to 7 requests.", "1 clients with 12 requests."] := by
  intro counts
  have hasc : counts.Pairwise (· ≤ ·) := by decide
  obtain ⟨rows, hcut, -, -, -, hrest⟩ := linesOfWidth_of_cut 10 counts
  exact ⟨hasc, rows, (hcut rows).2 rfl, (hrest hasc).1.trans (by decide), by decide +kernel⟩

/-! ## How many lines -/

/-- Growing numbers add up to no less than the first numbers there are. -/
theorem length_mul_le_sum {l : List Nat} {m : Nat} (h : l.Pairwise (· < ·))
    (hm : ∀ x ∈ l, m ≤ x) : l.length * (2 * m + l.length) ≤ 2 * l.sum + l.length := by
  induction l generalizing m with
  | nil => simp
  | cons a l ih =>
    obtain ⟨hlt, hl⟩ := List.pairwise_cons.1 h
    have ha : m ≤ a := hm a (List.mem_cons_self ..)
    calc (l.length + 1) * (2 * m + (l.length + 1))
        = l.length * (2 * (m + 1) + l.length) + (2 * m + 1) := by ring
      _ ≤ l.length * (2 * (a + 1) + l.length) + (2 * a + 1) := by gcongr
      _ ≤ 2 * l.sum + l.length + (2 * a + 1) := Nat.add_le_add_right (ih hl hlt) _
      _ = 2 * (a :: l).sum + (a :: l).length := by
        rw [List.sum_cons, List.length_cons]
        ring

/-- So many rows take at least so many requests. -/
theorem Cut.mul_length_le (h : Cut width counts rows) :
    width * (rows.length * (rows.length - 1)) ≤ 2 * counts.sum := by
  have hgrow : rows.length * (rows.length - 1) ≤ 2 * (rows.map (·.first / width)).sum := by
    have hle := length_mul_le_sum h.pairwise_brackets fun x _ => Nat.zero_le x
    rw [List.length_map, Nat.mul_zero, Nat.zero_add] at hle
    rw [Nat.mul_sub_one]
    omega
  have hsum : width * (rows.map (·.first / width)).sum ≤ counts.sum := by
    rw [← h.joined, List.flatMap_def, List.sum_flatten, List.map_map, ← List.sum_map_mul_left]
    refine List.sum_le_sum fun r _ => (Nat.mul_div_le _ _).trans ?_
    exact Nat.le_add_right _ _
  calc width * (rows.length * (rows.length - 1))
      ≤ width * (2 * (rows.map (·.first / width)).sum) := Nat.mul_le_mul_left _ hgrow
    _ = 2 * (width * (rows.map (·.first / width)).sum) := Nat.mul_left_comm ..
    _ ≤ 2 * counts.sum := Nat.mul_le_mul_left _ hsum

/-- More than 332 rows take more requests than a run has whose brackets are so wide. -/
theorem lt_mul_bracketWidth (total : Nat) :
    2 * total < max (bracketWidth total) 1 * (333 * 332) := by
  unfold bracketWidth largeRun largeRunBrackets ordinaryWidth
  split <;> omega

/-- However many clients and requests a run has, the distribution of no more requests than it
expects takes few lines. -/
theorem length_distribution_le {counts : List Nat} {total : Nat} (h : counts.sum ≤ total) :
    (distribution counts total).length ≤ 332 := by
  obtain ⟨rows, hcut⟩ := exists_cut (max (bracketWidth total) 1) counts
  rw [distribution, linesOfWidth, segments_of_cut hcut, List.length_map, List.length_map]
  refine Nat.not_lt.1 fun hmany => ?_
  have hrows : 333 * 332 ≤ rows.length * (rows.length - 1) := Nat.mul_le_mul hmany (by omega)
  have hrequests : max (bracketWidth total) 1 * (333 * 332) ≤ 2 * counts.sum :=
    (Nat.mul_le_mul_left _ hrows).trans hcut.mul_length_le
  have := lt_mul_bracketWidth total
  omega

/-- Counts that go up by one bracket from client to client. -/
def staircase : List Nat := List.range' 0 332 10

theorem length_distribution_staircase :
    staircase.Pairwise (· ≤ ·) ∧ staircase.sum ≤ 549999 ∧
      (distribution staircase 549999).length ≤ 332 ∧
      (distribution staircase 549999).length = 332 := by
  have hasc : staircase.Pairwise (· ≤ ·) :=
    (List.pairwise_lt_range' 10).imp fun h => Nat.le_of_lt h
  have hsum : staircase.sum ≤ 549999 := by decide +kernel
  refine ⟨hasc, hsum, length_distribution_le hsum, ?_⟩
  rw [distribution, linesOfWidth, List.length_map]
  decide +kernel

end LoadHarness.Report
