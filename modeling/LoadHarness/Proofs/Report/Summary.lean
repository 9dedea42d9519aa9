import LoadHarness.Report.Summary
import LoadHarness.Settings.Basic

/-!
# What a summary says of a shortfall

All lines of a summary begin with a digit (`Report.Numbered`) but the one that tells where a run
got stuck (`Report.isShortfall`), so that this one can be told from the others. It is there if
requests are missing, and names the share of those that were sent, rounded down
(`Report.summary_of_part`).

The share is computed from a hundredfold of the requests, in a word of 64 bits. The requests of a
run always fit such a word, and their hundredfold does not, so that a run that sent enough of them
has no summary if it did not send them all (`Report.summary_of_many`).
-/

namespace LoadHarness.Report

variable {r : Report} {line : String} {share : Option Nat}

/-! ## The line of a shortfall -/

/-- Whether a line tells where a run got stuck. -/
def isShortfall (line : String) : Bool := "Stale at ".toList.isPrefixOf line.toList

/-- The line begins with a digit. -/
def Numbered (line : String) : Prop := ∃ c cs, line.toList = c :: cs ∧ c.isDigit = true

theorem numbered_numeral (n : Nat) : Numbered (Text.numeral n) := by
  have hdigits : (Text.numeral n).toList = Nat.toDigits 10 n := Nat.toList_repr
  obtain ⟨c, cs, hc⟩ := List.exists_cons_of_ne_nil (Nat.toDigits_ne_nil (n := n) (b := 10))
  refine ⟨c, cs, hdigits.trans hc, ?_⟩
  exact Nat.isDigit_of_mem_toDigits (b := 10) (n := n) (by decide) (by decide) (by simp [hc])

theorem Numbered.append (h : Numbered line) (tail : String) : Numbered (line ++ tail) := by
  obtain ⟨c, cs, hl, hc⟩ := h
  exact ⟨c, cs ++ tail.toList, by simp [hl], hc⟩

theorem Numbered.isShortfall_eq (h : Numbered line) : isShortfall line = false := by
  obtain ⟨c, cs, hl, hc⟩ := h
  have hne : c ≠ 'S' := by
    rintro rfl
    exact absurd hc (by decide)
  rw [isShortfall, hl]
  simp [List.isPrefixOf, hne.symm]

theorem isShortfall_shortfallLine (sent percent : Nat) :
    isShortfall (shortfallLine sent percent) = true := by
  simp [isShortfall, shortfallLine]

/-! ## The other lines -/

theorem numbered_ratio (count requests : Nat) (label : String) :
    Numbered (ratio count requests label) := by
  have hcount := ((numbered_numeral count).append " ").append label
  unfold ratio
  split
  case isTrue => exact ((hcount.append _).append _).append _
  case isFalse => exact hcount.append _

theorem numbered_of_mem_totals (h : line ∈ r.totals) : Numbered line := by
  simp only [totals, List.mem_cons, List.not_mem_nil, or_false] at h
  rcases h with rfl | rfl
  · exact (((numbered_numeral _).append _).append _).append _
  · exact ((((numbered_numeral _).append _).append _).append _).append _

theorem numbered_of_mem_distribution {counts : List Nat} {total : Nat}
    (h : line ∈ distribution counts total) : Numbered line := by
  obtain ⟨s, -, rfl⟩ := List.mem_map.1 h
  unfold Segment.line
  dsimp only
  split
  case isTrue => exact (((numbered_numeral _).append _).append _).append _
  case isFalse =>
    exact (((((numbered_numeral _).append _).append _).append _).append _).append _

theorem numbered_of_mem_ite {P : Prop} [Decidable P] {lines : List String}
    (hlines : ∀ l ∈ lines, Numbered l) (h : line ∈ if P then lines else []) : Numbered line := by
  split at h
  case isTrue => exact hlines line h
  case isFalse => exact absurd h List.not_mem_nil

theorem filter_isShortfall_of_numbered {lines : List String} (h : ∀ l ∈ lines, Numbered l) :
    lines.filter isShortfall = [] := by
  rw [List.filter_eq_nil_iff]
  intro l hl
  simp [(h l hl).isShortfall_eq]

/-- The line of the shortfall is the only one of its kind. -/
theorem summary_of_percent (h : r.percent = .ok share) :
    ∃ lines, r.summary = .ok lines ∧
      lines.filter isShortfall = (share.map (shortfallLine r.sent)).toList := by
  have hretransmissions : ∀ l ∈ [retransmissionRatio r.retransmissions r.sent], Numbered l :=
    fun l hl => List.mem_singleton.1 hl ▸ numbered_ratio _ _ _
  have herrors : ∀ l ∈ [errorRatio r.errors r.sent], Numbered l :=
    fun l hl => List.mem_singleton.1 hl ▸ numbered_ratio _ _ _
  have hdistribution : ∀ l ∈ distribution r.perClient r.expected, Numbered l :=
    fun l => numbered_of_mem_distribution
  refine ⟨_, by rw [summary, h]; rfl, ?_⟩
  simp only [List.filter_append]
  rw [filter_isShortfall_of_numbered fun l => numbered_of_mem_totals,
    filter_isShortfall_of_numbered fun l => numbered_of_mem_ite hretransmissions,
    filter_isShortfall_of_numbered fun l => numbered_of_mem_ite herrors,
    filter_isShortfall_of_numbered fun l => numbered_of_mem_ite hdistribution]
  cases share with
  | none => rfl
  | some n => simp [isShortfall_shortfallLine]

/-! ## The share -/

/-- The greatest number of requests whose hundredfold fits a word of 64 bits. -/
def mostWithShare : Nat := 184467440737095516

theorem mul_hundred_le_iff {n : Nat} : n * 100 ≤ Duration.wordMax ↔ n ≤ mostWithShare := by
  simp only [Duration.wordMax, mostWithShare]
  omega

/-- The share of a part does not come to a hundred. -/
theorem share_le (h : r.sent < r.expected) : 100 * r.sent / r.expected ≤ 99 := by
  have hlt : 100 * r.sent / r.expected < 100 := Nat.div_lt_of_lt_mul (by omega)
  omega

/-- If nothing is missing, no line says so. -/
theorem summary_of_whole (h : r.sent = r.expected) :
    r.percent = .ok none ∧ ∃ lines, r.summary = .ok lines ∧ lines.filter isShortfall = [] := by
  have hp : r.percent = .ok none := by rw [percent, if_neg (by omega)]
  exact ⟨hp, summary_of_percent hp⟩

/-- If requests are missing, one line tells the share of the others. -/
theorem summary_of_part (h : r.sent < r.expected) (hfew : r.sent ≤ mostWithShare) :
    r.percent = .ok (some (100 * r.sent / r.expected)) ∧
      ∃ lines, r.summary = .ok lines ∧
        lines.filter isShortfall = [shortfallLine r.sent (100 * r.sent / r.expected)] := by
  have hp : r.percent = .ok (some (100 * r.sent / r.expected)) := by
    rw [percent, if_pos h, if_pos (mul_hundred_le_iff.2 hfew), Nat.mul_comm]
  exact ⟨hp, summary_of_percent hp⟩

/-- But not if the others are too many for that. -/
theorem summary_of_many (h : r.sent < r.expected) (hmany : mostWithShare < r.sent) :
    r.percent = .error .multiplyOverflow ∧ r.summary = .error .multiplyOverflow := by
  have hp : r.percent = .error .multiplyOverflow := by
    rw [percent, if_pos h, if_neg (mt mul_hundred_le_iff.1 (Nat.not_le.2 hmany))]
  exact ⟨hp, by rw [summary, hp]; rfl⟩

/-- A report of a stuck run of one client. -/
def stuck (expected sent : Nat) : Report := ⟨1, expected, sent, ⟨0⟩, .stale, 0, 0, [sent]⟩

/-- Which runs always come to the end of their summary : those that expect at most one request more
than can be sent with a share. -/
theorem summary_completes_iff (expected : Nat) :
    (∀ r : Report, r.expected = expected → r.sent ≤ r.expected →
        ∃ lines, r.summary = .ok lines) ↔ expected ≤ mostWithShare + 1 := by
  constructor
  · intro h
    refine Nat.not_lt.1 fun hmany => ?_
    have hover : (stuck expected (mostWithShare + 1)).summary = .error .multiplyOverflow :=
      (summary_of_many hmany (Nat.lt_succ_self _)).2
    obtain ⟨lines, hl⟩ := h (stuck expected (mostWithShare + 1)) rfl (Nat.le_of_lt hmany)
    rw [hover] at hl
    exact absurd hl (by simp)
  · intro hfew r he hle
    rcases Nat.eq_or_lt_of_le hle with h | h
    · obtain ⟨-, lines, hl, -⟩ := summary_of_whole h
      exact ⟨lines, hl⟩
    · obtain ⟨-, lines, hl, -⟩ := summary_of_part h (by omega)
      exact ⟨lines, hl⟩

/-- What a summary says of the requests of any sizing. It comes to an end for every report if the
sizing has few enough of them. Otherwise that depends on the requests that were sent : if their
share can be computed, it is exact, and its line is there if and only if requests are missing; and
if it cannot, the summary ends in a fault. -/
theorem summary_of_total (s : Sizing) :
    ((∀ r : Report, r.expected = s.total → r.sent ≤ r.expected →
        ∃ lines, r.summary = .ok lines) ↔ s.total ≤ mostWithShare + 1) ∧
    ∀ r : Report, r.expected = s.total → r.sent ≤ r.expected →
      (r.sent = r.expected → r.percent = .ok none ∧
        ∃ lines, r.summary = .ok lines ∧ lines.filter isShortfall = []) ∧
      (r.sent < r.expected → r.sent ≤ mostWithShare →
        let share := 100 * r.sent / r.expected
        r.percent = .ok (some share) ∧ share ≤ 99 ∧
          ∃ lines, r.summary = .ok lines ∧
            lines.filter isShortfall = [shortfallLine r.sent share]) ∧
      (r.sent < r.expected → mostWithShare < r.sent →
        r.percent = .error .multiplyOverflow ∧ r.summary = .error .multiplyOverflow) := by
  refine ⟨summary_completes_iff s.total, fun r _ _ =>
    ⟨summary_of_whole, fun h hfew => ?_, summary_of_many⟩⟩
  obtain ⟨hp, hlines⟩ := summary_of_part h hfew
  exact ⟨hp, share_le h, hlines⟩

theorem summary_of_total_stuck :
    Sizing.configure 5 100 true = .ok ⟨5, 100, true⟩ ∧
      (stuck 500 412).percent = .ok (some 82) ∧
      ∃ lines, (stuck 500 412).summary = .ok lines ∧
        lines.filter isShortfall = [shortfallLine 412 82] := by
  obtain ⟨hp, -, hlines⟩ := ((summary_of_total ⟨5, 100, true⟩).2 (stuck 500 412) rfl
    (by decide)).2.1 (by decide) (by decide)
  exact ⟨rfl, hp, hlines⟩

/-- A report of the largest run there can be, of whose requests more than a hundredth were sent. -/
def oversized : Report where
  clients := 4294967295
  expected := 18446744065119617025
  sent := 184467440737095517
  elapsed := .ofSeconds 1
  ending := .stale
  retransmissions := 0
  errors := 0
  perClient := []

/-- Its summary does not come to an end, though one percent was reached. -/
theorem summary_oversized :
    let s : Sizing := ⟨4294967295, 4294967295, true⟩
    Sizing.configure 4294967295 4294967295 true = .ok s ∧ oversized.expected = s.total ∧
      oversized.sent < oversized.expected ∧ 100 * oversized.sent / oversized.expected = 1 ∧
      oversized.percent = .error .multiplyOverflow ∧
      oversized.summary = .error .multiplyOverflow := by
  intro s
  have hmissing : oversized.sent < oversized.expected := by decide
  exact ⟨rfl, by decide, hmissing, by decide, summary_of_many hmissing (by decide)⟩

end LoadHarness.Report
