import LoadHarness.Json.Basic
import LoadHarness.Proofs.Text
import Mathlib.Algebra.Order.Field.Power
import Mathlib.Data.Rat.Cast.Order
import Mathlib.Tactic.Linarith
import Mathlib.Tactic.NormNum
import Mathlib.Tactic.Ring

/-!
# Numbers in range

A number is in range if its leading digits, rounded, times its power of ten, rounded too, are
below what rounds beyond the greatest double. The leading digits, with zeros for the others, come to
no more than all digits do (`leading_mul_pow_le`), and a rounding adds no more than one part in
2 ^ 53 (`roundToBits53_mul_le`). So every number is in range that is not among the very greatest
doubles (`inRange_of_magnitude_le`). The greatest one itself need not be, since two roundings may
add more than is left above it.
-/

namespace LoadHarness.Json

/-! ## Leading digits -/

/-- A number counts for more with every digit that follows it. -/
theorem mul_pow_le_valueAfter (n : Nat) (ds : List Char) :
    n * 10 ^ ds.length ≤ Text.valueAfter n ds := by
  induction ds generalizing n with
  | nil => simp [Text.valueAfter]
  | cons d ds ih =>
    calc n * 10 ^ (d :: ds).length = 10 * n * 10 ^ ds.length := by
          rw [List.length_cons]
          ring
      _ ≤ (10 * n + Text.digitValue d) * 10 ^ ds.length :=
          Nat.mul_le_mul_right _ (Nat.le_add_right _ _)
      _ ≤ Text.valueAfter n (d :: ds) := ih _

/-- What `takeDigits` makes of digits that follow a number : a number of the leading ones, and the
count of those left out. -/
structure Leading (n : Nat) (ds : List Char) (m left : Nat) : Prop where
  le_wordMax : m ≤ wordMax
  left_le : left ≤ ds.length
  eq_of_left : left = ds.length → m = n
  eq_of_none : left = 0 → m = Text.valueAfter n ds
  mul_pow_le : m * 10 ^ left ≤ Text.valueAfter n ds
  /-- The first of the digits left out does not fit. -/
  lt_of_some : 0 < left → (wordMax + 1) * 10 ^ (left - 1) ≤ Text.valueAfter n ds

theorem leading_takeDigits {n : Nat} (hn : n ≤ wordMax) (ds : List Char) :
    Leading n ds (takeDigits n ds).1 (takeDigits n ds).2 := by
  induction ds generalizing n with
  | nil =>
    exact ⟨hn, Nat.le_refl 0, fun _ => rfl, fun _ => rfl, mul_pow_le_valueAfter n [],
      fun h => absurd h (Nat.lt_irrefl 0)⟩
  | cons d ds ih =>
    by_cases hnext : 10 * n + Text.digitValue d ≤ wordMax
    · have htake : takeDigits n (d :: ds) = takeDigits (10 * n + Text.digitValue d) ds := by
        simp only [takeDigits, if_pos hnext]
      obtain ⟨hword, hleft, -, hnone, hle, hlt⟩ := ih hnext
      rw [htake]
      refine ⟨hword, Nat.le_succ_of_le hleft, fun h => ?_, hnone, hle, hlt⟩
      rw [List.length_cons] at h
      omega
    · have htake : takeDigits n (d :: ds) = (n, (d :: ds).length) := by
        simp only [takeDigits, if_neg hnext]
      rw [htake]
      refine ⟨hn, Nat.le_refl _, fun _ => rfl, fun h => absurd h (Nat.succ_ne_zero _),
        mul_pow_le_valueAfter n (d :: ds), fun _ => ?_⟩
      exact Nat.le_trans (Nat.mul_le_mul_right _ (Nat.lt_of_not_le hnext))
        (mul_pow_le_valueAfter _ ds)

/-- The digits in front of the point and those behind it, left out where they do not fit, come to
no more than all of them do. -/
theorem leading_mul_pow_le {whole fraction : List Char} {m dropped n lost : Nat}
    (hwhole : Leading 0 whole m dropped) (hfraction : Leading m fraction n lost) :
    n * 10 ^ (dropped + lost) ≤ Text.value (whole ++ fraction) := by
  have hafter := mul_pow_le_valueAfter (Text.valueAfter 0 whole) fraction
  rw [show Text.value (whole ++ fraction) = _ from Text.value_append whole fraction]
  change _ ≤ Text.valueAfter (Text.valueAfter 0 whole) fraction
  by_cases hall : dropped = 0
  · subst hall
    have hle := hfraction.mul_pow_le
    rw [hwhole.eq_of_none rfl] at hle
    rwa [Nat.zero_add]
  · by_cases hnone : lost = fraction.length
    · rw [hfraction.eq_of_left hnone, hnone, Nat.pow_add, ← Nat.mul_assoc]
      exact Nat.le_trans (Nat.mul_le_mul_right _ hwhole.mul_pow_le) hafter
    · -- A digit behind the point was taken where one in front of it did not fit.
      have hlost : lost + 1 ≤ fraction.length := Nat.lt_of_le_of_ne hfraction.left_le hnone
      calc n * 10 ^ (dropped + lost)
          ≤ (wordMax + 1) * 10 ^ (dropped + lost) :=
            Nat.mul_le_mul_right _ (Nat.le_succ_of_le hfraction.le_wordMax)
        _ = (wordMax + 1) * 10 ^ (dropped - 1) * 10 ^ (lost + 1) := by
            rw [Nat.mul_assoc, ← Nat.pow_add]
            congr 2
            omega
        _ ≤ Text.valueAfter 0 whole * 10 ^ fraction.length :=
            Nat.mul_le_mul (hwhole.lt_of_some (Nat.pos_of_ne_zero hall))
              (Nat.pow_le_pow_right (by decide) hlost)
        _ ≤ Text.valueAfter (Text.valueAfter 0 whole) fraction := hafter

/-! ## Rounding -/

/-- Rounding to 53 bits adds no more than one part in 2 to the power 53. -/
theorem roundToBits53_mul_le (n : Nat) : roundToBits53 n * 2 ^ 53 ≤ n * (2 ^ 53 + 1) := by
  have hunit : 0 < 2 ^ (n.log2 - 52) := Nat.two_pow_pos _
  have hnear := (Text.quotientToEven_near n _ hunit).2
  rw [roundToBits53, Nat.one_shiftLeft]
  generalize hq : Text.quotientToEven n (2 ^ (n.log2 - 52)) = q at hnear ⊢
  by_cases hlog : n.log2 < 52
  · rw [show n.log2 - 52 = 0 by omega] at hnear ⊢
    omega
  · have hpow : 2 ^ 52 * 2 ^ (n.log2 - 52) ≤ n := by
      rw [← Nat.pow_add, show 52 + (n.log2 - 52) = n.log2 by omega]
      refine Nat.log2_self_le ?_
      rintro rfl
      simp at hlog
    generalize 2 ^ (n.log2 - 52) = unit at hnear hpow ⊢
    rw [Nat.mul_assoc] at hnear
    generalize q * unit = x at hnear ⊢
    omega

/-! ## Range -/

/-- The absolute value of a number. -/
def Number.magnitude (n : Number) : ℚ :=
  Text.value (n.whole ++ n.fraction) * 10 ^ (n.exponent.getD 0 - n.fraction.length)

/-- The greatest finite double. -/
def greatest : Nat := 2 ^ 1024 - 2 ^ 971

/-- The third greatest one. -/
def safeBound : Nat := 2 ^ 1024 - 3 * 2 ^ 971

/-- Two roundings do not lead from the safe bound beyond the greatest finite number. -/
theorem mul_roundToBits53_lt {m n : Nat} (h : m * n ≤ safeBound) :
    roundToBits53 m * roundToBits53 n < overflowBound := by
  have hbound : safeBound * (2 ^ 53 + 1) ^ 2 < overflowBound * 2 ^ 106 := by
    decide +kernel
  have hproduct : roundToBits53 m * roundToBits53 n * 2 ^ 106 ≤ m * n * (2 ^ 53 + 1) ^ 2 :=
    calc roundToBits53 m * roundToBits53 n * 2 ^ 106
        = roundToBits53 m * 2 ^ 53 * (roundToBits53 n * 2 ^ 53) := by ring
      _ ≤ m * (2 ^ 53 + 1) * (n * (2 ^ 53 + 1)) :=
          Nat.mul_le_mul (roundToBits53_mul_le m) (roundToBits53_mul_le n)
      _ = m * n * (2 ^ 53 + 1) ^ 2 := by ring
  refine Nat.lt_of_mul_lt_mul_right (a := 2 ^ 106) ?_
  exact Nat.lt_of_le_of_lt (Nat.le_trans hproduct (Nat.mul_le_mul_right _ h)) hbound

theorem lt_of_mul_pow_le {b bound k n : Nat} (hb : bound < 10 ^ b) (hn : n ≠ 0)
    (h : n * 10 ^ k ≤ bound) : k < b := by
  have hmul : 10 ^ k ≤ n * 10 ^ k := Nat.le_mul_of_pos_left _ (Nat.pos_of_ne_zero hn)
  exact (Nat.pow_lt_pow_iff_right (by decide)).1 (Nat.lt_of_le_of_lt (hmul.trans h) hb)

theorem scaledInRange_of_le {n : Nat} {e : Int} (h : (n : ℚ) * 10 ^ e ≤ safeBound) :
    scaledInRange n e = true := by
  by_cases hn : n = 0
  · rw [scaledInRange.eq_def, if_pos hn]
  · cases e with
    | negSucc k => rw [scaledInRange.eq_def, if_neg hn]
    | ofNat k =>
      have hle : n * 10 ^ k ≤ safeBound := by
        rw [Int.ofNat_eq_natCast, zpow_natCast] at h
        exact_mod_cast h
      have hk : k < 309 := lt_of_mul_pow_le (by decide +kernel) hn hle
      rw [scaledInRange.eq_def, if_neg hn]
      simp only [Bool.and_eq_true, decide_eq_true_eq]
      exact ⟨Nat.le_of_lt_succ hk, mul_roundToBits53_lt hle⟩

/-- Every number up to the safe bound is in range, however many digits it is written with. -/
theorem inRange_of_magnitude_le {n : Number} (h : n.magnitude ≤ safeBound) : n.inRange = true := by
  have hwhole := leading_takeDigits (Nat.zero_le wordMax) n.whole
  have hfraction := leading_takeDigits hwhole.le_wordMax n.fraction
  have hle := leading_mul_pow_le hwhole hfraction
  rw [Number.inRange]
  generalize takeDigits 0 n.whole = w at hwhole hfraction hle ⊢
  obtain ⟨m, dropped⟩ := w
  dsimp only at hwhole hfraction hle ⊢
  generalize takeDigits m n.fraction = f at hfraction hle ⊢
  obtain ⟨f, lost⟩ := f
  dsimp only at hfraction hle ⊢
  refine scaledInRange_of_le (le_trans ?_ h)
  have hexponent : (dropped : Int) - ((n.fraction.length - lost : Nat) : Int) + n.exponent.getD 0 =
      ((dropped + lost : Nat) : Int) + (n.exponent.getD 0 - n.fraction.length) := by
    have hlost := hfraction.left_le
    omega
  rw [hexponent, zpow_add₀ (by norm_num), zpow_natCast, ← mul_assoc, Number.magnitude]
  refine mul_le_mul_of_nonneg_right ?_ (zpow_nonneg (by norm_num) _)
  exact_mod_cast hle

end LoadHarness.Json
