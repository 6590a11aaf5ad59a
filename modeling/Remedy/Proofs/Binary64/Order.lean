import Remedy.Proofs.Binary64.Rounding

/-! Comparing in the model of floating-point numbers. Main statement: canonical numbers compare as the numbers
that are meant. -/

namespace Remedy.Binary64

open Float.Model Float.Model.UnpackedFloat

theorem compare_neg (a b : ℚ) : compare (-a) (-b) = (compare a b).swap := by
  rcases order : compare a b with _ | _ | _
  · have less := compare_lt_iff_lt.mp order
    exact compare_gt_iff_gt.mpr (neg_lt_neg less)
  · rw [compare_eq_iff_eq.mp order]
    exact compare_eq_iff_eq.mpr rfl
  · have more := compare_gt_iff_gt.mp order
    exact compare_lt_iff_lt.mpr (neg_lt_neg more)

theorem lt_of_exponent_lt {m n : ℕ} {e k : ℤ} (digits : m < 2 ^ 53) (low : -1074 ≤ e)
    (form : 2 ^ 52 ≤ n ∨ k = -1074) (less : e < k) : (m : ℚ) * 2 ^ e < n * 2 ^ k := by
  have full : (2 : ℚ) ^ 52 ≤ n := by
    rcases form with full | least
    · exact_mod_cast full
    · omega
  have short : (m : ℚ) < 2 ^ 53 := by exact_mod_cast digits
  have unit : (0 : ℚ) < 2 ^ e := by positivity
  have power : (2 : ℚ) ^ (e + 1) ≤ 2 ^ k := zpow_le_zpow_right₀ (by norm_num) (by omega)
  calc
    (m : ℚ) * 2 ^ e < 2 ^ 53 * 2 ^ e := by gcongr
    _ = 2 ^ 52 * 2 ^ (e + 1) := by
      rw [two_zpow_add]
      ring
    _ ≤ n * 2 ^ k := by gcongr

theorem compare_magnitudes {m n : ℕ} {e k : ℤ} (first : m < 2 ^ 53 ∧ -1074 ≤ e ∧ (2 ^ 52 ≤ m ∨ e = -1074))
    (second : n < 2 ^ 53 ∧ -1074 ≤ k ∧ (2 ^ 52 ≤ n ∨ k = -1074)) :
    (compare e k).then (compare m n) = compare ((m : ℚ) * 2 ^ e) (n * 2 ^ k) := by
  rcases order : compare e k with _ | _ | _
  · have less := Int.compare_eq_lt.mp order
    exact (compare_lt_iff_lt.mpr (lt_of_exponent_lt first.1 first.2.1 second.2.2 less)).symm
  · have same := Int.compare_eq_eq.mp order
    have unit : (0 : ℚ) < 2 ^ k := by positivity
    rw [same, Ordering.then]
    rcases digits : compare m n with _ | _ | _
    · have less : (m : ℚ) < n := by exact_mod_cast Nat.compare_eq_lt.mp digits
      exact (compare_lt_iff_lt.mpr (by gcongr)).symm
    · rw [Nat.compare_eq_eq.mp digits]
      exact (compare_eq_iff_eq.mpr rfl).symm
    · have more : (n : ℚ) < m := by exact_mod_cast Nat.compare_eq_gt.mp digits
      exact (compare_gt_iff_gt.mpr (by gcongr)).symm
  · have more := Int.compare_eq_gt.mp order
    exact (compare_gt_iff_gt.mpr (lt_of_exponent_lt second.1 second.2.1 first.2.2 more)).symm

theorem value_positive {m : ℕ} (e : ℤ) (pos : 0 < m) : 0 < value (.finite .positive m e pos) := by
  have some : (0 : ℚ) < m := by exact_mod_cast pos
  rw [value_finite, factor_positive, one_mul]
  positivity

theorem value_negative {m : ℕ} (e : ℤ) (pos : 0 < m) : value (.finite .negative m e pos) < 0 := by
  have some : (0 : ℚ) < m := by exact_mod_cast pos
  have positive : (0 : ℚ) < m * 2 ^ e := by positivity
  rw [value_finite, factor_negative, neg_one_mul]
  linarith

/-- Canonical numbers compare as the numbers that are meant. -/
theorem compare_canonical {f g : UnpackedFloat} (first : Canonical f) (second : Canonical g) :
    f.compare g = some (compare (value f) (value g)) := by
  cases f with
  | infinity s => exact first.elim
  | notANumber => exact first.elim
  | zero s =>
      cases g with
      | infinity t => exact second.elim
      | notANumber => exact second.elim
      | zero t =>
          exact congrArg some (compare_eq_iff_eq.mpr rfl).symm
      | finite t n k pos' =>
          cases t with
          | negative => exact congrArg some (compare_gt_iff_gt.mpr (value_negative k pos')).symm
          | positive => exact congrArg some (compare_lt_iff_lt.mpr (value_positive k pos')).symm
  | finite s m e pos =>
      cases g with
      | infinity t => exact second.elim
      | notANumber => exact second.elim
      | zero t =>
          cases s with
          | negative => exact congrArg some (compare_lt_iff_lt.mpr (value_negative e pos)).symm
          | positive => exact congrArg some (compare_gt_iff_gt.mpr (value_positive e pos)).symm
      | finite t n k pos' =>
          have magnitudes := compare_magnitudes first second
          cases s with
          | negative =>
              cases t with
              | negative =>
                  change some ((compare e k).then (compare m n)).swap = _
                  rw [magnitudes, ← compare_neg]
                  rw [value_finite, value_finite, factor_negative, neg_one_mul, neg_one_mul]
              | positive =>
                  have less := (value_negative e pos).trans (value_positive k pos')
                  exact congrArg some (compare_lt_iff_lt.mpr less).symm
          | positive =>
              cases t with
              | negative =>
                  have more := (value_negative k pos').trans (value_positive e pos)
                  exact congrArg some (compare_gt_iff_gt.mpr more).symm
              | positive =>
                  change some ((compare e k).then (compare m n)) = _
                  rw [magnitudes]
                  rw [value_finite, value_finite, factor_positive, one_mul, one_mul]

theorem le_canonical {f g : UnpackedFloat} (first : Canonical f) (second : Canonical g) :
    f.le g = true ↔ value f ≤ value g := by
  rw [UnpackedFloat.le, compare_canonical first second, Option.any_some, Ordering.isLE_iff_ne_gt,
    compare_gt_iff_gt, not_lt]

theorem lt_canonical {f g : UnpackedFloat} (first : Canonical f) (second : Canonical g) :
    f.lt g = true ↔ value f < value g := by
  rw [UnpackedFloat.lt, compare_canonical first second, ← compare_lt_iff_lt]
  cases compare (value f) (value g) <;> decide

end Remedy.Binary64
