import Mathlib.Algebra.Order.Field.Power
import Mathlib.Data.Rat.Defs
import Mathlib.Tactic.FieldSimp
import Mathlib.Tactic.Linarith
import Mathlib.Tactic.NormNum
import Mathlib.Tactic.Positivity
import Mathlib.Tactic.Ring

/-! Numbers with 53 binary digits, and the nearest of them to a given one. Main statement: a number that is half
a unit away or less on the grid of its size is the nearest there is. -/

namespace Remedy.Binary64

/-- A multiple of a power of two with at most 53 digits. There is a least power, but no greatest. -/
def IsShort (q : ℚ) : Prop := ∃ k e : ℤ, |k| ≤ 2 ^ 53 ∧ -1074 ≤ e ∧ q = k * 2 ^ e

/-- No short number is closer to the first than the second, which is short. -/
structure Nearest (q r : ℚ) : Prop where
  isShort : IsShort r
  closest : ∀ g, IsShort g → |r - q| ≤ |g - q|

theorem IsShort.neg {q : ℚ} (short : IsShort q) : IsShort (-q) := by
  obtain ⟨k, e, bound, low, rfl⟩ := short
  refine ⟨-k, e, ?_, low, ?_⟩
  · rw [abs_neg]
    exact bound
  · push_cast
    ring

theorem isShort_int {k : ℤ} (bound : |k| ≤ 2 ^ 53) : IsShort (k : ℚ) :=
  ⟨k, 0, bound, by norm_num, by simp⟩

theorem isShort_two_zpow {e : ℤ} (low : -1074 ≤ e) : IsShort (2 ^ e) :=
  ⟨1, e, by norm_num, low, by simp⟩

theorem isShort_zero : IsShort 0 := by
  have short := isShort_int (k := 0) (by norm_num)
  simpa using short

theorem isShort_one : IsShort 1 := by
  have short := isShort_int (k := 1) (by norm_num)
  simpa using short

namespace Nearest

variable {q r q' r' b : ℚ}

theorem neg (nearest : Nearest q r) : Nearest (-q) (-r) := by
  refine ⟨nearest.isShort.neg, ?_⟩
  intro g short
  have closer := nearest.closest (-g) short.neg
  rw [← abs_neg] at closer
  rw [← abs_neg (g - -q)]
  calc
    |-r - -q| = |-(r - q)| := by ring_nf
    _ ≤ |-g - q| := closer
    _ = |-(g - -q)| := by ring_nf

theorem le_of_le (nearest : Nearest q r) (short : IsShort b) (below : q ≤ b) : r ≤ b := by
  by_contra above
  have closer := nearest.closest b short
  rw [abs_of_nonneg (by linarith), abs_of_nonneg (by linarith)] at closer
  linarith

theorem ge_of_ge (nearest : Nearest q r) (short : IsShort b) (above : b ≤ q) : b ≤ r := by
  have mirrored := nearest.neg.le_of_le short.neg (by linarith)
  linarith

theorem eq_of_isShort (nearest : Nearest q r) (short : IsShort q) : r = q :=
  le_antisymm (nearest.le_of_le short (le_refl q)) (nearest.ge_of_ge short (le_refl q))

theorem abs_le_of_abs_le (nearest : Nearest q r) (short : IsShort b) (bound : |q| ≤ b) : |r| ≤ b := by
  obtain ⟨low, high⟩ := abs_le.mp bound
  exact abs_le.mpr ⟨nearest.ge_of_ge short.neg low, nearest.le_of_le short high⟩

theorem mono (nearest : Nearest q r) (nearest' : Nearest q' r') (less : q < q') : r ≤ r' := by
  by_contra swapped
  have first := sq_le_sq.mpr (nearest.closest r' nearest'.isShort)
  have second := sq_le_sq.mpr (nearest'.closest r nearest.isShort)
  nlinarith

end Nearest

theorem nearest_self {q : ℚ} (short : IsShort q) : Nearest q q := by
  refine ⟨short, ?_⟩
  intro g _
  simp

theorem closest_on_grid {k n t : ℤ} {q : ℚ} (near : |k * 2 ^ t - q| ≤ 2 ^ t / 2) :
    |k * 2 ^ t - q| ≤ |n * 2 ^ t - q| := by
  by_cases same : n = k
  · rw [same]
  · have unit : (0 : ℚ) < 2 ^ t := by positivity
    have apart : (1 : ℚ) ≤ |(n : ℚ) - k| := by
      have whole : 1 ≤ |n - k| := Int.one_le_abs (sub_ne_zero.mpr same)
      exact_mod_cast whole
    have far : (2 : ℚ) ^ t ≤ |(n : ℚ) * 2 ^ t - k * 2 ^ t| := by
      calc
        (2 : ℚ) ^ t = 1 * 2 ^ t := by ring
        _ ≤ |(n : ℚ) - k| * 2 ^ t := by gcongr
        _ = |(n : ℚ) * 2 ^ t - k * 2 ^ t| := by rw [← sub_mul, abs_mul, abs_of_pos unit]
    have split : |(n : ℚ) * 2 ^ t - k * 2 ^ t| ≤ |n * 2 ^ t - q| + |q - k * 2 ^ t| := abs_sub_le _ _ _
    rw [abs_sub_comm q] at split
    linarith

theorem on_grid (j : ℤ) {e t : ℤ} (coarse : t ≤ e) : ∃ n : ℤ, (j : ℚ) * 2 ^ e = n * 2 ^ t := by
  refine ⟨j * 2 ^ (e - t).toNat, ?_⟩
  have power : (2 : ℚ) ^ e = 2 ^ (e - t).toNat * 2 ^ t := by
    rw [← zpow_natCast, ← zpow_add₀ (by norm_num : (2 : ℚ) ≠ 0), Int.toNat_of_nonneg (by omega)]
    congr 1
    omega
  push_cast
  rw [power]
  ring

theorem two_zpow_add (a b : ℤ) : (2 : ℚ) ^ (a + b) = 2 ^ a * 2 ^ b := zpow_add₀ (by norm_num) a b

theorem digits_le {k t : ℤ} {q : ℚ} (high : q < 2 ^ (t + 53)) (near : |k * 2 ^ t - q| ≤ 2 ^ t / 2) :
    k ≤ 2 ^ 53 := by
  have unit : (0 : ℚ) < 2 ^ t := by positivity
  have upper := (abs_le.mp near).2
  have scaled : (k : ℚ) * 2 ^ t < (2 ^ 53 + 1) * 2 ^ t := by
    rw [add_comm, two_zpow_add] at high
    norm_num at high ⊢
    linarith
  have below : (k : ℚ) < 2 ^ 53 + 1 := lt_of_mul_lt_mul_right scaled unit.le
  have whole : k < 2 ^ 53 + 1 := by exact_mod_cast below
  omega

theorem le_digits {k t : ℤ} {q : ℚ} (large : 2 ^ (t + 52) ≤ q) (near : |k * 2 ^ t - q| ≤ 2 ^ t / 2) :
    2 ^ 52 ≤ k := by
  have unit : (0 : ℚ) < 2 ^ t := by positivity
  have lower := (abs_le.mp near).1
  have scaled : ((2 : ℚ) ^ 52 - 1) * 2 ^ t < k * 2 ^ t := by
    rw [add_comm, two_zpow_add] at large
    norm_num at large ⊢
    linarith
  have above : (2 : ℚ) ^ 52 - 1 < k := lt_of_mul_lt_mul_right scaled unit.le
  have whole : (2 : ℤ) ^ 52 - 1 < k := by exact_mod_cast above
  omega

/-- What lies within half a unit on the grid of a number's size is nearest to it. -/
theorem nearest_of_grid {k t : ℤ} {q : ℚ} (low : -1074 ≤ t) (sign : 0 ≤ k) (high : q < 2 ^ (t + 53))
    (size : 2 ^ (t + 52) ≤ q ∨ t = -1074) (near : |k * 2 ^ t - q| ≤ 2 ^ t / 2) : Nearest q (k * 2 ^ t) := by
  refine ⟨⟨k, t, ?_, low, rfl⟩, ?_⟩
  · rw [abs_of_nonneg sign]
    exact digits_le high near
  · rintro g ⟨j, e, bound, lowest, rfl⟩
    by_cases coarse : t ≤ e
    · obtain ⟨n, there⟩ := on_grid j coarse
      rw [there]
      exact closest_on_grid near
    · -- A finer grid has nothing beyond the least number of this size.
      have large : (2 : ℚ) ^ (t + 52) ≤ q := by
        rcases size with large | least
        · exact large
        · omega
      have edge : (2 : ℚ) ^ (t + 52) = ((2 ^ 52 : ℤ) : ℚ) * 2 ^ t := by
        rw [add_comm, two_zpow_add]
        norm_num
      have small : (j : ℚ) * 2 ^ e ≤ 2 ^ (t + 52) := by
        have top : (j : ℚ) ≤ 2 ^ 53 := by exact_mod_cast (abs_le.mp bound).2
        calc
          (j : ℚ) * 2 ^ e ≤ 2 ^ 53 * 2 ^ e := by gcongr
          _ = 2 ^ (53 + e) := by
            rw [two_zpow_add]
            norm_num
          _ ≤ 2 ^ (t + 52) := zpow_le_zpow_right₀ (by norm_num) (by omega)
      have inner := closest_on_grid (n := 2 ^ 52) near
      rw [← edge] at inner
      calc
        |(k : ℚ) * 2 ^ t - q| ≤ |2 ^ (t + 52) - q| := inner
        _ = q - 2 ^ (t + 52) := by rw [abs_of_nonpos (by linarith)]; ring
        _ ≤ q - j * 2 ^ e := by linarith
        _ = |j * 2 ^ e - q| := by rw [abs_of_nonpos (by linarith)]; ring

end Remedy.Binary64
