import Remedy.Proofs.Binary64.Rounding

/-! Arithmetic in the model of floating-point numbers. Main statement: the result of an operation on finite
numbers is canonical and nearest to the exact one. -/

namespace Remedy.Binary64

open Float.Model Float.Model.UnpackedFloat

def Rounds (f : UnpackedFloat) (q : ℚ) : Prop := Canonical f ∧ Nearest q (value f)

theorem Nearest.signed {q r : ℚ} (nearest : Nearest q r) (s : Sign) : Nearest (factor s * q) (factor s * r) := by
  cases s with
  | negative => simpa [factor] using nearest.neg
  | positive => simpa [factor] using nearest

theorem factor_mul (s t : Sign) : factor (s * t) = factor s * factor t := by
  cases s <;> cases t <;> decide +kernel

theorem factor_div (s t : Sign) : factor (s / t) = factor s / factor t := by
  cases s <;> cases t <;> decide +kernel

theorem factor_neg (s : Sign) : factor (-s) = -factor s := by
  cases s <;> decide

theorem rounds_roundWithAccuracy (s : Sign) {m : ℕ} {e : ℤ} {acc : Accuracy} {x : ℚ}
    (keeps : Keeps (.ofMantissaAndAccuracy m acc) x) (wide : 2 ^ 52 ≤ m ∨ e ≤ -1074) :
    Rounds (roundWithAccuracy spec s m e acc) (factor s * (x * 2 ^ e)) := by
  have low : e ≤ spec.targetExponent (totalExponent m e) := by
    rw [targetExponent_eq, totalExponent]
    rcases wide with long | least
    · have some : m ≠ 0 := by omega
      have size := (Nat.le_log2 some).mpr long
      omega
    · omega
  obtain ⟨canonical, r, nearest, same⟩ := roundWithAccuracy_nearest s keeps low
  refine ⟨canonical, ?_⟩
  rw [same]
  exact nearest.signed s

theorem rounds_round (s : Sign) {m : ℕ} (some : m ≠ 0) (e : ℤ) :
    Rounds (round spec s m e) (factor s * (m * 2 ^ e)) := by
  unfold UnpackedFloat.round
  obtain ⟨n, steps⟩ : ∃ n, n = (e - spec.targetExponent (totalExponent m e)).toNat := ⟨_, rfl⟩
  have shifted : ((m <<< n : ℕ) : ℚ) * 2 ^ (e - n) = m * 2 ^ e := by
    rw [Nat.shiftLeft_eq, zpow_sub₀ (by norm_num)]
    push_cast
    field_simp
    norm_cast
  have wide : 2 ^ 52 ≤ m <<< n ∨ e - n ≤ -1074 := by
    rw [targetExponent_eq, totalExponent] at steps
    have size := Nat.log2_self_le some
    by_cases long : 52 ≤ m.log2 + n
    · left
      calc
        2 ^ 52 ≤ 2 ^ (m.log2 + n) := Nat.pow_le_pow_right (by norm_num) long
        _ = 2 ^ m.log2 * 2 ^ n := pow_add _ _ _
        _ ≤ m * 2 ^ n := Nat.mul_le_mul_right _ size
        _ = m <<< n := (Nat.shiftLeft_eq _ _).symm
    · right
      omega
  have rounds := rounds_roundWithAccuracy s (keeps_exact (m <<< n)) wide
  rw [shifted] at rounds
  simp only [decreaseExponent, ← steps]
  exact rounds

theorem rounds_zero (s : Sign) : Rounds (.zero s) 0 := ⟨trivial, nearest_self isShort_zero⟩

theorem rounds_normalize (n e : ℤ) (s : Sign) : Rounds (UnpackedFloat.normalize spec n e s) (n * 2 ^ e) := by
  unfold UnpackedFloat.normalize
  rcases order : compare n 0 with _ | _ | _
  · have less := Int.compare_eq_lt.mp order
    have rounds := rounds_round .negative (m := (-n).toNat) (by omega) e
    have cast : (((-n).toNat : ℕ) : ℚ) = -n := by
      have whole : (((-n).toNat : ℕ) : ℤ) = -n := Int.toNat_of_nonneg (by omega)
      exact_mod_cast whole
    rw [cast] at rounds
    simpa [factor] using rounds
  · rw [Int.compare_eq_eq.mp order]
    simpa using rounds_zero s
  · have more := Int.compare_eq_gt.mp order
    have rounds := rounds_round .positive (m := n.toNat) (by omega) e
    have cast : ((n.toNat : ℕ) : ℚ) = n := by
      have whole : ((n.toNat : ℕ) : ℤ) = n := Int.toNat_of_nonneg (by omega)
      exact_mod_cast whole
    rw [cast] at rounds
    simpa [factor] using rounds

theorem Canonical.isShort {f : UnpackedFloat} (canonical : Canonical f) : IsShort (value f) := by
  cases f with
  | zero s => exact isShort_zero
  | infinity s => exact canonical.elim
  | notANumber => exact canonical.elim
  | finite s m e pos =>
      obtain ⟨digits, low, -⟩ := canonical
      have bound : |(m : ℤ)| ≤ 2 ^ 53 := by
        rw [abs_of_nonneg (Int.natCast_nonneg m)]
        omega
      have short : IsShort ((m : ℚ) * 2 ^ e) := ⟨m, e, bound, low, by push_cast; rfl⟩
      cases s with
      | negative =>
          rw [value_finite, factor_negative, neg_one_mul]
          exact short.neg
      | positive =>
          rw [value_finite, factor_positive, one_mul]
          exact short

theorem Canonical.rounds {f : UnpackedFloat} (canonical : Canonical f) : Rounds f (value f) :=
  ⟨canonical, nearest_self canonical.isShort⟩

theorem Canonical.neg {f : UnpackedFloat} (canonical : Canonical f) : Canonical f.neg := by
  cases f <;> exact canonical

theorem value_neg (f : UnpackedFloat) : value f.neg = -value f := by
  cases f with
  | finite s m e pos =>
      change factor (-s) * _ = _
      rw [factor_neg, value_finite]
      ring
  | zero s => exact neg_zero.symm
  | infinity s => exact neg_zero.symm
  | notANumber => exact neg_zero.symm

theorem decreaseExponent_value (s : Sign) (m : ℕ) {e t : ℤ} (low : t ≤ e) :
    (s.apply (decreaseExponent m e t).1 : ℚ) * 2 ^ t = factor s * (m * 2 ^ e) := by
  have power : (2 : ℚ) ^ e = 2 ^ (e - t).toNat * 2 ^ t := by
    rw [← zpow_natCast, ← two_zpow_add]
    congr 1
    omega
  rw [power, decreaseExponent, Nat.shiftLeft_eq]
  cases s <;> simp only [Sign.apply, factor] <;> push_cast <;> ring

variable {f g : UnpackedFloat}

theorem rounds_add (first : Canonical f) (second : Canonical g) :
    Rounds (add spec f g) (value f + value g) := by
  cases f with
  | infinity s => exact first.elim
  | notANumber => exact first.elim
  | zero s =>
      cases g with
      | infinity t => exact second.elim
      | notANumber => exact second.elim
      | zero t =>
          rw [value_zero, value_zero, add_zero]
          cases s <;> cases t <;> exact rounds_zero _
      | finite t m e pos =>
          rw [value_zero, zero_add]
          exact second.rounds
  | finite s m e pos =>
      cases g with
      | infinity t => exact second.elim
      | notANumber => exact second.elim
      | zero t =>
          rw [value_zero, add_zero]
          exact first.rounds
      | finite t n k pos' =>
          have rounds := rounds_normalize (s.apply (decreaseExponent m e (min e k)).1 +
            t.apply (decreaseExponent n k (min e k)).1) (min e k) .positive
          push_cast at rounds
          rw [add_mul, decreaseExponent_value s m (min_le_left e k),
            decreaseExponent_value t n (min_le_right e k)] at rounds
          exact rounds

theorem rounds_sub (first : Canonical f) (second : Canonical g) :
    Rounds (sub spec f g) (value f - value g) := by
  cases f with
  | infinity s => exact first.elim
  | notANumber => exact first.elim
  | zero s =>
      cases g with
      | infinity t => exact second.elim
      | notANumber => exact second.elim
      | zero t =>
          rw [value_zero, value_zero, sub_zero]
          cases s <;> cases t <;> exact rounds_zero _
      | finite t m e pos =>
          have rounds := second.neg.rounds
          rw [value_neg] at rounds
          rw [value_zero, zero_sub]
          exact rounds
  | finite s m e pos =>
      cases g with
      | infinity t => exact second.elim
      | notANumber => exact second.elim
      | zero t =>
          rw [value_zero, sub_zero]
          exact first.rounds
      | finite t n k pos' =>
          have rounds := rounds_normalize (s.apply (decreaseExponent m e (min e k)).1 -
            t.apply (decreaseExponent n k (min e k)).1) (min e k) .positive
          push_cast at rounds
          rw [sub_mul, decreaseExponent_value s m (min_le_left e k),
            decreaseExponent_value t n (min_le_right e k)] at rounds
          exact rounds

theorem rounds_mul_finite (s t : Sign) {m n : ℕ} {e k : ℤ} (pos : 0 < m) (pos' : 0 < n)
    (wide : 2 ^ 52 ≤ m * n ∨ e + k ≤ -1074) :
    Rounds (mul spec (.finite s m e pos) (.finite t n k pos'))
      (factor s * (m * 2 ^ e) * (factor t * (n * 2 ^ k))) := by
  have rounds := rounds_roundWithAccuracy (s * t) (keeps_exact (m * n)) wide
  have exact_value : factor (s * t) * (((m * n : ℕ) : ℚ) * 2 ^ (e + k)) =
      factor s * (m * 2 ^ e) * (factor t * (n * 2 ^ k)) := by
    rw [factor_mul, two_zpow_add]
    push_cast
    ring
  rw [exact_value] at rounds
  exact rounds

theorem rounds_mul (first : Canonical f) (second : Canonical g) :
    Rounds (mul spec f g) (value f * value g) := by
  cases f with
  | infinity s => exact first.elim
  | notANumber => exact first.elim
  | zero s =>
      cases g with
      | infinity t => exact second.elim
      | notANumber => exact second.elim
      | zero t =>
          rw [value_zero, zero_mul]
          exact rounds_zero _
      | finite t n k pos' =>
          rw [value_zero, zero_mul]
          exact rounds_zero _
  | finite s m e pos =>
      cases g with
      | infinity t => exact second.elim
      | notANumber => exact second.elim
      | zero t =>
          rw [value_zero, mul_zero]
          exact rounds_zero _
      | finite t n k pos' =>
          refine rounds_mul_finite s t pos pos' ?_
          obtain ⟨-, low, form⟩ := first
          obtain ⟨-, low', form'⟩ := second
          rcases form with long | least
          · exact .inl (long.trans (Nat.le_mul_of_pos_right m pos'))
          · rcases form' with long | least'
            · exact .inl (long.trans (Nat.le_mul_of_pos_left n pos))
            · exact .inr (by omega)

theorem quotient_wide {m n : ℕ} (some : m ≠ 0) (pos : 0 < n) {d t : ℤ}
    (target : t = min d (max (m.log2 - n.log2 + d - 53) (-1074))) :
    2 ^ 52 ≤ (m <<< (d - t).toNat) / n ∨ t ≤ -1074 := by
  by_cases least : t ≤ -1074
  · exact .inr least
  · left
    have long : n.log2 + 53 ≤ m.log2 + (d - t).toNat := by omega
    rw [Nat.le_div_iff_mul_le pos, Nat.shiftLeft_eq]
    calc
      2 ^ 52 * n ≤ 2 ^ 52 * 2 ^ (n.log2 + 1) := Nat.mul_le_mul_left _ Nat.lt_log2_self.le
      _ = 2 ^ (n.log2 + 53) := by rw [← pow_add]; congr 1; omega
      _ ≤ 2 ^ (m.log2 + (d - t).toNat) := Nat.pow_le_pow_right (by norm_num) long
      _ = 2 ^ m.log2 * 2 ^ (d - t).toNat := pow_add _ _ _
      _ ≤ m * 2 ^ (d - t).toNat := Nat.mul_le_mul_right _ (Nat.log2_self_le some)

theorem quotient_value (s t : Sign) (m : ℕ) {n : ℕ} (pos : 0 < n) {e k d : ℤ} (low : d ≤ e - k) :
    factor (s / t) * (((m <<< (e - k - d).toNat / n : ℕ) + (m <<< (e - k - d).toNat % n : ℕ) / n : ℚ) * 2 ^ d) =
      factor s * (m * 2 ^ e) / (factor t * (n * 2 ^ k)) := by
  have positive : (n : ℚ) ≠ 0 := by exact_mod_cast pos.ne'
  have unit : (2 : ℚ) ^ k ≠ 0 := by positivity
  have whole : ∀ w : ℕ, ((w / n : ℕ) : ℚ) + (w % n : ℕ) / n = w / n := by
    intro w
    have split : (w : ℚ) = n * (w / n : ℕ) + (w % n : ℕ) := by exact_mod_cast (Nat.div_add_mod w n).symm
    rw [split]
    field_simp
  have power : (2 : ℚ) ^ e = 2 ^ (e - k - d).toNat * 2 ^ d * 2 ^ k := by
    rw [← zpow_natCast, ← two_zpow_add, ← two_zpow_add]
    congr 1
    omega
  rw [whole, factor_div, power, Nat.shiftLeft_eq]
  push_cast
  field_simp

theorem rounds_div (first : Canonical f) (second : Canonical g) (nonzero : value g ≠ 0) :
    Rounds (div spec f g) (value f / value g) := by
  cases g with
  | infinity t => exact second.elim
  | notANumber => exact second.elim
  | zero t => exact absurd rfl nonzero
  | finite t n k pos' =>
      cases f with
      | infinity s => exact first.elim
      | notANumber => exact first.elim
      | zero s =>
          rw [value_zero, zero_div]
          exact rounds_zero _
      | finite s m e pos =>
          obtain ⟨d, target⟩ : ∃ d,
              d = min (e - k) (spec.targetExponent (totalExponent m e - totalExponent n k)) := ⟨_, rfl⟩
          have wide : 2 ^ 52 ≤ m <<< (e - k - d).toNat / n ∨ d ≤ -1074 := by
            refine quotient_wide pos.ne' pos' ?_
            rw [target, targetExponent_eq, totalExponent, totalExponent]
            omega
          have rounds := rounds_roundWithAccuracy (s / t)
            (keeps_fraction (m <<< (e - k - d).toNat / n) (Nat.mod_lt (m <<< (e - k - d).toNat) pos')) wide
          rw [quotient_value s t m pos' (by omega)] at rounds
          have unfolded : div spec (.finite s m e pos) (.finite t n k pos') =
              roundWithAccuracy spec (s / t) (m <<< (e - k - d).toNat / n) d
                (accuracyOfFraction (m <<< (e - k - d).toNat % n) n) := by
            rw [target]
            rfl
          rw [unfolded]
          exact rounds

end Remedy.Binary64
