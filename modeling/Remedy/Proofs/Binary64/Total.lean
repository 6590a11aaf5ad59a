import Remedy.Proofs.Binary64.Float

/-! The total order of stored numbers. Main statement: on finite values it is the order of the numbers that are
meant. -/

namespace Remedy.Binary64

open Float.Model Float.Model.UnpackedFloat

def magnitude (n : ℕ) : ℚ :=
  if n < 2 ^ 52 then n * 2 ^ (-1074 : ℤ)
  else (2 ^ 52 + n % 2 ^ 52 : ℕ) * 2 ^ ((n / 2 ^ 52 : ℕ) - 1075 : ℤ)

theorem magnitude_nonneg (n : ℕ) : 0 ≤ magnitude n := by
  unfold magnitude
  split <;> positivity

theorem magnitude_mono {n k : ℕ} (order : n ≤ k) : magnitude n ≤ magnitude k := by
  unfold magnitude
  by_cases small : n < 2 ^ 52
  · rw [if_pos small]
    by_cases small' : k < 2 ^ 52
    · rw [if_pos small']
      gcongr
    · rw [if_neg small']
      have power : (2 : ℚ) ^ (-1074 : ℤ) ≤ 2 ^ ((k / 2 ^ 52 : ℕ) - 1075 : ℤ) :=
        zpow_le_zpow_right₀ (by norm_num) (by omega)
      have digits : n ≤ 2 ^ 52 + k % 2 ^ 52 := by omega
      have digits' : (n : ℚ) ≤ (2 ^ 52 + k % 2 ^ 52 : ℕ) := by exact_mod_cast digits
      gcongr
  · rw [if_neg small, if_neg (by omega)]
    by_cases same : n / 2 ^ 52 = k / 2 ^ 52
    · rw [same]
      have digits : 2 ^ 52 + n % 2 ^ 52 ≤ 2 ^ 52 + k % 2 ^ 52 := by omega
      gcongr
    · have less : ((n / 2 ^ 52 : ℕ) - 1075 : ℤ) < (k / 2 ^ 52 : ℕ) - 1075 := by omega
      exact (lt_of_exponent_lt (by omega) (by omega) (.inl (by omega)) less).le

theorem value_decode {s : Sign} {e : BitVec 11} {m : BitVec 52} (stored : Stored (decode s e m)) :
    value (decode s e m) = factor s * magnitude (e.toNat * 2 ^ 52 + m.toNat) := by
  have digits := m.isLt
  have fraction : (e.toNat * 2 ^ 52 + m.toNat) % 2 ^ 52 = m.toNat := by omega
  have exponent : (e.toNat * 2 ^ 52 + m.toNat) / 2 ^ 52 = e.toNat := by omega
  by_cases infinite : e = -1#11
  · rw [decode, if_pos infinite] at stored
    split at stored <;> exact stored.elim
  · by_cases least : e = 0#11
    · subst least
      have small : (0#11).toNat * 2 ^ 52 + m.toNat < 2 ^ 52 := by
        simp only [BitVec.toNat_ofNat]
        omega
      rw [magnitude, if_pos small]
      by_cases none : m = 0#52
      · subst none
        rw [decode, if_neg infinite, if_pos rfl, dif_pos rfl, value_zero]
        simp
      · have pos : 0 < m.toNat := Nat.pos_of_ne_zero fun zero => none (BitVec.eq_of_toNat_eq zero)
        rw [decode_subnormal s pos, value_finite]
        simp
    · have some : e.toNat ≠ 0 := fun zeros => least (BitVec.eq_of_toNat_eq zeros)
      rw [decode_normal s m infinite least, value_finite, magnitude, if_neg (by omega), fraction, exponent]

theorem unpack_fields (b : BitVec 64) :
    (@unpackExponent spec b).toNat * 2 ^ 52 + (@unpackMantissa spec b).toNat = b.toNat % 2 ^ 63 := by
  have range := b.isLt
  have exponent : (@unpackExponent spec b).toNat = b.toNat / 2 ^ 52 % 2 ^ 11 := by
    simp [unpackExponent, Nat.shiftRight_eq_div_pow]
  have mantissa : (@unpackMantissa spec b).toNat = b.toNat % 2 ^ 52 := by
    simp [unpackMantissa]
  rw [exponent, mantissa]
  omega

theorem unpack_sign (b : BitVec 64) :
    Sign.ofBitVec (@unpackSign spec b) = if b.toNat < 2 ^ 63 then .positive else .negative := by
  have range := b.isLt
  have bit : (@unpackSign spec b).toNat = b.toNat / 2 ^ 63 := by
    delta unpackSign
    simp [Nat.shiftRight_eq_div_pow]
    omega
  by_cases small : b.toNat < 2 ^ 63
  · have clear : @unpackSign spec b = 0#1 := BitVec.eq_of_toNat_eq (by rw [bit]; simp; omega)
    rw [if_pos small, clear]
    rfl
  · have set : @unpackSign spec b = 1#1 := BitVec.eq_of_toNat_eq (by rw [bit]; simp; omega)
    rw [if_neg small, set]
    rfl

variable {x y : Float} {a b : ℚ}

theorem Denotes.eq_magnitude (denotes : Denotes x a) :
    a = if x.toBits.toNat < 2 ^ 63 then magnitude x.toBits.toNat
      else -magnitude (x.toBits.toNat - 2 ^ 63) := by
  obtain ⟨stored, same⟩ := denotes
  have range := x.toBits.toNat_lt
  have unpacked : x.toModel.unpack = unpack spec x.toBits.toBitVec := rfl
  have bits : x.toBits.toBitVec.toNat = x.toBits.toNat := rfl
  rw [unpacked, unpack_eq] at stored same
  rw [← same, value_decode stored, unpack_fields, unpack_sign, bits]
  by_cases small : x.toBits.toNat < 2 ^ 63
  · rw [if_pos small, if_pos small, factor_positive, one_mul, Nat.mod_eq_of_lt small]
  · have rest : x.toBits.toNat % 2 ^ 63 = x.toBits.toNat - 2 ^ 63 := by omega
    rw [if_neg small, if_neg small, factor_negative, neg_one_mul, rest]

theorem floatKey_eq (x : Float) :
    floatKey x = if x.toBits.toNat < 2 ^ 63 then (x.toBits.toNat : ℤ)
      else -((x.toBits.toNat - 2 ^ 63 : ℕ) : ℤ) - 1 := rfl

/-- The total order never contradicts the order of the numbers. -/
theorem Denotes.le_of_floatKey (first : Denotes x a) (second : Denotes y b) (order : floatKey x ≤ floatKey y) :
    a ≤ b := by
  rw [floatKey_eq, floatKey_eq] at order
  rw [first.eq_magnitude, second.eq_magnitude]
  by_cases positive : x.toBits.toNat < 2 ^ 63
  · by_cases positive' : y.toBits.toNat < 2 ^ 63
    · rw [if_pos positive, if_pos positive'] at order ⊢
      exact magnitude_mono (by exact_mod_cast order)
    · rw [if_pos positive, if_neg positive'] at order
      omega
  · by_cases positive' : y.toBits.toNat < 2 ^ 63
    · rw [if_neg positive, if_pos positive']
      exact (neg_nonpos.mpr (magnitude_nonneg _)).trans (magnitude_nonneg _)
    · rw [if_neg positive, if_neg positive'] at order ⊢
      exact neg_le_neg (magnitude_mono (by omega))

end Remedy.Binary64
