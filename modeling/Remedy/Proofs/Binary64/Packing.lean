import Remedy.Proofs.Binary64.Rounding

/-! Storing numbers in 64 bits. Main statement: what is stored is what is read again. -/

namespace Remedy.Binary64

open Float.Model Float.Model.UnpackedFloat

def Stored : UnpackedFloat → Prop
  | .finite _ m e _ => m < 2 ^ 53 ∧ -1074 ≤ e ∧ (2 ^ 52 ≤ m ∨ e = -1074) ∧ e ≤ 971
  | .zero _ => True
  | _ => False

theorem Stored.canonical {f : UnpackedFloat} (stored : Stored f) : Canonical f := by
  cases f with
  | finite s m e pos => exact ⟨stored.1, stored.2.1, stored.2.2.1⟩
  | zero s => trivial
  | infinity s => exact stored
  | notANumber => exact stored

theorem abs_factor (s : Sign) : |factor s| = 1 := by
  cases s <;> simp [factor]

theorem Canonical.stored {f : UnpackedFloat} (canonical : Canonical f) (small : |value f| < 2 ^ (1024 : ℤ)) :
    Stored f := by
  cases f with
  | zero s => trivial
  | infinity s => exact canonical
  | notANumber => exact canonical
  | finite s m e pos =>
      obtain ⟨digits, low, form⟩ := canonical
      refine ⟨digits, low, form, ?_⟩
      by_contra large
      have full : 2 ^ 52 ≤ m := by
        rcases form with full | least
        · exact full
        · omega
      have magnitude : |value (.finite s m e pos)| = m * 2 ^ e := by
        rw [value_finite, abs_mul, abs_factor, one_mul, abs_of_nonneg (by positivity)]
      have whole : (2 : ℚ) ^ (52 : ℤ) ≤ m := by exact_mod_cast full
      have power : (2 : ℚ) ^ (972 : ℤ) ≤ 2 ^ e := zpow_le_zpow_right₀ (by norm_num) (by omega)
      have above : (2 : ℚ) ^ (1024 : ℤ) ≤ m * 2 ^ e := by
        calc
          (2 : ℚ) ^ (1024 : ℤ) = 2 ^ (52 : ℤ) * 2 ^ (972 : ℤ) := two_zpow_add 52 972
          _ ≤ m * 2 ^ e := by gcongr
      rw [magnitude] at small
      exact absurd small (not_lt.mpr above)

theorem unpackSign_packComponents {format : Format} (s : Sign) (e : BitVec format.exponentBits)
    (m : BitVec format.mantissaBitsWithoutImplicit) :
    unpackSign (packComponents format s e m) = s.toBitVec := by
  ext i below
  have first : i = 0 := by omega
  delta unpackSign packComponents
  simp [first, BitVec.getLsbD_append, BitVec.getElem_append]

theorem ofBitVec_toBitVec (s : Sign) : Sign.ofBitVec s.toBitVec = s := by
  cases s <;> rfl

theorem implicit_bit (m : BitVec 52) : (1#1 ++ m).toNat = 2 ^ 52 + m.toNat := by
  rw [BitVec.toNat_append, ← Nat.shiftLeft_add_eq_or_of_lt m.isLt]
  rfl

theorem finite_congr (s : Sign) {m n : ℕ} {e k : ℤ} {pos : 0 < m} {pos' : 0 < n} (same : m = n)
    (equal : e = k) : UnpackedFloat.finite s m e pos = .finite s n k pos' := by
  subst same equal
  rfl

def decode (s : Sign) (e : BitVec 11) (m : BitVec 52) : UnpackedFloat :=
  if e = -1#11 then
    if m = 0#52 then .infinity s else .notANumber
  else if e = 0#11 then
    if none : m = 0#52 then .zero s
    else .finite s m.toNat (-1074) (by simpa [BitVec.toNat_pos, BitVec.pos_iff_ne_zero] using none)
  else .finite s (2 ^ 52 + m.toNat) (e.toNat - 1075) (by omega)

theorem unpack_eq (b : BitVec 64) :
    unpack spec b = decode (Sign.ofBitVec (@unpackSign spec b)) (@unpackExponent spec b) (@unpackMantissa spec b) := by
  by_cases infinite : @unpackExponent spec b = -1#11
  · rw [decode, if_pos infinite]
    exact if_pos infinite
  · by_cases least : @unpackExponent spec b = 0#11
    · rw [decode, if_neg infinite, if_pos least]
      refine ((if_neg infinite).trans (if_pos least)).trans ?_
      by_cases none : @unpackMantissa spec b = 0#52
      · rw [dif_pos none, dif_pos none]
      · rw [dif_neg none, dif_neg none]
        refine finite_congr _ rfl ?_
        rw [least]
        rfl
    · rw [decode, if_neg infinite, if_neg least]
      exact ((if_neg infinite).trans (if_neg least)).trans (finite_congr _ (implicit_bit _) rfl)

theorem decode_normal (s : Sign) {e : BitVec 11} (m : BitVec 52) (finite : e ≠ -1#11) (normal : e ≠ 0#11) :
    decode s e m = .finite s (2 ^ 52 + m.toNat) (e.toNat - 1075) (by omega) := by
  rw [decode, if_neg finite, if_neg normal]

theorem decode_subnormal (s : Sign) {m : BitVec 52} (pos : 0 < m.toNat) :
    decode s 0#11 m = .finite s m.toNat (-1074) pos := by
  have some : m ≠ 0#52 := by
    rintro rfl
    exact Nat.lt_irrefl 0 pos
  rw [decode, if_neg (by decide), if_pos rfl, dif_neg some]

theorem stored_decode (s : Sign) (e : BitVec 11) (m : BitVec 52) :
    Stored (decode s e m) ∨ (∃ t, decode s e m = .infinity t) ∨ decode s e m = .notANumber := by
  have digits := m.isLt
  have range := e.isLt
  by_cases infinite : e = -1#11
  · right
    rw [decode, if_pos infinite]
    by_cases none : m = 0#52
    · rw [if_pos none]
      exact .inl ⟨s, rfl⟩
    · rw [if_neg none]
      exact .inr rfl
  · left
    by_cases least : e = 0#11
    · by_cases none : m = 0#52
      · rw [decode, if_neg infinite, if_pos least, dif_pos none]
        trivial
      · have pos : 0 < m.toNat := Nat.pos_of_ne_zero fun zero => none (BitVec.eq_of_toNat_eq zero)
        rw [least, decode_subnormal s pos]
        exact ⟨by omega, by omega, .inr rfl, by omega⟩
    · have high : e.toNat ≠ 2047 := fun ones => infinite (BitVec.eq_of_toNat_eq ones)
      have low : e.toNat ≠ 0 := fun zeros => least (BitVec.eq_of_toNat_eq zeros)
      rw [decode_normal s m infinite least]
      exact ⟨by omega, by omega, .inl (by omega), by omega⟩

theorem stored_unpack (b : BitVec 64) :
    Stored (unpack spec b) ∨ (∃ s, unpack spec b = .infinity s) ∨ unpack spec b = .notANumber := by
  rw [unpack_eq]
  exact stored_decode _ _ _

theorem unpack_packComponents (s : Sign) (e : BitVec 11) (m : BitVec 52) :
    unpack spec (packComponents spec s e m) = decode s e m := by
  rw [unpack_eq, unpackSign_packComponents, unpackExponent_packComponents, unpackMantissa_packComponents,
    ofBitVec_toBitVec]

theorem unpack_zero (s : Sign) : unpack spec (packedZero spec s) = .zero s := by
  cases s <;> rfl

theorem pack_finite (s : Sign) {m : ℕ} {e : ℤ} (pos : 0 < m) (low : -1074 ≤ e) (high : e ≤ 971) :
    pack spec (.finite s m e pos) =
      if m.log2 + 1 = 53 then packComponents spec s (BitVec.ofNat 11 (e + 1075).toNat) (BitVec.ofNat 52 m)
      else packComponents spec s 0#11 (BitVec.ofNat 52 m) := by
  have biased : e + spec.exponentBias + spec.mantissaBitsWithoutImplicit = e + 1075 := by
    have bias : (spec.exponentBias : ℤ) + (spec.mantissaBitsWithoutImplicit : ℕ) = 1075 := by decide
    rw [add_assoc, bias]
  have fits : ¬2 ^ 11 ≤ (e + 1075).toNat + 1 := by omega
  unfold UnpackedFloat.pack
  simp only [biased]
  exact if_neg fits

theorem decode_full (s : Sign) {m : ℕ} {e : ℤ} (full : 2 ^ 52 ≤ m) (digits : m < 2 ^ 53) (low : -1074 ≤ e)
    (high : e ≤ 971) :
    decode s (BitVec.ofNat 11 (e + 1075).toNat) (BitVec.ofNat 52 m) = .finite s m e (by omega) := by
  have exponent : (BitVec.ofNat 11 (e + 1075).toNat).toNat = (e + 1075).toNat :=
    BitVec.toNat_ofNat _ _ ▸ Nat.mod_eq_of_lt (by omega)
  have rest : (BitVec.ofNat 52 m).toNat = m - 2 ^ 52 := by
    rw [BitVec.toNat_ofNat, Nat.mod_eq_sub_mod full, Nat.mod_eq_of_lt (by omega)]
  have finite : BitVec.ofNat 11 (e + 1075).toNat ≠ -1#11 := by
    intro ones
    have equal := congrArg BitVec.toNat ones
    rw [exponent] at equal
    simp at equal
    omega
  have normal : BitVec.ofNat 11 (e + 1075).toNat ≠ 0#11 := by
    intro zeros
    have equal := congrArg BitVec.toNat zeros
    rw [exponent] at equal
    simp at equal
    omega
  rw [decode_normal s _ finite normal]
  exact finite_congr s (by omega) (by omega)

/-- What is stored is what is read again. -/
theorem unpack_pack {f : UnpackedFloat} (stored : Stored f) : unpack spec (pack spec f) = f := by
  cases f with
  | zero s => exact unpack_zero s
  | infinity s => exact stored.elim
  | notANumber => exact stored.elim
  | finite s m e pos =>
      obtain ⟨digits, low, form, high⟩ := stored
      rw [pack_finite s pos low high]
      by_cases full : 2 ^ 52 ≤ m
      · have size : m.log2 = 52 := by
          have less := (Nat.log2_lt pos.ne').mpr digits
          have more := (Nat.le_log2 pos.ne').mpr full
          omega
        rw [if_pos (by omega), unpack_packComponents]
        exact decode_full s full digits low high
      · have least : e = -1074 := by
          rcases form with large | least
          · exact absurd large full
          · exact least
        have same : (BitVec.ofNat 52 m).toNat = m := by
          rw [BitVec.toNat_ofNat, Nat.mod_eq_of_lt (by omega)]
        have size : m.log2 + 1 ≠ 53 := by
          have less := (Nat.log2_lt pos.ne').mpr (not_le.mp full)
          omega
        have some : 0 < (BitVec.ofNat 52 m).toNat := by omega
        rw [if_neg size, unpack_packComponents, decode_subnormal s some]
        exact finite_congr s same least.symm

end Remedy.Binary64
