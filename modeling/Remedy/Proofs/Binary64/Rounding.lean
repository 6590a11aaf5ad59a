import Remedy.Proofs.Binary64.Nearest

/-! Rounding in the model of floating-point numbers. Main statement: what a number is rounded to is canonical
and nearest to it. -/

namespace Remedy.Binary64

open Float.Model Float.Model.UnpackedFloat

abbrev spec : Format := Format.binary64

def factor : Sign → ℚ
  | .negative => -1
  | .positive => 1

def value : UnpackedFloat → ℚ
  | .finite s m e _ => factor s * (m * 2 ^ e)
  | _ => 0

theorem factor_negative : factor .negative = -1 := rfl

theorem factor_positive : factor .positive = 1 := rfl

theorem value_zero (s : Sign) : value (.zero s) = 0 := rfl

theorem value_finite (s : Sign) {m : ℕ} (e : ℤ) (pos : 0 < m) :
    value (.finite s m e pos) = factor s * (m * 2 ^ e) := rfl

/-- The form in which a finite number can be stored, unless it is too large. -/
def Canonical : UnpackedFloat → Prop
  | .zero _ => True
  | .finite _ m e _ => m < 2 ^ 53 ∧ -1074 ≤ e ∧ (2 ^ 52 ≤ m ∨ e = -1074)
  | _ => False

/-- What the round bit and the sticky bit say of the part after the point. -/
def Rest : Bool → Bool → ℚ → Prop
  | false, false, f => f = 0
  | false, true, f => 0 < f ∧ f < 1 / 2
  | true, false, f => f = 1 / 2
  | true, true, f => 1 / 2 < f ∧ f < 1

/-- The extended mantissa is what is kept of a number. -/
def Keeps (em : ExtendedMantissa) (x : ℚ) : Prop := Rest em.roundBit em.stickyBit (x - em.mantissa)

variable {em : ExtendedMantissa} {x : ℚ}

theorem Rest.bounds {round sticky : Bool} {f : ℚ} (rest : Rest round sticky f) : 0 ≤ f ∧ f < 1 := by
  cases round <;> cases sticky <;> simp only [Rest] at rest <;> constructor <;> linarith

theorem Keeps.floor (keeps : Keeps em x) : (em.mantissa : ℚ) ≤ x := by
  have low := (Rest.bounds keeps).1
  linarith

theorem Keeps.ceil (keeps : Keeps em x) : x < em.mantissa + 1 := by
  have high := (Rest.bounds keeps).2
  linarith

theorem mantissa_ofAccuracy (m : ℕ) (acc : Accuracy) :
    (ExtendedMantissa.ofMantissaAndAccuracy m acc).mantissa = m := by
  rcases acc with _ | order
  · rfl
  · cases order <;> rfl

theorem keeps_exact (m : ℕ) : Keeps (.ofMantissaAndAccuracy m .exact) m := sub_self _

theorem keeps_fraction (m : ℕ) {num den : ℕ} (proper : num < den) :
    Keeps (.ofMantissaAndAccuracy m (accuracyOfFraction num den)) (m + num / den) := by
  have positive : (0 : ℚ) < den := by exact_mod_cast Nat.zero_lt_of_lt proper
  unfold accuracyOfFraction
  by_cases none : num = 0
  · rw [if_pos none, none]
    simpa using keeps_exact m
  · rw [if_neg none]
    have some : (0 : ℚ) < num := by exact_mod_cast Nat.pos_of_ne_zero none
    have below : (num : ℚ) < den := by exact_mod_cast proper
    rcases order : compare (2 * num) den with _ | _ | _
    · have less : 2 * (num : ℚ) < den := by exact_mod_cast Nat.compare_eq_lt.mp order
      refine ⟨?_, ?_⟩
      · rw [ExtendedMantissa.ofMantissaAndAccuracy, add_sub_cancel_left]
        positivity
      · rw [ExtendedMantissa.ofMantissaAndAccuracy, add_sub_cancel_left, div_lt_iff₀ positive]
        linarith
    · have equal : 2 * (num : ℚ) = den := by exact_mod_cast Nat.compare_eq_eq.mp order
      change (m : ℚ) + num / den - m = 1 / 2
      rw [add_sub_cancel_left, div_eq_iff positive.ne']
      linarith
    · have more : (den : ℚ) < 2 * num := by exact_mod_cast Nat.compare_eq_gt.mp order
      refine ⟨?_, ?_⟩
      · rw [ExtendedMantissa.ofMantissaAndAccuracy, add_sub_cancel_left, lt_div_iff₀ positive]
        linarith
      · rw [ExtendedMantissa.ofMantissaAndAccuracy, add_sub_cancel_left, div_lt_one positive]
        exact below

theorem Keeps.shiftRightOne (keeps : Keeps em x) : Keeps em.shiftRightOne (x / 2) := by
  obtain ⟨m, round, sticky⟩ := em
  have digits : (m : ℚ) = 2 * (m / 2 : ℕ) + (m % 2 : ℕ) := by exact_mod_cast (Nat.div_add_mod m 2).symm
  unfold Keeps at keeps ⊢
  simp only [ExtendedMantissa.shiftRightOne] at keeps ⊢
  rcases Nat.mod_two_eq_zero_or_one m with even | odd
  · rw [even] at digits ⊢
    cases round <;> cases sticky <;> simp [Rest] at keeps digits ⊢ <;> first | linarith | constructor <;> linarith
  · rw [odd] at digits ⊢
    cases round <;> cases sticky <;> simp [Rest] at keeps digits ⊢ <;> first | linarith | constructor <;> linarith

theorem Keeps.shiftRight (keeps : Keeps em x) (n : ℕ) : Keeps (em >>> n) (x / 2 ^ n) := by
  change Keeps (n.repeat ExtendedMantissa.shiftRightOne em) _
  induction n with
  | zero => simpa [Nat.repeat] using keeps
  | succ n ih =>
      have shifted := ih.shiftRightOne
      rw [div_div, ← pow_succ] at shifted
      exact shifted

theorem Keeps.rounded (keeps : Keeps em x) : |(em.roundedMantissa : ℚ) - x| ≤ 1 / 2 := by
  obtain ⟨m, round, sticky⟩ := em
  unfold Keeps at keeps
  rw [abs_le]
  cases round with
  | false =>
      cases sticky <;>
        simp only [Rest, ExtendedMantissa.roundedMantissa, ExtendedMantissa.accuracy,
          Accuracy.roundToNearestEven] at keeps ⊢ <;> constructor <;> linarith
  | true =>
      cases sticky with
      | false =>
          simp only [Rest, ExtendedMantissa.roundedMantissa, ExtendedMantissa.accuracy,
            Accuracy.roundToNearestEven] at keeps ⊢
          rcases Nat.mod_two_eq_zero_or_one m with even | odd
          · rw [even]
            push_cast
            constructor <;> linarith
          · rw [odd]
            push_cast
            constructor <;> linarith
      | true =>
          simp only [Rest, ExtendedMantissa.roundedMantissa, ExtendedMantissa.accuracy,
            Accuracy.roundToNearestEven] at keeps ⊢
          push_cast
          constructor <;> linarith

theorem Keeps.near {e t : ℤ} (keeps : Keeps em x) (low : e ≤ t) :
    |((((em >>> (t - e).toNat).roundedMantissa : ℕ) : ℤ) : ℚ) * 2 ^ t - x * 2 ^ e| ≤ 2 ^ t / 2 := by
  have half := (keeps.shiftRight (t - e).toNat).rounded
  have unit : (0 : ℚ) < 2 ^ t := by positivity
  have power : (2 : ℚ) ^ t = 2 ^ (t - e).toNat * 2 ^ e := by
    rw [← zpow_natCast, ← two_zpow_add]
    congr 1
    omega
  have scaled : x * 2 ^ e = x / 2 ^ (t - e).toNat * 2 ^ t := by
    rw [power]
    field_simp
  obtain ⟨k, rounded⟩ : ∃ k, k = (em >>> (t - e).toNat).roundedMantissa := ⟨_, rfl⟩
  rw [← rounded] at half ⊢
  calc
    |((k : ℤ) : ℚ) * 2 ^ t - x * 2 ^ e| = |(k : ℚ) - x / 2 ^ (t - e).toNat| * 2 ^ t := by
      rw [scaled, ← abs_of_pos unit, ← abs_mul, abs_of_pos unit]
      push_cast
      ring_nf
    _ ≤ 1 / 2 * 2 ^ t := by gcongr
    _ = 2 ^ t / 2 := by ring

theorem targetExponent_eq (total : ℤ) : spec.targetExponent total = max (total - 53) (-1074) := rfl

theorem shiftToExponent_eq {m : ℕ} {e t : ℤ} (acc : Accuracy) (low : e ≤ t) :
    shiftToExponent m e acc t = (ExtendedMantissa.ofMantissaAndAccuracy m acc >>> (t - e).toNat, t) := by
  unfold shiftToExponent
  simp only [Prod.mk.injEq, true_and]
  rw [Int.toNat_of_nonneg (by omega)]
  omega

theorem size_of_mantissa {m : ℕ} {e t : ℤ} (floor : (m : ℚ) ≤ x) (ceil : x < m + 1) (low : e ≤ t)
    (target : t = spec.targetExponent (totalExponent m e)) :
    x * 2 ^ e < 2 ^ (t + 53) ∧ (2 ^ (t + 52) ≤ x * 2 ^ e ∨ t = -1074) := by
  rw [targetExponent_eq, totalExponent] at target
  have unit : (0 : ℚ) < 2 ^ e := by positivity
  constructor
  · have whole : m + 1 ≤ 2 ^ (m.log2 + 1) := Nat.lt_log2_self
    have below : x < (2 : ℚ) ^ (m.log2 + 1) := lt_of_lt_of_le ceil (by exact_mod_cast whole)
    calc
      x * 2 ^ e < 2 ^ (m.log2 + 1) * 2 ^ e := by gcongr
      _ = 2 ^ ((m.log2 : ℤ) + 1 + e) := by rw [two_zpow_add]; norm_cast
      _ ≤ 2 ^ (t + 53) := zpow_le_zpow_right₀ (by norm_num) (by omega)
  · by_cases least : t = -1074
    · exact .inr least
    · have some : m ≠ 0 := by
        rintro rfl
        have none : Nat.log2 0 = 0 := by decide
        omega
      have whole : 2 ^ m.log2 ≤ m := Nat.log2_self_le some
      have power : (2 : ℚ) ^ (t + 52) = 2 ^ m.log2 * 2 ^ e := by
        rw [← zpow_natCast, ← two_zpow_add]
        congr 1
        omega
      left
      rw [power]
      have floored : (2 : ℚ) ^ m.log2 ≤ x := le_trans (by exact_mod_cast whole) floor
      gcongr

theorem settle_mantissa {k : ℕ} {t : ℤ} (low : -1074 ≤ t) (short : k ≤ 2 ^ 53)
    (size : 2 ^ 52 ≤ k ∨ t = -1074) :
    ∃ em e, shiftToTargetExponent spec k t .exact = (em, e) ∧ em.mantissa < 2 ^ 53 ∧ -1074 ≤ e ∧
      (2 ^ 52 ≤ em.mantissa ∨ e = -1074) ∧ (em.mantissa : ℚ) * 2 ^ e = k * 2 ^ t := by
  unfold shiftToTargetExponent
  rw [targetExponent_eq, totalExponent]
  by_cases full : k = 2 ^ 53
  · have digits : k.log2 = 53 := by rw [full, Nat.log2_two_pow]
    have target : max ((k.log2 : ℤ) + 1 + t - 53) (-1074) = t + 1 := by omega
    refine ⟨⟨2 ^ 52, false, false⟩, t + 1, ?_, by norm_num, by omega, .inl (by norm_num), ?_⟩
    · simp only [target]
      rw [shiftToExponent_eq .exact (by omega), full]
      have one : (t + 1 - t).toNat = 1 := by omega
      rw [one]
      rfl
    · rw [full, two_zpow_add]
      push_cast
      ring
  · have digits : k.log2 ≤ 52 := by
      by_cases none : k = 0
      · rw [none]
        decide
      · have less := (Nat.log2_lt none).mpr (lt_of_le_of_ne short full)
        omega
    have target : max ((k.log2 : ℤ) + 1 + t - 53) (-1074) ≤ t := by omega
    refine ⟨⟨k, false, false⟩, t, ?_, lt_of_le_of_ne short full, low, size, rfl⟩
    unfold shiftToExponent
    have none : (max ((k.log2 : ℤ) + 1 + t - 53) (-1074) - t).toNat = 0 := by omega
    simp only [none, Nat.cast_zero, add_zero]
    rfl

/-- What is rounded is canonical and nearest to the number that was kept. -/
theorem roundWithAccuracy_nearest (s : Sign) {m : ℕ} {e : ℤ} {acc : Accuracy}
    (keeps : Keeps (.ofMantissaAndAccuracy m acc) x)
    (low : e ≤ spec.targetExponent (totalExponent m e)) :
    Canonical (roundWithAccuracy spec s m e acc) ∧
      ∃ r, Nearest (x * 2 ^ e) r ∧ value (roundWithAccuracy spec s m e acc) = factor s * r := by
  obtain ⟨t, target⟩ : ∃ t, t = spec.targetExponent (totalExponent m e) := ⟨_, rfl⟩
  have least : -1074 ≤ t := by
    rw [target, targetExponent_eq]
    omega
  rw [← target] at low
  have floor := keeps.floor
  have ceil := keeps.ceil
  rw [mantissa_ofAccuracy] at floor ceil
  obtain ⟨high, size⟩ := size_of_mantissa floor ceil low target
  -- The first shift brings the number to its grid, where it is rounded.
  have near := keeps.near low
  obtain ⟨k, rounded⟩ : ∃ k, k =
      (ExtendedMantissa.ofMantissaAndAccuracy m acc >>> (t - e).toNat).roundedMantissa := ⟨_, rfl⟩
  rw [← rounded] at near
  have short : k ≤ 2 ^ 53 := by exact_mod_cast digits_le high near
  have normal : 2 ^ 52 ≤ k ∨ t = -1074 := by
    rcases size with large | least
    · exact .inl (by exact_mod_cast le_digits large near)
    · exact .inr least
  have nearest := nearest_of_grid least (Int.natCast_nonneg k) high size near
  obtain ⟨em, e', settled, digits, lowest, form, same⟩ := settle_mantissa least short normal
  have unfolded : roundWithAccuracy spec s m e acc =
      if h : em.mantissa = 0 then .zero s else .finite s em.mantissa e' (Nat.pos_of_ne_zero h) := by
    rw [roundWithAccuracy, shiftToTargetExponent, ← target, shiftToExponent_eq acc low]
    dsimp only
    rw [← rounded, settled]
  rw [unfolded]
  by_cases none : em.mantissa = 0
  · rw [dif_pos none]
    refine ⟨trivial, _, nearest, ?_⟩
    have zero : ((k : ℤ) : ℚ) * 2 ^ t = 0 := by
      push_cast
      rw [← same, none]
      simp
    rw [zero, mul_zero]
    rfl
  · rw [dif_neg none]
    refine ⟨⟨digits, lowest, form⟩, _, nearest, ?_⟩
    rw [value_finite, same]
    push_cast
    rfl

end Remedy.Binary64
