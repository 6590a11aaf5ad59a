import Remedy.Proofs.Binary64.Float

/-! Values that lie in a range. Main statement: products, complements and quotients of proportions are
proportions again. -/

namespace Remedy

open Binary64

/-- The value is finite and lies in a range. -/
def Between (x : Float) (a b : ℚ) : Prop := ∃ q, Denotes x q ∧ a ≤ q ∧ q ≤ b

variable {x y lo hi : Float} {a b c d q r : ℚ}

theorem Between.weaken (between : Between x a b) (low : c ≤ a) (high : b ≤ d) : Between x c d := by
  obtain ⟨q, denotes, above, below⟩ := between
  exact ⟨q, denotes, low.trans above, below.trans high⟩

theorem between_of_gives (gives : Gives x q) (low : IsShort a) (high : IsShort b) (above : a ≤ q)
    (below : q ≤ b) : Between x a b := by
  obtain ⟨r, nearest, denotes⟩ := gives
  exact ⟨r, denotes, nearest.ge_of_ge low above, nearest.le_of_le high below⟩

theorem between_of_le (low : Denotes lo a) (high : Denotes hi b) (above : lo ≤ x) (below : x ≤ hi) :
    Between x a b := by
  obtain ⟨q, denotes⟩ := denotes_of_between low high above below
  exact ⟨q, denotes, (low.le_iff denotes).mp above, (denotes.le_iff high).mp below⟩

theorem isProportion_iff : Scalar.isProportion x = true ↔ Between x 0 1 := by
  unfold Scalar.isProportion
  rw [Bool.and_eq_true]
  constructor
  · rintro ⟨above, below⟩
    exact between_of_le denotes_zero denotes_one (of_decide_eq_true above) (of_decide_eq_true below)
  · rintro ⟨q, denotes, above, below⟩
    exact ⟨decide_eq_true ((denotes_zero.le_iff denotes).mpr above),
      decide_eq_true ((denotes.le_iff denotes_one).mpr below)⟩

theorem scalar_lt_iff (first : Denotes x a) (second : Denotes y b) : Scalar.lt x y = true ↔ a < b :=
  decide_eq_true_iff.trans (first.lt_iff second)

theorem scalar_not_lt_iff (first : Denotes x a) (second : Denotes y b) : Scalar.lt x y = false ↔ b ≤ a := by
  rw [← Bool.not_eq_true, scalar_lt_iff first second, not_lt]

theorem Between.le_of_not_lt (first : Between x a b) (second : Between y c d) (more : Scalar.lt x y = false) :
    Scalar.le y x = true := by
  obtain ⟨q, denotes, -⟩ := first
  obtain ⟨r, denotes', -⟩ := second
  exact decide_eq_true ((denotes'.le_iff denotes).mpr ((scalar_not_lt_iff denotes denotes').mp more))

theorem Between.not_isNaN (between : Between x a b) : x.isNaN = false := by
  obtain ⟨q, denotes, -⟩ := between
  have stored := denotes.stored
  rw [← Bool.not_eq_true, isNaN_iff]
  intro undefined
  rw [undefined] at stored
  exact stored

theorem clamp_between (low : Denotes lo a) (high : Denotes hi b) (order : a ≤ b) (given : Denotes x q) :
    Between (Scalar.clamp lo hi x) a b := by
  have raised : ∃ r, Denotes (if Scalar.lt x lo then lo else x) r ∧ a ≤ r := by
    by_cases less : Scalar.lt x lo = true
    · rw [if_pos less]
      exact ⟨a, low, le_refl a⟩
    · rw [if_neg less]
      rw [scalar_lt_iff given low] at less
      exact ⟨q, given, not_lt.mp less⟩
  unfold Scalar.clamp
  dsimp only
  obtain ⟨r, denotes, above⟩ := raised
  by_cases more : Scalar.lt hi (if Scalar.lt x lo then lo else x) = true
  · rw [if_pos more]
    exact ⟨b, high, order, le_refl b⟩
  · rw [if_neg more]
    rw [scalar_lt_iff high denotes] at more
    exact ⟨r, denotes, above, not_lt.mp more⟩

theorem clamp_infinite {s : Float.Model.UnpackedFloat.Sign} (low : Denotes lo a) (high : Denotes hi b) (order : a ≤ b)
    (infinite : x.toModel.unpack = .infinity s) :
    Scalar.clamp lo hi x = match s with | .negative => lo | .positive => hi := by
  have ordered : Scalar.lt hi lo = false := (scalar_not_lt_iff high low).mpr order
  have below : Scalar.lt x lo = true ↔ s = .negative := decide_eq_true_iff.trans (low.lt_infinite infinite).2
  have above : Scalar.lt hi x = true ↔ s = .positive := decide_eq_true_iff.trans (high.lt_infinite infinite).1
  cases s with
  | negative => simp [Scalar.clamp, below.mpr rfl, ordered]
  | positive =>
      have inside : Scalar.lt x lo = false := by simpa using below
      simp [Scalar.clamp, inside, above.mpr rfl]

theorem clamp_number (low : Denotes lo a) (high : Denotes hi b) (order : a ≤ b) (number : x.isNaN = false) :
    Between (Scalar.clamp lo hi x) a b := by
  rcases denotes_or x with ⟨q, finite⟩ | ⟨s, infinite⟩ | undefined
  · exact clamp_between low high order finite
  · rw [clamp_infinite low high order infinite]
    cases s with
    | negative => exact ⟨a, low, le_refl a, order⟩
    | positive => exact ⟨b, high, order, le_refl b⟩
  · rw [undefined] at number
    cases number

theorem clamp_undefined (undefined : x.isNaN = true) (lo hi : Float) : Scalar.clamp lo hi x = x := by
  have below : Scalar.lt x lo = false := decide_eq_false (not_lt_of_isNaN undefined lo).1
  have above : Scalar.lt hi x = false := decide_eq_false (not_lt_of_isNaN undefined hi).2
  simp [Scalar.clamp, below, above]

theorem lt_clamp {middle : Float} (low : Denotes lo a) (high : Denotes hi b) (between : Denotes middle c) (above : a < c)
    (below : c ≤ b) (x : Float) : Scalar.lt (Scalar.clamp lo hi x) middle = Scalar.lt x middle := by
  have least : Scalar.lt lo middle = true := (scalar_lt_iff low between).mpr above
  have most : Scalar.lt hi middle = false := (scalar_not_lt_iff high between).mpr below
  have order : a ≤ b := above.le.trans below
  -- Both ends of the range are on the same side of the middle as what is beyond them.
  rcases denotes_or x with ⟨q, finite⟩ | ⟨s, infinite⟩ | undefined
  · by_cases less : q < a
    · have raised : Scalar.lt x lo = true := (scalar_lt_iff finite low).mpr less
      have ordered : Scalar.lt hi lo = false := (scalar_not_lt_iff high low).mpr order
      have under : Scalar.lt x middle = true := (scalar_lt_iff finite between).mpr (less.trans above)
      simp [Scalar.clamp, raised, ordered, least, under]
    · have inside : Scalar.lt x lo = false := (scalar_not_lt_iff finite low).mpr (not_lt.mp less)
      by_cases more : b < q
      · have cut : Scalar.lt hi x = true := (scalar_lt_iff high finite).mpr more
        have beyond : Scalar.lt x middle = false := (scalar_not_lt_iff finite between).mpr (below.trans more.le)
        simp [Scalar.clamp, inside, cut, most, beyond]
      · have uncut : Scalar.lt hi x = false := (scalar_not_lt_iff high finite).mpr (not_lt.mp more)
        simp [Scalar.clamp, inside, uncut]
  · have under : Scalar.lt x middle = true ↔ s = .negative :=
      decide_eq_true_iff.trans (between.lt_infinite infinite).2
    rw [clamp_infinite low high order infinite]
    cases s with
    | negative => rw [least, under.mpr rfl]
    | positive =>
        have beyond : Scalar.lt x middle = false := by simpa using under
        rw [most, beyond]
  · rw [clamp_undefined undefined]

theorem not_lt_iff {middle : Float} (between : Denotes middle c) (x : Float) :
    Scalar.lt x middle = false ↔ x.isNaN = true ∨ Scalar.le middle x = true := by
  have less : Scalar.lt x middle = false ↔ ¬x < middle := decide_eq_false_iff_not
  have reaches : Scalar.le middle x = true ↔ middle ≤ x := decide_eq_true_iff
  rw [less, reaches]
  rcases denotes_or x with ⟨q, finite⟩ | ⟨s, infinite⟩ | undefined
  · have number : x.isNaN = false := Between.not_isNaN ⟨q, finite, le_refl q, le_refl q⟩
    rw [finite.lt_iff between, between.le_iff finite, number, not_lt]
    simp
  · have number : x.isNaN = false := by
      rw [← Bool.not_eq_true, isNaN_iff, infinite]
      exact nofun
    rw [(between.lt_infinite infinite).2, (between.le_infinite infinite).1, number]
    cases s <;> simp
  · rw [undefined]
    simp [(not_lt_of_isNaN undefined middle).1]

theorem bound_of_sides {p : ℚ} (low : -p ≤ q) (high : q ≤ p) (small : p ≤ 2 ^ (100 : ℤ)) : |q| ≤ limit :=
  le_limit ((abs_le.mpr ⟨low, high⟩).trans small)

namespace Between

theorem add (first : Between x (-2 ^ 64) (2 ^ 64)) (second : Between y (-2 ^ 64) (2 ^ 64)) :
    ∃ q, Denotes (x + y) q := by
  obtain ⟨q, denotes, above, below⟩ := first
  obtain ⟨r, denotes', above', below'⟩ := second
  have bound : |q + r| ≤ limit := bound_of_sides (p := 2 ^ 65) (by linarith) (by linarith) (by norm_num)
  obtain ⟨sum, -, found⟩ := denotes.add denotes' bound
  exact ⟨sum, found⟩

theorem complement (proportion : Between x 0 1) : Between (1.0 - x) 0 1 := by
  obtain ⟨q, denotes, above, below⟩ := proportion
  have bound : |1 - q| ≤ limit := bound_of_sides (p := 1) (by linarith) (by linarith) (by norm_num)
  exact between_of_gives (denotes_one.sub denotes bound) isShort_zero isShort_one (by linarith) (by linarith)

theorem mul (first : Between x 0 1) (second : Between y 0 1) : Between (x * y) 0 1 := by
  obtain ⟨q, denotes, above, below⟩ := first
  obtain ⟨r, denotes', above', below'⟩ := second
  have product : q * r ≤ 1 := mul_le_one₀ below above' below'
  have positive : 0 ≤ q * r := mul_nonneg above above'
  have bound : |q * r| ≤ limit := bound_of_sides (p := 1) (by linarith) product (by norm_num)
  exact between_of_gives (denotes.mul denotes' bound) isShort_zero isShort_one positive product

theorem mul_signed (first : Between x (-1) 1) (second : Between y (-1) 1) : Between (x * y) (-1) 1 := by
  obtain ⟨q, denotes, above, below⟩ := first
  obtain ⟨r, denotes', above', below'⟩ := second
  have product : |q * r| ≤ 1 := by
    rw [abs_mul]
    exact mul_le_one₀ (abs_le.mpr ⟨above, below⟩) (abs_nonneg r) (abs_le.mpr ⟨above', below'⟩)
  obtain ⟨left, right⟩ := abs_le.mp product
  have bound : |q * r| ≤ limit := bound_of_sides left right (by norm_num)
  exact between_of_gives (denotes.mul denotes' bound) isShort_one.neg isShort_one left right

end Between

theorem quotient_between (part : Denotes x a) (whole : Denotes y b) (sign : 0 ≤ a) (order : a ≤ b)
    (positive : 0 < b) : Between (x / y) 0 1 := by
  have low : 0 ≤ a / b := div_nonneg sign positive.le
  have high : a / b ≤ 1 := (div_le_one positive).mpr order
  have bound : |a / b| ≤ limit := bound_of_sides (p := 1) (by linarith) high (by norm_num)
  exact between_of_gives (part.div whole positive.ne' bound) isShort_zero isShort_one low high

theorem isShort_two_pow (k : ℕ) : IsShort (2 ^ k) := by
  have short := isShort_two_zpow (e := k) (by omega)
  rwa [zpow_natCast] at short

theorem ofNat_denotes {n : ℕ} (small : n < 2 ^ 64) :
    ∃ q, Nearest n q ∧ Denotes (Float.ofNat n) q ∧ 0 ≤ q ∧ q ≤ 2 ^ 64 ∧ (0 < n → 1 ≤ q) := by
  obtain ⟨q, nearest, denotes⟩ := gives_ofNat small
  have whole : (n : ℚ) ≤ 2 ^ 64 := by exact_mod_cast small.le
  exact ⟨q, nearest, denotes, nearest.ge_of_ge isShort_zero (Nat.cast_nonneg n),
    nearest.le_of_le (isShort_two_pow 64) whole,
    fun some => nearest.ge_of_ge isShort_one (by exact_mod_cast some)⟩

theorem ofNat_mono {m n : ℕ} (order : m ≤ n) (small : n < 2 ^ 64) (denotes : Denotes (Float.ofNat m) q)
    (denotes' : Denotes (Float.ofNat n) r) : q ≤ r := by
  obtain ⟨q', nearest, first, -⟩ := ofNat_denotes (lt_of_le_of_lt order small)
  obtain ⟨r', nearest', second, -⟩ := ofNat_denotes small
  rw [← denotes.value_eq, ← denotes'.value_eq, first.value_eq, second.value_eq]
  rcases Nat.lt_or_eq_of_le order with less | rfl
  · exact nearest.mono nearest' (by exact_mod_cast less)
  · rw [← first.value_eq, second.value_eq]

theorem ofNat_ratio {m n : ℕ} (order : m ≤ n) (some : 0 < n) (small : n < 2 ^ 64) :
    Between (Float.ofNat m / Float.ofNat n) 0 1 := by
  obtain ⟨q, -, denotes, sign, -, -⟩ := ofNat_denotes (lt_of_le_of_lt order small)
  obtain ⟨r, -, denotes', -, -, one⟩ := ofNat_denotes small
  exact quotient_between denotes denotes' sign (ofNat_mono order small denotes denotes') (by linarith [one some])

theorem ofNat_quotient {m n : ℕ} (small : m < 2 ^ 64) (some : 0 < n) (small' : n < 2 ^ 64) :
    Between (Float.ofNat m / Float.ofNat n) 0 (2 ^ 64) := by
  obtain ⟨q, -, denotes, sign, high, -⟩ := ofNat_denotes small
  obtain ⟨r, -, denotes', -, -, one⟩ := ofNat_denotes small'
  have positive : 0 < r := by linarith [one some]
  have low : 0 ≤ q / r := div_nonneg sign positive.le
  have below : q / r ≤ 2 ^ 64 := (div_le_self sign (one some)).trans high
  have bound : |q / r| ≤ limit := bound_of_sides (p := 2 ^ 64) (by linarith) below (by norm_num)
  exact between_of_gives (denotes.div denotes' positive.ne' bound) isShort_zero (isShort_two_pow 64) low below

end Remedy
