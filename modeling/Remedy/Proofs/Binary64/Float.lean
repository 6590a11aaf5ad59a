import Remedy.Proofs.Binary64.Arithmetic
import Remedy.Proofs.Binary64.Order
import Remedy.Proofs.Binary64.Packing
import Remedy.Scalar

/-! Arithmetic with stored numbers. Main statement: an operation whose exact result is not huge gives the
stored number nearest to it. -/

namespace Remedy.Binary64

open Float.Model Float.Model.UnpackedFloat

/-- The value is finite, and stands for the number. -/
structure Denotes (x : Float) (q : ℚ) : Prop where
  stored : Stored x.toModel.unpack
  value_eq : value x.toModel.unpack = q

/-- An operation gives a finite value, the nearest to the exact result. -/
def Gives (x : Float) (q : ℚ) : Prop := ∃ r, Nearest q r ∧ Denotes x r

def limit : ℚ := 2 ^ (1023 : ℤ)

theorem le_limit {q : ℚ} (bound : |q| ≤ 2 ^ (100 : ℤ)) : |q| ≤ limit :=
  bound.trans (zpow_le_zpow_right₀ (by norm_num) (by norm_num))

theorem isShort_limit : IsShort limit := isShort_two_zpow (by norm_num)

theorem gives_of_rounds {f : UnpackedFloat} {q : ℚ} (rounds : Rounds f q) (bound : |q| ≤ limit) :
    Gives (.ofModel (.pack f)) q := by
  obtain ⟨canonical, nearest⟩ := rounds
  have small : |value f| < 2 ^ (1024 : ℤ) := by
    calc
      |value f| ≤ 2 ^ (1023 : ℤ) := nearest.abs_le_of_abs_le isShort_limit bound
      _ < 2 ^ (1024 : ℤ) := zpow_lt_zpow_right₀ (by norm_num) (by norm_num)
  have stored := canonical.stored small
  have same : (Float.ofModel (.pack f)).toModel.unpack = f := unpack_pack stored
  refine ⟨value f, nearest, ?_, ?_⟩
  · rw [same]
    exact stored
  · rw [same]

variable {x y : Float} {a b : ℚ}

theorem Denotes.add (first : Denotes x a) (second : Denotes y b) (bound : |a + b| ≤ limit) :
    Gives (x + y) (a + b) := by
  have rounds := rounds_add first.stored.canonical second.stored.canonical
  rw [first.value_eq, second.value_eq] at rounds
  exact gives_of_rounds rounds bound

theorem Denotes.sub (first : Denotes x a) (second : Denotes y b) (bound : |a - b| ≤ limit) :
    Gives (x - y) (a - b) := by
  have rounds := rounds_sub first.stored.canonical second.stored.canonical
  rw [first.value_eq, second.value_eq] at rounds
  exact gives_of_rounds rounds bound

theorem Denotes.mul (first : Denotes x a) (second : Denotes y b) (bound : |a * b| ≤ limit) :
    Gives (x * y) (a * b) := by
  have rounds := rounds_mul first.stored.canonical second.stored.canonical
  rw [first.value_eq, second.value_eq] at rounds
  exact gives_of_rounds rounds bound

theorem Denotes.div (first : Denotes x a) (second : Denotes y b) (nonzero : b ≠ 0) (bound : |a / b| ≤ limit) :
    Gives (x / y) (a / b) := by
  have divisor : value y.toModel.unpack ≠ 0 := by
    rw [second.value_eq]
    exact nonzero
  have rounds := rounds_div first.stored.canonical second.stored.canonical divisor
  rw [first.value_eq, second.value_eq] at rounds
  exact gives_of_rounds rounds bound

theorem le_iff_unpack : x ≤ y ↔ x.toModel.unpack.le y.toModel.unpack = true := decide_eq_true_iff

theorem lt_iff_unpack : x < y ↔ x.toModel.unpack.lt y.toModel.unpack = true := decide_eq_true_iff

theorem Denotes.le_iff (first : Denotes x a) (second : Denotes y b) : x ≤ y ↔ a ≤ b := by
  rw [le_iff_unpack, le_canonical first.stored.canonical second.stored.canonical, first.value_eq,
    second.value_eq]

theorem Denotes.lt_iff (first : Denotes x a) (second : Denotes y b) : x < y ↔ a < b := by
  rw [lt_iff_unpack, lt_canonical first.stored.canonical second.stored.canonical, first.value_eq,
    second.value_eq]

theorem isNaN_iff : x.isNaN = true ↔ x.toModel.unpack = .notANumber := by
  change x.toModel.unpack.isNaN = true ↔ _
  cases x.toModel.unpack with
  | notANumber => exact iff_of_true rfl rfl
  | infinity s => exact iff_of_false nofun nofun
  | zero s => exact iff_of_false nofun nofun
  | finite s m e pos => exact iff_of_false nofun nofun

theorem denotes_or (x : Float) :
    (∃ q, Denotes x q) ∨ (∃ s, x.toModel.unpack = .infinity s) ∨ x.isNaN = true := by
  rcases stored_unpack x.toModel.toBits.toBitVec with stored | infinite | undefined
  · exact .inl ⟨_, stored, rfl⟩
  · exact .inr (.inl infinite)
  · exact .inr (.inr (isNaN_iff.mpr undefined))

theorem not_lt_of_isNaN (undefined : x.isNaN = true) (y : Float) : ¬x < y ∧ ¬y < x := by
  rw [lt_iff_unpack, lt_iff_unpack, isNaN_iff.mp undefined]
  cases y.toModel.unpack <;> exact ⟨nofun, nofun⟩

theorem compare_infinity {f : UnpackedFloat} (stored : Stored f) (s : Sign) :
    f.compare (.infinity s) = some (match s with | .positive => .lt | .negative => .gt) ∧
      UnpackedFloat.compare (.infinity s) f = some (match s with | .positive => .gt | .negative => .lt) := by
  cases f with
  | infinity t => exact stored.elim
  | notANumber => exact stored.elim
  | zero t => cases s <;> exact ⟨rfl, rfl⟩
  | finite t m e pos => cases s <;> cases t <;> exact ⟨rfl, rfl⟩

theorem Denotes.lt_infinite {s : Sign} (finite : Denotes x a) (infinite : y.toModel.unpack = .infinity s) :
    (x < y ↔ s = .positive) ∧ (y < x ↔ s = .negative) := by
  obtain ⟨first, second⟩ := compare_infinity finite.stored s
  rw [lt_iff_unpack, lt_iff_unpack, infinite, UnpackedFloat.lt, UnpackedFloat.lt, first, second]
  cases s <;> simp

theorem Denotes.le_infinite {s : Sign} (finite : Denotes x a) (infinite : y.toModel.unpack = .infinity s) :
    (x ≤ y ↔ s = .positive) ∧ (y ≤ x ↔ s = .negative) := by
  obtain ⟨first, second⟩ := compare_infinity finite.stored s
  rw [le_iff_unpack, le_iff_unpack, infinite, UnpackedFloat.le, UnpackedFloat.le, first, second]
  cases s <;> simp

theorem denotes_of_between {lo hi : Float} (low : Denotes lo a) (high : Denotes hi b) (above : lo ≤ x)
    (below : x ≤ hi) : ∃ q, Denotes x q := by
  rcases denotes_or x with finite | ⟨s, infinite⟩ | undefined
  · exact finite
  · have positive := (low.le_infinite infinite).1.mp above
    have negative := (high.le_infinite infinite).2.mp below
    rw [positive] at negative
    cases negative
  · rw [le_iff_unpack, isNaN_iff.mp undefined] at below
    cases below

theorem infinite_of_between {s : Sign} (infinite : y.toModel.unpack = .infinity s) (above : y ≤ x) (below : x ≤ y) :
    x.toModel.unpack = .infinity s := by
  rw [le_iff_unpack, infinite] at above below
  cases f : x.toModel.unpack with
  | notANumber =>
      rw [f] at above
      cases s <;> cases above
  | zero t =>
      rw [f] at above below
      cases s with
      | negative => cases below
      | positive => cases above
  | infinity t =>
      rw [f] at above below
      cases s with
      | negative =>
          cases t with
          | negative => rfl
          | positive => cases below
      | positive =>
          cases t with
          | negative => cases above
          | positive => rfl
  | finite t n e pos =>
      rw [f] at above below
      cases s with
      | negative => cases t <;> cases below
      | positive => cases t <;> cases above

theorem alike_trans {z : Float} (above : x ≤ y) (below : y ≤ x) (above' : y ≤ z) (below' : z ≤ y) : x ≤ z := by
  rcases denotes_or y with ⟨_, middle⟩ | ⟨s, infinite⟩ | undefined
  · obtain ⟨p, first⟩ := denotes_of_between middle middle below above
    obtain ⟨q, last⟩ := denotes_of_between middle middle above' below'
    rw [first.le_iff last]
    exact ((first.le_iff middle).mp above).trans ((middle.le_iff last).mp above')
  · have first := infinite_of_between infinite below above
    have last := infinite_of_between infinite above' below'
    rw [le_iff_unpack, first, last]
    cases s <;> rfl
  · rw [le_iff_unpack, isNaN_iff.mp undefined] at above'
    cases above'

theorem denotes_of_unpack (t : Sign) (e : ℤ) {pos : 0 < 2 ^ 52} (low : -1074 ≤ e) (high : e ≤ 971)
    (unpacked : x.toModel.unpack = .finite t (2 ^ 52) e pos) :
    Denotes x (factor t * (2 ^ 52 * 2 ^ e)) := by
  refine ⟨?_, ?_⟩
  · rw [unpacked]
    exact ⟨by norm_num, low, .inl (le_refl _), high⟩
  · rw [unpacked, value_finite]
    push_cast
    rfl

theorem denotes_one : Denotes 1.0 1 := by
  have found : Denotes 1.0 _ := denotes_of_unpack .positive (-52) (by norm_num) (by norm_num) rfl
  norm_num [factor] at found
  exact found

theorem denotes_zero : Denotes 0.0 0 := ⟨trivial, rfl⟩

theorem natCast_le_limit {n : ℕ} (small : n < 2 ^ 64) : |(n : ℚ)| ≤ limit := by
  have whole : (n : ℚ) ≤ 2 ^ 64 := by exact_mod_cast small.le
  refine le_limit ?_
  rw [abs_of_nonneg (by positivity)]
  exact whole.trans (by norm_num)

theorem gives_toFloat (n : UInt64) : Gives n.toFloat n.toNat := by
  have rounds := rounds_normalize n.toNat 0 .positive
  rw [zpow_zero, mul_one] at rounds
  refine gives_of_rounds rounds ?_
  exact_mod_cast natCast_le_limit n.toNat_lt

theorem gives_ofNat {n : ℕ} (small : n < 2 ^ 64) : Gives (Float.ofNat n) n := by
  have bound := natCast_le_limit small
  change Gives (Float.ofScientific n false 0) n
  unfold Float.ofScientific
  by_cases short : n < 2 ^ 53
  · rw [dif_pos ⟨short, by norm_num⟩]
    obtain ⟨r, nearest, denotes⟩ := gives_toFloat n.toUInt64
    have cast : n.toUInt64.toNat = n := UInt64.toNat_ofNat_of_lt small
    have whole : IsShort (n : ℚ) := by
      have digits : |(n : ℤ)| ≤ 2 ^ 53 := by
        rw [abs_of_nonneg (Int.natCast_nonneg n)]
        omega
      exact_mod_cast isShort_int digits
    rw [cast] at nearest
    rw [nearest.eq_of_isShort whole] at denotes
    have gives := denotes.mul denotes_one (by rw [mul_one]; exact bound)
    rw [mul_one] at gives
    exact gives
  · rw [dif_neg (fun fast => short fast.1)]
    have shifted : n <<< 53 = n * 2 ^ 53 := Nat.shiftLeft_eq n 53
    have pos : 0 < n <<< 53 := by omega
    have unit : 0 < 10 ^ 0 := by norm_num
    have rounds := rounds_mul_finite .positive .positive (e := -53) (k := 0) pos unit (.inl (by omega))
    have exact_value : factor .positive * (((n <<< 53 : ℕ) : ℚ) * 2 ^ (-53 : ℤ)) *
        (factor .positive * (((10 ^ 0 : ℕ) : ℚ) * 2 ^ (0 : ℤ))) = n := by
      rw [shifted]
      push_cast
      simp only [factor]
      norm_num
      ring
    rw [exact_value] at rounds
    have unfolded : ofScientific spec n 0 =
        mul spec (.finite .positive (n <<< 53) (-53) pos) (.finite .positive (10 ^ 0) 0 unit) := by
      have some : n ≠ 0 := by omega
      have near : ¬(0 : ℤ) < -(2 ^ 11 + n.log2) := by omega
      unfold UnpackedFloat.ofScientific
      rw [dif_neg some, if_neg (by norm_num), if_neg near, if_pos (le_refl _)]
      rfl
    have gives := gives_of_rounds rounds bound
    rw [← unfolded] at gives
    exact gives

end Remedy.Binary64
