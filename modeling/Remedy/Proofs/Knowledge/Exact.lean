import Mathlib.Algebra.BigOperators.Group.List.Basic
import Mathlib.Data.Rat.Cast.Order
import Mathlib.Tactic.FieldSimp
import Mathlib.Tactic.Linarith
import Mathlib.Tactic.NormNum
import Mathlib.Tactic.Ring
import Remedy.Proofs.Knowledge.Confidence

/-! Learning with exact numbers. Main statement: exactly when one more success that was found helpful lowers the
confidence that history gives. -/

namespace Remedy

namespace Scalar

theorem clamp_exact {lo hi : ℚ} (order : lo ≤ hi) (q : ℚ) : clamp lo hi q = Max.max lo (Min.min q hi) := by
  unfold clamp
  change (if decide (hi < if decide (q < lo) = true then lo else q) = true then hi else
    if decide (q < lo) = true then lo else q) = _
  simp only [decide_eq_true_eq]
  rcases lt_or_ge q lo with below | above
  · rw [if_pos below, if_neg (not_lt.mpr order), min_eq_left (below.le.trans order), max_eq_left below.le]
  · rw [if_neg (not_lt.mpr above)]
    rcases lt_or_ge hi q with beyond | within
    · rw [if_pos beyond, min_eq_right beyond.le, max_eq_right order]
    · rw [if_neg (not_lt.mpr within), min_eq_left within, max_eq_right above]

theorem clamp_proportion (q : ℚ) : clamp 0.0 1.0 q = Max.max 0 (Min.min q 1) := by
  rw [clamp_exact (by norm_num)]
  norm_num

theorem clamp_within (q : ℚ) : 0 ≤ clamp 0.0 1.0 q ∧ clamp 0.0 1.0 q ≤ 1 := by
  rw [clamp_proportion]
  exact ⟨le_max_left _ _, max_le zero_le_one (min_le_right _ _)⟩

theorem clamp_inside {q : ℚ} (low : 0 ≤ q) (high : q ≤ 1) : clamp 0.0 1.0 q = q := by
  rw [clamp_proportion, min_eq_left high, max_eq_right low]

theorem isProportion_exact {q : ℚ} : isProportion q = true ↔ 0 ≤ q ∧ q ≤ 1 := by
  have bounds : isProportion q = (decide ((0.0 : ℚ) ≤ q) && decide (q ≤ (1.0 : ℚ))) := rfl
  rw [bounds, Bool.and_eq_true, decide_eq_true_iff, decide_eq_true_iff]
  norm_num

theorem max_exact (a b : ℚ) : max a b = Max.max a b := by
  have cases : max a b = if a < b then b else a := by
    change (if decide (a < b) = true then b else a) = _
    simp only [decide_eq_true_eq]
  rw [cases]
  rcases lt_or_ge a b with less | more
  · rw [if_pos less, max_eq_right less.le]
  · rw [if_neg (not_lt.mpr more), max_eq_left more]

theorem min_exact (a b : ℚ) : min a b = Min.min a b := by
  have cases : min a b = if b < a then b else a := by
    change (if decide (b < a) = true then b else a) = _
    simp only [decide_eq_true_eq]
  rw [cases]
  rcases lt_or_ge b a with less | more
  · rw [if_pos less, min_eq_right less.le]
  · rw [if_neg (not_lt.mpr more), min_eq_left more]

end Scalar

namespace LearnedSolution

variable {s : LearnedSolution} {r : Resolution} {solutions : List LearnedSolution}

def votes (s : LearnedSolution) : ℕ := s.helpful.toNat + s.notHelpful.toNat

def favour (s : LearnedSolution) : ℤ := s.helpful.toNat - s.notHelpful.toNat

theorem votes_first (r : Resolution) : (first r).votes = 0 := rfl

theorem favour_le_votes (s : LearnedSolution) : |s.favour| ≤ s.votes := by
  unfold favour votes
  rw [abs_le]
  omega

theorem votes_count (few : s.votes + 1 < 2 ^ 64) : (s.count r).votes ≤ s.votes + 1 := by
  have votes : (s.count r).votes =
      (if r.feedback? = some .helpful then s.helpful + 1 else s.helpful).toNat +
        (if r.feedback? = some .notHelpful then s.notHelpful + 1 else s.notHelpful).toNat := rfl
  unfold LearnedSolution.votes at few
  rw [votes, LearnedSolution.votes]
  split
  · rename_i helpful
    rw [if_neg (by simp [helpful]), toNat_add_one (by omega)]
    omega
  · split
    · rw [toNat_add_one (by omega)]
      omega
    · omega

theorem favour_count (helpful : r.feedback? = some .helpful) (few : s.votes + 1 < 2 ^ 64) :
    (s.count r).favour = s.favour + 1 := by
  have favour : (s.count r).favour =
      ((if r.feedback? = some .helpful then s.helpful + 1 else s.helpful).toNat : ℤ) -
        (if r.feedback? = some .notHelpful then s.notHelpful + 1 else s.notHelpful).toNat := rfl
  unfold votes at few
  rw [favour, LearnedSolution.favour, if_pos helpful, if_neg (by simp [helpful]), toNat_add_one (by omega)]
  omega

theorem votes_countIn (few : (solutions.map votes).sum + 1 < 2 ^ 64) :
    ((countIn r solutions).map votes).sum ≤ (solutions.map votes).sum + 1 := by
  induction solutions with
  | nil => simpa [countIn, votes_first] using votes_count (s := first r) (r := r) (by rw [votes_first]; norm_num)
  | cons f rest ih =>
      rw [List.map_cons, List.sum_cons] at few ⊢
      unfold countIn
      split
      · have one := votes_count (s := f) (r := r) (by omega)
        rw [List.map_cons, List.sum_cons]
        omega
      · have others := ih (by omega)
        rw [List.map_cons, List.sum_cons]
        omega

theorem favour_countIn (helpful : r.feedback? = some .helpful) (few : (solutions.map votes).sum + 1 < 2 ^ 64) :
    ((countIn r solutions).map favour).sum = (solutions.map favour).sum + 1 := by
  induction solutions with
  | nil =>
      have none : (first r).favour = 0 := rfl
      simpa [countIn, none] using favour_count (s := first r) helpful (by rw [votes_first]; norm_num)
  | cons f rest ih =>
      rw [List.map_cons, List.sum_cons] at few ⊢
      unfold countIn
      split
      · have one := favour_count (s := f) helpful (by omega)
        rw [List.map_cons, List.sum_cons]
        omega
      · have others := ih (by omega)
        rw [List.map_cons, List.sum_cons]
        omega

theorem abs_favour_le (solutions : List LearnedSolution) :
    |(solutions.map favour).sum| ≤ (solutions.map votes).sum := by
  induction solutions with
  | nil => simp
  | cons f rest ih =>
      rw [List.map_cons, List.sum_cons, List.map_cons, List.sum_cons, Nat.cast_add]
      exact (abs_add_le _ _).trans (add_le_add f.favour_le_votes ih)

theorem toInt_toInt64 (c : UInt64) : c.toInt64.toInt = (c.toNat : ℤ).bmod (2 ^ 64) := by
  have bits : c.toInt64.toInt = c.toBitVec.toInt := rfl
  rw [bits, BitVec.toInt_eq_toNat_bmod]
  rfl

theorem toInt_sum (solutions : List LearnedSolution) (start : Int64) :
    ((solutions.map fun s => s.helpful.toInt64 - s.notHelpful.toInt64).foldl (· + ·) start).toInt =
      (start.toInt + (solutions.map favour).sum).bmod (2 ^ 64) := by
  induction solutions generalizing start with
  | nil =>
      rw [List.map_nil, List.foldl_nil, List.map_nil, List.sum_nil, add_zero]
      exact (Int64.toInt_bmod start).symm
  | cons f rest ih =>
      rw [List.map_cons, List.foldl_cons, ih, List.map_cons, List.sum_cons, Int64.toInt_add, Int64.toInt_sub,
        toInt_toInt64, toInt_toInt64, favour]
      simp only [Int.bmod_add_bmod, Int.add_bmod_bmod, Int.bmod_sub_bmod, Int.sub_bmod_bmod, add_assoc]

end LearnedSolution

namespace Entry

variable {α : Type} {n : ℕ} {e : Entry α} {r : Resolution}

def favour (e : Entry α) : ℤ := (e.solutions.map LearnedSolution.favour).sum

/-- What at most `n` reports make of the counts of an entry. -/
structure Counted (n : ℕ) (e : Entry α) : Prop where
  most : e.observed.toNat ≤ n
  successes : e.successCount.toNat ≤ e.observed.toNat
  votes : (e.solutions.map LearnedSolution.votes).sum ≤ e.observed.toNat

theorem Counted.mono {k : ℕ} (counted : e.Counted n) (more : n ≤ k) : e.Counted k :=
  ⟨counted.most.trans more, counted.successes, counted.votes⟩

/-- With fewer than 2⁶³ reports the feedback of an entry is exact. -/
theorem Counted.toInt_netFeedback (counted : e.Counted n) (few : n < 2 ^ 63) : e.netFeedback.toInt = e.favour := by
  have sum := LearnedSolution.toInt_sum e.solutions 0
  have small := LearnedSolution.abs_favour_le e.solutions
  have below : ((e.solutions.map LearnedSolution.votes).sum : ℤ) < 2 ^ 63 := by
    exact_mod_cast lt_of_le_of_lt (counted.votes.trans counted.most) few
  rw [Int64.toInt_zero, zero_add] at sum
  rw [netFeedback, sum, favour]
  rw [abs_le] at small
  exact Int.bmod_eq_of_le (by omega) (by omega)

variable [Scalar α]

theorem counted_new (signature : Signature) (now : Instant) : (new signature now : Entry α).Counted n :=
  ⟨Nat.zero_le n, le_refl 0, le_refl 0⟩

theorem Counted.observed_record (counted : e.Counted n) (few : n + 1 < 2 ^ 64) (r : Resolution) (now : Instant) :
    (e.record r now).observed.toNat = e.observed.toNat + 1 := by
  have most := counted.most
  exact LearnedSolution.toNat_add_one (by omega)

theorem Counted.record (counted : e.Counted n) (few : n + 1 < 2 ^ 64) (r : Resolution) (now : Instant) :
    (e.record r now).Counted (n + 1) := by
  have one := counted.observed_record few r now
  obtain ⟨most, successes, votes⟩ := counted
  refine ⟨by omega, ?_, ?_⟩
  · rw [one]
    change (if r.success then e.successCount + 1 else e.successCount).toNat ≤ _
    split
    · rw [LearnedSolution.toNat_add_one (by omega)]
      omega
    · omega
  · rw [one]
    exact (LearnedSolution.votes_countIn (r := r) (by omega)).trans (by omega)

theorem Counted.favour_record (counted : e.Counted n) (few : n + 1 < 2 ^ 64)
    (helpful : r.feedback? = some .helpful) (now : Instant) : (e.record r now).favour = e.favour + 1 := by
  have votes := counted.votes
  have most := counted.most
  exact LearnedSolution.favour_countIn helpful (by omega)

/-- The adjustment has not left its range. -/
def Tempered (e : Entry ℚ) : Prop := -1 ≤ e.adjustment ∧ e.adjustment ≤ 1

theorem tempered_new (signature : Signature) (now : Instant) : (new signature now : Entry ℚ).Tempered := by
  have adjustment : (new signature now : Entry ℚ).adjustment = (0.0 : ℚ) := rfl
  unfold Tempered
  rw [adjustment]
  norm_num

theorem tempered_record (e : Entry ℚ) (r : Resolution) (now : Instant) : (e.record r now).Tempered := by
  have adjustment : (e.record r now).adjustment = Scalar.clamp (-1.0) 1.0
      ((1.0 - adjustmentWeight) * e.adjustment + adjustmentWeight * signal r) := rfl
  unfold Tempered
  rw [adjustment, Scalar.clamp_exact (by norm_num)]
  constructor
  · exact le_trans (by norm_num) (le_max_left _ _)
  · exact max_le (by norm_num) (le_trans (min_le_right _ _) (by norm_num))

variable {e : Entry ℚ}

theorem signal_exact (r : Resolution) : -1 ≤ (signal r : ℚ) ∧ (signal r : ℚ) ≤ 1 := by
  unfold signal
  cases r.success <;> rcases r.feedback? with _ | f <;> try cases f
  all_goals
    simp only [Feedback.polarity, if_true, Bool.false_eq_true, if_false]
    norm_num

/-- What is in range stays there by itself: of the adjustment seven tenths are kept, and the signal has the rest. -/
theorem adjustment_exact (tempered : e.Tempered) (r : Resolution) (now : Instant) :
    (e.record r now).adjustment = 7 / 10 * e.adjustment + 3 / 10 * signal r := by
  obtain ⟨low, high⟩ := tempered
  obtain ⟨least, most⟩ := signal_exact r
  have adjustment : (e.record r now).adjustment = Scalar.clamp (-1.0) 1.0
      ((1.0 - adjustmentWeight) * e.adjustment + adjustmentWeight * signal r) := rfl
  have moved : ((1.0 - adjustmentWeight) * e.adjustment + adjustmentWeight * signal r : ℚ) =
      7 / 10 * e.adjustment + 3 / 10 * signal r := by
    rw [adjustmentWeight]
    norm_num
  rw [adjustment, moved, Scalar.clamp_exact (by norm_num), min_eq_left (by norm_num; linarith),
    max_eq_right (by norm_num; linarith)]

theorem adjustment_helpful (tempered : e.Tempered) (success : r.success = true)
    (helpful : r.feedback? = some .helpful) (now : Instant) :
    (e.record r now).adjustment = 7 / 10 * e.adjustment + 3 / 10 := by
  have signal : (signal r : ℚ) = 1 := by
    unfold Entry.signal
    simp only [success, helpful, Feedback.polarity]
    norm_num
  rw [adjustment_exact tempered, signal, mul_one]

theorem successRate_exact (e : Entry ℚ) : e.successRate = e.successCount.toNat / e.observed.toNat := by
  unfold successRate
  split
  · rename_i none
    rw [none]
    norm_num
  · rfl

theorem successCount_helpful (counted : e.Counted n) (few : n + 1 < 2 ^ 64) (success : r.success = true)
    (now : Instant) : (e.record r now).successCount.toNat = e.successCount.toNat + 1 := by
  obtain ⟨most, successes, -⟩ := counted
  have count : (e.record r now).successCount = if r.success then e.successCount + 1 else e.successCount := rfl
  rw [count, if_pos success]
  exact LearnedSolution.toNat_add_one (by omega)

end Entry

namespace BlendPolicy

variable {policy : BlendPolicy ℚ} {e : Entry ℚ} {r : Resolution} {n : ℕ} {base q : ℚ} {net : Int64}

/-- What the outcomes and the feedback say, before it is brought into range. -/
def tendency (e : Entry ℚ) : ℚ := e.successRate + adjustmentScale * e.adjustment

theorem historical_exact (e : Entry ℚ) : historical e = Max.max 0 (Min.min (tendency e) 1) :=
  Scalar.clamp_proportion (tendency e)

theorem historical_proportion (e : Entry ℚ) : 0 ≤ historical e ∧ historical e ≤ 1 :=
  Scalar.clamp_within (tendency e)

theorem tendency_rises (counted : e.Counted n) (few : n + 1 < 2 ^ 64) (tempered : e.Tempered)
    (success : r.success = true) (helpful : r.feedback? = some .helpful) (now : Instant) :
    tendency e ≤ tendency (e.record r now) := by
  have less : (e.successCount.toNat : ℚ) ≤ e.observed.toNat := by exact_mod_cast counted.successes
  have sign : (0 : ℚ) ≤ e.observed.toNat := Nat.cast_nonneg _
  have rate : e.successRate ≤ (e.record r now).successRate := by
    rw [Entry.successRate_exact, Entry.successRate_exact, counted.observed_record few,
      Entry.successCount_helpful counted few success, Nat.cast_add, Nat.cast_add, Nat.cast_one]
    rcases sign.eq_or_lt with none | seen
    · rw [← none, div_zero]
      positivity
    · rw [div_le_div_iff₀ seen (by linarith)]
      linarith
  have adjustment : e.adjustment ≤ (e.record r now).adjustment := by
    rw [Entry.adjustment_helpful tempered success helpful]
    linarith [tempered.2]
  unfold tendency
  have scale : (adjustmentScale : ℚ) = 1 / 10 := by
    rw [adjustmentScale]
    norm_num
  rw [scale]
  linarith

theorem tendency_gains (counted : e.Counted n) (few : n + 1 < 2 ^ 64) (tempered : e.Tempered)
    (seen : 0 < e.observed.toNat) (success : r.success = true) (helpful : r.feedback? = some .helpful)
    (now : Instant) :
    e.observed.toNat * tendency e + 1 ≤ (e.observed.toNat + 1) * tendency (e.record r now) := by
  have one : (1 : ℚ) ≤ e.observed.toNat := by exact_mod_cast seen
  have scale : (adjustmentScale : ℚ) = 1 / 10 := by
    rw [adjustmentScale]
    norm_num
  have before : e.observed.toNat * e.successRate = (e.successCount.toNat : ℚ) := by
    rw [Entry.successRate_exact, mul_div_cancel₀ _ (by linarith)]
  have after : ((e.observed.toNat : ℚ) + 1) * (e.record r now).successRate = e.successCount.toNat + 1 := by
    rw [Entry.successRate_exact, counted.observed_record few, Entry.successCount_helpful counted few success,
      Nat.cast_add, Nat.cast_add, Nat.cast_one, mul_div_cancel₀ _ (by linarith)]
  unfold tendency
  rw [scale, mul_add, mul_add, before, after, Entry.adjustment_helpful tempered success helpful]
  have room : 0 ≤ (e.observed.toNat - 1) * (1 - e.adjustment) :=
    mul_nonneg (by linarith) (by linarith [tempered.2])
  linarith [tempered.1]

theorem historical_rises (counted : e.Counted n) (few : n + 1 < 2 ^ 64) (tempered : e.Tempered)
    (success : r.success = true) (helpful : r.feedback? = some .helpful) (now : Instant) :
    historical e ≤ historical (e.record r now) := by
  rw [historical_exact, historical_exact]
  exact max_le_max_left 0 (min_le_min_right 1 (tendency_rises counted few tempered success helpful now))

theorem historical_of_dip (dip : tendency e < 0) : historical e = 0 := by
  rw [historical_exact, max_eq_left ((min_le_left _ _).trans dip.le)]

theorem historical_gains (counted : e.Counted n) (few : n + 1 < 2 ^ 64) (tempered : e.Tempered)
    (seen : 0 < e.observed.toNat) (success : r.success = true) (helpful : r.feedback? = some .helpful)
    (now : Instant) (proper : 0 ≤ tendency e) (below : historical (e.record r now) < 1) :
    e.observed.toNat * historical e + 1 ≤ (e.observed.toNat + 1) * historical (e.record r now) := by
  have rises := tendency_rises counted few tempered success helpful now
  have uncut : tendency (e.record r now) < 1 := by
    by_contra more
    rw [historical_exact, min_eq_right (not_lt.mp more)] at below
    exact absurd (le_max_right (0 : ℚ) 1) (not_le.mpr below)
  rw [historical_exact, historical_exact, min_eq_left uncut.le, min_eq_left (rises.trans uncut.le),
    max_eq_right proper, max_eq_right (proper.trans rises)]
  exact tendency_gains counted few tempered seen success helpful now

theorem bounded_of_pos (helpful : 0 < net) : bounded net base q = Max.max q base := by
  unfold bounded
  rw [if_pos helpful, Scalar.max_exact]

theorem bounded_of_neg (unhelpful : net < 0) : bounded net base q = Min.min q base := by
  have opposed : ¬0 < net := by
    rw [Int64.lt_iff_toInt_lt] at unhelpful ⊢
    omega
  unfold bounded
  rw [if_neg opposed, if_pos unhelpful, Scalar.min_exact]

theorem le_bounded (above : base ≤ q) (net : Int64) : base ≤ bounded net base q := by
  unfold bounded
  split
  · rw [Scalar.max_exact]
    exact le_max_right _ _
  · split
    · rw [Scalar.min_exact]
      exact le_min above (le_refl base)
    · exact above

theorem bounded_of_below (below : q ≤ base) (opposed : ¬0 < net) : bounded net base q = q := by
  unfold bounded
  rw [if_neg opposed]
  split
  · rw [Scalar.min_exact, min_eq_left below]
  · rfl

theorem weight_exact (proportion : Scalar.isProportion policy.maxHistoryWeight = true) (e : Entry ℚ) :
    policy.weight e =
      (Min.min e.observed.toNat policy.historyCap.toNat : ℕ) *
        (policy.maxHistoryWeight / policy.historyCap.toNat) := by
  obtain ⟨low, high⟩ := Scalar.isProportion_exact.mp proportion
  have weight : policy.weight e = ((Min.min e.observed.toNat policy.historyCap.toNat : ℕ) : ℚ) /
      policy.historyCap.toNat * Scalar.clamp 0.0 1.0 policy.maxHistoryWeight := rfl
  rw [weight, Scalar.clamp_inside low high]
  ring

theorem historyCap_pos (capped : policy.historyCap ≠ 0) : (0 : ℚ) < policy.historyCap.toNat := by
  rw [Nat.cast_pos, Nat.pos_iff_ne_zero]
  intro none
  exact capped (UInt32.toNat_inj.mp none)

theorem weight_within (capped : policy.historyCap ≠ 0) (e : Entry ℚ) :
    0 ≤ policy.weight e ∧ policy.weight e ≤ Scalar.clamp 0.0 1.0 policy.maxHistoryWeight := by
  obtain ⟨low, -⟩ := Scalar.clamp_within policy.maxHistoryWeight
  have positive := historyCap_pos capped
  have weight : policy.weight e = ((Min.min e.observed.toNat policy.historyCap.toNat : ℕ) : ℚ) /
      policy.historyCap.toNat * Scalar.clamp 0.0 1.0 policy.maxHistoryWeight := rfl
  have share : ((Min.min e.observed.toNat policy.historyCap.toNat : ℕ) : ℚ) / policy.historyCap.toNat ≤ 1 := by
    rw [div_le_one positive]
    exact_mod_cast Nat.min_le_right _ _
  rw [weight]
  exact ⟨mul_nonneg (div_nonneg (Nat.cast_nonneg _) positive.le) low, mul_le_of_le_one_left low share⟩

theorem weight_proportion (capped : policy.historyCap ≠ 0) (e : Entry ℚ) :
    0 ≤ policy.weight e ∧ policy.weight e ≤ 1 :=
  ⟨(weight_within capped e).1, (weight_within capped e).2.trans (Scalar.clamp_within _).2⟩

theorem bounded_proportion (low : 0 ≤ q) (high : q ≤ 1) (low' : 0 ≤ base) (high' : base ≤ 1) (net : Int64) :
    0 ≤ bounded net base q ∧ bounded net base q ≤ 1 := by
  unfold bounded
  split
  · rw [Scalar.max_exact]
    exact ⟨le_max_of_le_left low, max_le high high'⟩
  · split
    · rw [Scalar.min_exact]
      exact ⟨le_min low low', min_le_of_left_le high⟩
    · exact ⟨low, high⟩

theorem blend_unseen {α : Type} [Scalar α] {policy : BlendPolicy α} {e : Entry α} {base : α}
    (unseen : e.observed = 0) : policy.blend base e = base := by
  have none : e.hasHistory = false := by
    unfold Entry.hasHistory
    rw [unseen]
    rfl
  unfold blend
  rw [none, Bool.not_false, Bool.true_or, if_pos rfl]

theorem blend_proportion (policy : BlendPolicy ℚ) (e : Entry ℚ) (given : Scalar.isProportion base = true) :
    0 ≤ policy.blend base e ∧ policy.blend base e ≤ 1 := by
  unfold blend
  split
  · exact Scalar.isProportion_exact.mp given
  · exact Scalar.clamp_within _

theorem blend_exact (capped : policy.historyCap ≠ 0) (given : Scalar.isProportion base = true)
    (seen : 0 < e.observed.toNat) :
    policy.blend base e =
      bounded e.netFeedback base (base + policy.weight e * (historical e - base)) := by
  obtain ⟨low, high⟩ := Scalar.isProportion_exact.mp given
  obtain ⟨light, heavy⟩ := weight_proportion capped e
  obtain ⟨least, most⟩ := historical_proportion e
  have mixed : (1.0 - policy.weight e) * base + policy.weight e * historical e =
      base + policy.weight e * (historical e - base) := by
    norm_num
    ring
  have above : 0 ≤ base + policy.weight e * (historical e - base) := by
    have own := mul_nonneg (sub_nonneg.mpr heavy) low
    have past := mul_nonneg light least
    linarith
  have below : base + policy.weight e * (historical e - base) ≤ 1 := by
    have own := mul_nonneg (sub_nonneg.mpr heavy) (sub_nonneg.mpr high)
    have past := mul_nonneg light (sub_nonneg.mpr most)
    linarith
  have history : (!e.hasHistory || decide (policy.historyCap = 0)) = false := by
    have known : e.hasHistory = true := decide_eq_true (UInt64.lt_iff_toNat_lt.mpr seen)
    rw [known, decide_eq_false capped]
    rfl
  obtain ⟨inside, within⟩ := bounded_proportion above below low high e.netFeedback
  unfold blend
  rw [history, if_neg Bool.false_ne_true]
  dsimp only
  rw [mixed, Scalar.clamp_inside inside within]

theorem bounded_le (below : q ≤ base) (net : Int64) : bounded net base q ≤ base := by
  unfold bounded
  split
  · rw [Scalar.max_exact]
    exact max_le below (le_refl base)
  · split
    · rw [Scalar.min_exact]
      exact min_le_right _ _
    · exact below

theorem bounded_of_above (above : base ≤ q) (unopposed : ¬net < 0) : bounded net base q = q := by
  unfold bounded
  split
  · rw [Scalar.max_exact, max_eq_left above]
  · rfl

section Lesson

variable (counted : e.Counted n) (few : n + 1 < 2 ^ 63) (tempered : e.Tempered) (success : r.success = true)
  (helpful : r.feedback? = some .helpful) (capped : policy.historyCap ≠ 0)
  (proportion : Scalar.isProportion policy.maxHistoryWeight = true) (given : Scalar.isProportion base = true)
  (now : Instant)

include counted few in
theorem seen_record : 0 < (e.record r now).observed.toNat := by
  rw [counted.observed_record (by omega)]
  exact Nat.succ_pos _

include counted few proportion in
theorem weight_rises : policy.weight e ≤ policy.weight (e.record r now) := by
  obtain ⟨low, -⟩ := Scalar.isProportion_exact.mp proportion
  rw [weight_exact proportion, weight_exact proportion, counted.observed_record (by omega)]
  refine mul_le_mul_of_nonneg_right ?_ (div_nonneg low (Nat.cast_nonneg _))
  exact_mod_cast min_le_min_right _ (Nat.le_succ _)

include counted few helpful in
theorem toInt_netFeedback_record : (e.record r now).netFeedback.toInt = e.netFeedback.toInt + 1 := by
  rw [(counted.record (by omega) r now).toInt_netFeedback few, counted.toInt_netFeedback (by omega),
    counted.favour_record (by omega) helpful]

include counted few tempered success helpful capped proportion given in
/-- As long as the feedback is not against the solutions, one more helpful success lowers nothing. -/
theorem blend_le_of_unopposed (unopposed : ¬e.netFeedback < 0) :
    policy.blend base e ≤ policy.blend base (e.record r now) := by
  have favoured : 0 < (e.record r now).netFeedback := by
    have one := toInt_netFeedback_record counted few helpful now
    rw [Int64.lt_iff_toInt_lt, Int64.toInt_zero] at unopposed ⊢
    omega
  rw [blend_exact capped given (seen_record counted few now), bounded_of_pos favoured]
  rcases Nat.eq_zero_or_pos e.observed.toNat with none | seen
  · rw [blend_unseen (UInt64.toNat_inj.mp none)]
    exact le_max_right _ _
  · rw [blend_exact capped given seen]
    obtain ⟨light, -⟩ := weight_proportion capped e
    rcases le_total (historical e) base with low | high
    · have below : base + policy.weight e * (historical e - base) ≤ base := by
        have drawn := mul_nonneg light (sub_nonneg.mpr low)
        linarith
      exact (bounded_le below _).trans (le_max_right _ _)
    · have above : base ≤ base + policy.weight e * (historical e - base) := by
        have drawn := mul_nonneg light (sub_nonneg.mpr high)
        linarith
      rw [bounded_of_above above unopposed]
      have further : policy.weight e * (historical e - base) ≤
          policy.weight (e.record r now) * (historical (e.record r now) - base) := by
        have rises := historical_rises counted (by omega) tempered success helpful now
        exact mul_le_mul (weight_rises counted few proportion now) (by linarith) (by linarith)
          (weight_proportion capped _).1
      exact le_max_of_le_left (by linarith)

include counted in
theorem seen_of_opposed (few : n < 2 ^ 63) (opposed : e.netFeedback < 0) : 0 < e.observed.toNat := by
  rw [Int64.lt_iff_toInt_lt, Int64.toInt_zero, counted.toInt_netFeedback few] at opposed
  have small := LearnedSolution.abs_favour_le e.solutions
  have votes := counted.votes
  unfold Entry.favour at opposed
  rw [abs_le] at small
  omega

include counted few helpful capped given in
/-- Against the feedback, and as long as history is below the base, the blend is what is left of the base. -/
theorem blend_lt_iff_of_opposed (opposed : e.netFeedback < 0) (low : historical e < base)
    (still : historical (e.record r now) < base) :
    policy.blend base (e.record r now) < policy.blend base e ↔
      policy.weight e * (base - historical e) <
        policy.weight (e.record r now) * (base - historical (e.record r now)) := by
  have seen := seen_of_opposed counted (by omega) opposed
  have one := toInt_netFeedback_record counted few helpful now
  have unhelpful : ¬0 < e.netFeedback := by
    rw [Int64.lt_iff_toInt_lt] at opposed ⊢
    omega
  have unhelpful' : ¬0 < (e.record r now).netFeedback := by
    rw [Int64.lt_iff_toInt_lt, Int64.toInt_zero] at opposed ⊢
    omega
  have drawn := mul_nonneg (weight_proportion capped e).1 (sub_nonneg.mpr low.le)
  have drawn' := mul_nonneg (weight_proportion capped (e.record r now)).1 (sub_nonneg.mpr still.le)
  rw [blend_exact capped given seen, bounded_of_below (by linarith) unhelpful,
    blend_exact capped given (seen_record counted few now), bounded_of_below (by linarith) unhelpful']
  constructor
  · intro lowered
    linarith
  · intro heavier
    linarith

include counted few capped proportion in
theorem weighted_lt_iff (early : e.observed.toNat < policy.historyCap.toNat) (p q : ℚ) :
    policy.weight e * p < policy.weight (e.record r now) * q ↔
      0 < policy.maxHistoryWeight ∧ e.observed.toNat * p < (e.observed.toNat + 1) * q := by
  obtain ⟨low, -⟩ := Scalar.isProportion_exact.mp proportion
  have positive := historyCap_pos capped
  rw [weight_exact proportion, weight_exact proportion, counted.observed_record (by omega),
    Nat.min_eq_left early.le, Nat.min_eq_left early]
  have share : 0 < policy.maxHistoryWeight / policy.historyCap.toNat ↔ 0 < policy.maxHistoryWeight :=
    div_pos_iff_of_pos_right positive
  have least : 0 ≤ policy.maxHistoryWeight / policy.historyCap.toNat := div_nonneg low positive.le
  generalize policy.maxHistoryWeight / (policy.historyCap.toNat : ℚ) = unit at share least
  rw [← share, Nat.cast_succ, mul_right_comm, mul_right_comm _ unit]
  rcases least.eq_or_lt with none | some
  · simp [← none]
  · rw [mul_lt_mul_iff_left₀ some]
    exact (and_iff_right some).symm

include counted few proportion in
theorem weight_record_of_late (late : policy.historyCap.toNat ≤ e.observed.toNat) :
    policy.weight (e.record r now) = policy.weight e := by
  rw [weight_exact proportion, weight_exact proportion, counted.observed_record (by omega),
    Nat.min_eq_right late, Nat.min_eq_right (by omega)]

include counted few tempered success helpful capped proportion given in
/-- A larger weight outdoes a better history only below the cap, and only if history is cut off at zero. -/
theorem heavier_iff (seen : 0 < e.observed.toNat) (still : historical (e.record r now) < base) :
    policy.weight e * (base - historical e) <
        policy.weight (e.record r now) * (base - historical (e.record r now)) ↔
      e.observed.toNat < policy.historyCap.toNat ∧ 0 < policy.maxHistoryWeight ∧ tendency e < 0 ∧
        (e.observed.toNat + 1) * historical (e.record r now) < base := by
  obtain ⟨-, high⟩ := Scalar.isProportion_exact.mp given
  rcases Nat.lt_or_ge e.observed.toNat policy.historyCap.toNat with early | late
  · rw [weighted_lt_iff counted few capped proportion now early]
    constructor
    · rintro ⟨weighty, heavier⟩
      have dip : tendency e < 0 := by
        by_contra proper
        have gains := historical_gains counted (by omega) tempered seen success helpful now (not_lt.mp proper)
          (still.trans_le high)
        linarith
      rw [historical_of_dip dip] at heavier
      exact ⟨early, weighty, dip, by linarith⟩
    · rintro ⟨-, weighty, dip, short⟩
      rw [historical_of_dip dip]
      exact ⟨weighty, by linarith⟩
  · refine ⟨fun heavier => ?_, fun conditions => absurd conditions.1 (not_lt.mpr late)⟩
    rw [weight_record_of_late counted few proportion now late] at heavier
    have rises := historical_rises counted (by omega) tempered success helpful now
    have drawn := mul_le_mul_of_nonneg_left rises (weight_proportion capped e).1
    linarith

include counted few tempered success helpful capped proportion given in
/-- One more helpful success lowers a confidence exactly if most feedback so far was against the solutions, history
has not its full weight yet, and what it says is cut off at zero and then grows too little to make up for the larger
weight. -/
theorem blend_lowered_iff :
    policy.blend base (e.record r now) < policy.blend base e ↔
      e.netFeedback < 0 ∧ e.observed.toNat < policy.historyCap.toNat ∧ 0 < policy.maxHistoryWeight ∧
        tendency e < 0 ∧ (e.observed.toNat + 1) * historical (e.record r now) < base := by
  by_cases opposed : e.netFeedback < 0
  · have seen := seen_of_opposed counted (by omega) opposed
    have rises := historical_rises counted (by omega) tempered success helpful now
    rcases lt_or_ge (historical (e.record r now)) base with still | high
    · rw [blend_lt_iff_of_opposed counted few helpful capped given now opposed (rises.trans_lt still) still,
        heavier_iff counted few tempered success helpful capped proportion given now seen still]
      exact (and_iff_right opposed).symm
    · constructor
      · intro lowered
        have before : policy.blend base e ≤ base := by
          rw [blend_exact capped given seen, bounded_of_neg opposed]
          exact min_le_right _ _
        have after : base ≤ policy.blend base (e.record r now) := by
          rw [blend_exact capped given (seen_record counted few now)]
          refine le_bounded ?_ _
          have drawn := mul_nonneg (weight_proportion capped (e.record r now)).1 (sub_nonneg.mpr high)
          linarith
        exact absurd (lowered.trans_le before) (not_lt.mpr after)
      · rintro ⟨-, -, -, -, short⟩
        have seen' : (0 : ℚ) ≤ e.observed.toNat := Nat.cast_nonneg _
        have whole := mul_nonneg seen' (historical_proportion (e.record r now)).1
        linarith
  · constructor
    · intro lowered
      exact absurd lowered (not_lt.mpr
        (blend_le_of_unopposed counted few tempered success helpful capped proportion given now opposed))
    · intro conditions
      exact absurd conditions.1 opposed

end Lesson

end BlendPolicy

end Remedy
