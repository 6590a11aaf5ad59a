import Remedy.Knowledge.Blend
import Remedy.Proofs.Proportion

/-! What reports make of an entry, and the confidences computed from it. Main statement: history turns a
proportion into a proportion. -/

namespace Remedy

open Binary64

namespace Text

theorem all_dropWhile {p : Char → Bool} (cs : List Char) : (cs.dropWhile p).all p = cs.all p := by
  induction cs with
  | nil => rfl
  | cons c rest ih =>
      by_cases blank : p c = true
      · rw [List.dropWhile_cons_of_pos blank, ih, List.all_cons, blank, Bool.true_and]
      · rw [List.dropWhile_cons_of_neg blank]

theorem isAllBlank_trimmed (s : String) : isAllBlank (trimmed s) = isAllBlank s := by
  unfold isAllBlank trimmed trim trimEnd trimStart
  rw [String.toList_ofList, List.all_reverse, all_dropWhile, List.all_reverse, all_dropWhile]

end Text

structure LearnedSolution.Sound (n : ℕ) (s : LearnedSolution) : Prop where
  described : Text.isAllBlank s.solution = false
  successes : s.successes.toNat ≤ s.attempts.toNat
  attempts : s.attempts.toNat ≤ n

structure Entry.Sound (n : ℕ) (e : Entry Float) : Prop where
  adjustment : Between e.adjustment (-1) 1
  solutions : ∀ s ∈ e.solutions, s.Sound n

theorem denotes_minus_one : Denotes (-1.0) (-1) := by
  have found : Denotes (-1.0) _ := denotes_of_unpack .negative (-52) (by norm_num) (by norm_num) rfl
  norm_num [factor] at found
  exact found

theorem denotes_two : Denotes 2.0 2 := by
  have found : Denotes 2.0 _ := denotes_of_unpack .positive (-51) (by norm_num) (by norm_num) rfl
  norm_num [factor] at found
  exact found

namespace LearnedSolution

variable {n : ℕ} {s : LearnedSolution} {r : Resolution}

theorem Sound.mono {k : ℕ} (sound : s.Sound n) (more : n ≤ k) : s.Sound k :=
  ⟨sound.described, sound.successes, sound.attempts.trans more⟩

theorem toNat_add_one {c : UInt64} (few : c.toNat + 1 < 2 ^ 64) : (c + 1).toNat = c.toNat + 1 := by
  rw [UInt64.toNat_add]
  exact Nat.mod_eq_of_lt few

theorem Sound.count (sound : s.Sound n) (few : n + 1 < 2 ^ 64) (r : Resolution) : (s.count r).Sound (n + 1) := by
  obtain ⟨described, successes, attempts⟩ := sound
  have raised : (s.count r).attempts.toNat = s.attempts.toNat + 1 := toNat_add_one (by omega)
  refine ⟨described, ?_, ?_⟩
  · rw [raised]
    change (if r.success then s.successes + 1 else s.successes).toNat ≤ _
    split
    · rw [toNat_add_one (by omega)]
      omega
    · omega
  · rw [raised]
    omega

theorem sound_first (stated : Text.isAllBlank r.solution = false) : (first r).Sound n := by
  refine ⟨?_, le_refl _, Nat.zero_le n⟩
  rw [first, Text.isAllBlank_trimmed]
  exact stated

theorem sound_countIn {solutions : List LearnedSolution} (sound : ∀ s ∈ solutions, s.Sound n)
    (few : n + 1 < 2 ^ 64) (stated : Text.isAllBlank r.solution = false) :
    ∀ s ∈ countIn r solutions, s.Sound (n + 1) := by
  induction solutions with
  | nil =>
      intro s member
      rw [List.mem_singleton.mp member]
      exact (sound_first stated).count few r
  | cons f rest ih =>
      have behind : ∀ s ∈ rest, s.Sound n := fun s later => sound s (List.mem_cons_of_mem f later)
      intro s member
      unfold countIn at member
      split at member
      · rcases List.mem_cons.mp member with rfl | later
        · exact (sound f List.mem_cons_self).count few r
        · exact (behind s later).mono (Nat.le_succ n)
      · rcases List.mem_cons.mp member with rfl | later
        · exact (sound s List.mem_cons_self).mono (Nat.le_succ n)
        · exact ih behind s later

theorem smoothedRate_between (sound : s.Sound n) (few : n < 2 ^ 64) :
    Between (s.smoothedRate : Float) 0 1 := by
  have small := lt_of_le_of_lt sound.attempts few
  obtain ⟨p, -, denotes, sign, high, -⟩ := ofNat_denotes (lt_of_le_of_lt sound.successes small)
  obtain ⟨q, -, denotes', sign', high', -⟩ := ofNat_denotes small
  have order := ofNat_mono sound.successes small denotes denotes'
  have bound : |p + 1| ≤ limit := bound_of_sides (p := 2 ^ 65) (by linarith) (by linarith) (by norm_num)
  have bound' : |q + 2| ≤ limit := bound_of_sides (p := 2 ^ 65) (by linarith) (by linarith) (by norm_num)
  obtain ⟨p', nearest, part⟩ := denotes.add denotes_one bound
  obtain ⟨q', nearest', whole⟩ := denotes'.add denotes_two bound'
  have less : p' ≤ q' := nearest.mono nearest' (by linarith)
  have low : 1 ≤ p' := nearest.ge_of_ge isShort_one (by linarith)
  exact quotient_between part whole (by linarith) less (by linarith)

end LearnedSolution

namespace Entry

variable {n : ℕ} {e : Entry Float} {r : Resolution}

theorem sound_new (signature : Signature) (now : Instant) : (new signature now : Entry Float).Sound n :=
  ⟨⟨0, denotes_zero, by norm_num, by norm_num⟩, fun _ none => (List.not_mem_nil none).elim⟩

theorem signal_between (r : Resolution) : Between (signal r) (-1) 1 := by
  have closed : ∀ (success : Bool) (feedback? : Option Feedback),
      (-1.0 : Float) ≤ signal ⟨0, "", "", success, 0, feedback?⟩ ∧
        signal ⟨0, "", "", success, 0, feedback?⟩ ≤ (1.0 : Float) := by
    intro success feedback?
    cases success with
    | false =>
        rcases feedback? with _ | f
        · decide
        · cases f <;> decide
    | true =>
        rcases feedback? with _ | f
        · decide
        · cases f <;> decide
  -- Only the outcome and the feedback of a report count.
  have same : (signal r : Float) = signal ⟨0, "", "", r.success, 0, r.feedback?⟩ := rfl
  obtain ⟨above, below⟩ := closed r.success r.feedback?
  rw [← same] at above below
  exact between_of_le denotes_minus_one denotes_one above below

theorem adjustment_record (tempered : Between e.adjustment (-1) 1) (r : Resolution) (now : Instant) :
    Between (e.record r now).adjustment (-1) 1 := by
  have weight : Between (adjustmentWeight : Float) 0 1 := isProportion_iff.mp (by decide)
  have kept := (weight.complement.weaken (by norm_num) (le_refl _)).mul_signed tempered
  have latest := (weight.weaken (by norm_num) (le_refl _)).mul_signed (signal_between r)
  obtain ⟨q, denotes⟩ := (kept.weaken (by norm_num) (by norm_num)).add (latest.weaken (by norm_num) (by norm_num))
  exact clamp_between denotes_minus_one denotes_one (by norm_num) denotes

theorem Sound.record (sound : e.Sound n) (few : n + 1 < 2 ^ 64) (stated : Text.isAllBlank r.solution = false)
    (now : Instant) : (e.record r now).Sound (n + 1) :=
  ⟨adjustment_record sound.adjustment r now, LearnedSolution.sound_countIn sound.solutions few stated⟩

end Entry

namespace BlendPolicy

variable {policy : BlendPolicy Float} {e : Entry Float} {base : Float}

theorem successRate_between (e : Entry Float) : Between e.successRate 0 (2 ^ 64) := by
  unfold Entry.successRate
  split
  · exact ⟨0, denotes_zero, le_refl 0, by norm_num⟩
  · rename_i some
    have positive : 0 < e.observed.toNat := by
      rw [Nat.pos_iff_ne_zero]
      intro none
      exact some (UInt64.toNat_inj.mp none)
    exact ofNat_quotient e.successCount.toNat_lt positive e.observed.toNat_lt

theorem historical_between (tempered : Between e.adjustment (-1) 1) : Between (historical e) 0 1 := by
  have scale : Between (adjustmentScale : Float) 0 1 := isProportion_iff.mp (by decide)
  have shift := (scale.weaken (by norm_num) (le_refl _)).mul_signed tempered
  obtain ⟨q, denotes⟩ := ((successRate_between e).weaken (by norm_num) (le_refl _)).add
    (shift.weaken (by norm_num) (by norm_num))
  exact clamp_between denotes_zero denotes_one (by norm_num) denotes

theorem weight_between (some : policy.historyCap ≠ 0) (number : policy.maxHistoryWeight.isNaN = false)
    (e : Entry Float) : Between (policy.weight e) 0 1 := by
  have positive : 0 < policy.historyCap.toNat := by
    rw [Nat.pos_iff_ne_zero]
    intro none
    exact some (UInt32.toNat_inj.mp none)
  have ratio := ofNat_ratio (Nat.min_le_right e.observed.toNat policy.historyCap.toNat) positive
    (policy.historyCap.toNat_lt.trans (by norm_num))
  exact ratio.mul (clamp_number denotes_zero denotes_one (by norm_num) number)

theorem bounded_denotes (net : Int64) {blended : Float} {a b : ℚ} (first : Denotes base a)
    (second : Denotes blended b) : ∃ q, Denotes (bounded net base blended) q := by
  unfold bounded Scalar.max Scalar.min
  split
  · split
    · exact ⟨a, first⟩
    · split
      · exact ⟨a, first⟩
      · exact ⟨b, second⟩
  · split
    · split
      · exact ⟨a, first⟩
      · split
        · exact ⟨a, first⟩
        · exact ⟨b, second⟩
    · exact ⟨b, second⟩

/-- History turns a proportion into a proportion. -/
theorem blend_between (number : policy.maxHistoryWeight.isNaN = false)
    (tempered : Between e.adjustment (-1) 1) (given : Between base 0 1) : Between (policy.blend base e) 0 1 := by
  unfold blend
  split
  · exact given
  · rename_i history
    have some : policy.historyCap ≠ 0 := by
      intro none
      simp [none] at history
    have part := weight_between some number e
    have own := (part.complement.mul given).weaken (c := -2 ^ 64) (d := 2 ^ 64) (by norm_num) (by norm_num)
    have past := part.mul (historical_between tempered)
    obtain ⟨b, blended⟩ := own.add (past.weaken (by norm_num) (by norm_num))
    obtain ⟨a, denotes, -⟩ := given
    obtain ⟨q, between⟩ := bounded_denotes e.netFeedback denotes blended
    exact clamp_between denotes_zero denotes_one (by norm_num) between

end BlendPolicy

end Remedy
