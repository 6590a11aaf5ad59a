import Mathlib.Algebra.BigOperators.Ring.List
import Remedy.Proofs.Knowledge.Statistics

/-! What an entry keeps of the reports it was given. Main statement: its counters, its solutions and its averages are
those of the reports. -/

namespace Remedy

section Firsts

variable {α κ : Type} {alike : α → α → Bool} {key : α → κ}

theorem eraseDupsBy_concat (alike : α → α → Bool) (xs : List α) (x : α) :
    (xs ++ [x]).eraseDupsBy alike =
      if (xs.eraseDupsBy alike).any (alike x) then xs.eraseDupsBy alike else xs.eraseDupsBy alike ++ [x] := by
  have loop : ∀ seen, List.eraseDupsBy.loop alike (xs ++ [x]) seen =
      if (List.eraseDupsBy.loop alike xs seen).any (alike x) then List.eraseDupsBy.loop alike xs seen
      else List.eraseDupsBy.loop alike xs seen ++ [x] := by
    induction xs with
    | nil =>
        intro seen
        rw [List.nil_append, List.eraseDupsBy.loop, List.eraseDupsBy.loop, List.any_reverse]
        cases seen.any (alike x) <;> simp [List.eraseDupsBy.loop]
    | cons y rest ih =>
        intro seen
        rw [List.cons_append, List.eraseDupsBy.loop, List.eraseDupsBy.loop]
        cases seen.any (alike y) with
        | true => exact ih seen
        | false => exact ih (y :: seen)
  exact loop []

theorem eraseDupsBy_sublist (alike : α → α → Bool) (xs : List α) : (xs.eraseDupsBy alike).Sublist xs := by
  induction xs using List.reverseRecOn with
  | nil => exact List.nil_sublist _
  | append_singleton xs x ih =>
      rw [eraseDupsBy_concat]
      split
      · exact ih.trans (List.sublist_append_left xs [x])
      · exact ih.append (List.Sublist.refl [x])

theorem keys_eraseDupsBy (same : ∀ a b, alike a b = true ↔ key a = key b) (xs : List α) :
    ((xs.eraseDupsBy alike).map key).Nodup ∧ ∀ k, k ∈ (xs.eraseDupsBy alike).map key ↔ k ∈ xs.map key := by
  induction xs using List.reverseRecOn with
  | nil => exact ⟨List.nodup_nil, fun _ => Iff.rfl⟩
  | append_singleton xs x ih =>
      obtain ⟨distinct, kept⟩ := ih
      have seen : (xs.eraseDupsBy alike).any (alike x) = true ↔ key x ∈ xs.map key := by
        rw [← kept, List.any_eq_true, List.mem_map]
        simp only [same, eq_comm]
      rw [eraseDupsBy_concat, List.map_append, List.map_singleton]
      split
      · rename_i old
        refine ⟨distinct, fun k => ?_⟩
        rw [kept, List.mem_append, List.mem_singleton]
        exact ⟨.inl, fun known => known.elim id fun last => last ▸ seen.mp old⟩
      · rename_i new
        rw [seen, ← kept] at new
        rw [List.map_append, List.map_singleton]
        refine ⟨List.concat_eq_append ▸ distinct.concat new, fun k => ?_⟩
        rw [List.mem_append, List.mem_append, kept]

end Firsts

namespace Text

def folded (s : String) : List Char := s.toList.map Char.toLower

theorem equalIgnoringCase_iff (a b : String) : equalIgnoringCase a b = true ↔ folded a = folded b := beq_iff_eq

end Text

namespace LearnedSolution

variable {s : LearnedSolution} {r : Resolution} {solutions : List LearnedSolution} {reports : List Resolution}

/-- The counts of a solution are those of some reports. -/
structure Tallies (reports : List Resolution) (s : LearnedSolution) : Prop where
  attempts : s.attempts.toNat = reports.length
  successes : s.successes.toNat = reports.countP (·.success)
  helpful : s.helpful.toNat = reports.countP (·.feedback? = some .helpful)
  notHelpful : s.notHelpful.toNat = reports.countP (·.feedback? = some .notHelpful)

theorem isFor_iff : s.isFor r = true ↔ Text.folded s.solution = Text.folded (Text.trimmed r.solution) :=
  Text.equalIgnoringCase_iff _ _

theorem isFor_first (r : Resolution) : (first r).isFor r = true := isFor_iff.mpr rfl

theorem isFor_count (s : LearnedSolution) (r : Resolution) : (s.count r).isFor = s.isFor := rfl

theorem tallies_first (r : Resolution) : (first r).Tallies [] := ⟨rfl, rfl, rfl, rfl⟩

theorem toNat_raised {c : UInt64} (few : c.toNat + 1 < 2 ^ 64) (p : Resolution → Prop) [DecidablePred p]
    (r : Resolution) :
    (if p r then c + 1 else c).toNat = c.toNat + [r].countP p := by
  by_cases counts : p r
  · rw [if_pos counts, toNat_add_one few]
    simp [counts]
  · rw [if_neg counts]
    simp [counts]

theorem Tallies.count (tallies : s.Tallies reports) (few : reports.length + 1 < 2 ^ 64) (r : Resolution) :
    (s.count r).Tallies (reports ++ [r]) := by
  have most : ∀ p : Resolution → Bool, reports.countP p + 1 < 2 ^ 64 :=
    fun p => lt_of_le_of_lt (Nat.succ_le_succ List.countP_le_length) few
  obtain ⟨attempts, successes, helpful, notHelpful⟩ := tallies
  constructor
  · rw [List.length_append, ← attempts]
    exact toNat_add_one (attempts ▸ few)
  · rw [List.countP_append, ← successes]
    have raised := toNat_raised (successes ▸ most _) (·.success = true) r
    simp only [Bool.decide_eq_true] at raised
    exact raised
  · rw [List.countP_append, ← helpful]
    exact toNat_raised (helpful ▸ most _) (·.feedback? = some .helpful) r
  · rw [List.countP_append, ← notHelpful]
    exact toNat_raised (notHelpful ▸ most _) (·.feedback? = some .notHelpful) r

theorem texts_countIn (r : Resolution) (solutions : List LearnedSolution) :
    (countIn r solutions).map (·.solution) =
      if (solutions.map (·.solution)).any (Text.equalIgnoringCase (Text.trimmed r.solution)) then
        solutions.map (·.solution)
      else solutions.map (·.solution) ++ [Text.trimmed r.solution] := by
  induction solutions with
  | nil => rfl
  | cons s rest ih =>
      have turned : Text.equalIgnoringCase (Text.trimmed r.solution) s.solution = s.isFor r := by
        rw [Bool.eq_iff_iff, Text.equalIgnoringCase_iff, isFor_iff, eq_comm]
      rw [List.map_cons, List.any_cons, turned, countIn]
      cases s.isFor r with
      | true => rfl
      | false =>
          simp only [Bool.false_or, Bool.false_eq_true, if_false, List.map_cons, ih]
          split <;> rfl

theorem mem_countIn (distinct : (solutions.map fun s => Text.folded s.solution).Nodup) {t : LearnedSolution}
    (member : t ∈ countIn r solutions) :
    t ∈ solutions ∧ t.isFor r = false ∨
      ∃ s, t = s.count r ∧ (s ∈ solutions ∧ s.isFor r = true ∨ s = first r ∧ ∀ u ∈ solutions, u.isFor r = false) := by
  induction solutions with
  | nil => exact .inr ⟨first r, List.mem_singleton.mp member, .inr ⟨rfl, fun _ none => (List.not_mem_nil none).elim⟩⟩
  | cons s rest ih =>
      obtain ⟨fresh, later⟩ := List.nodup_cons.mp distinct
      unfold countIn at member
      cases own : s.isFor r with
      | true =>
          rw [own, if_pos rfl] at member
          rcases List.mem_cons.mp member with rfl | behind
          · exact .inr ⟨s, rfl, .inl ⟨List.mem_cons_self, own⟩⟩
          · -- The solutions differ, so a later one cannot be about the same report.
            refine .inl ⟨List.mem_cons_of_mem s behind, ?_⟩
            rw [← Bool.not_eq_true, isFor_iff]
            intro same
            exact fresh (List.mem_map.mpr ⟨t, behind, same.trans (isFor_iff.mp own).symm⟩)
      | false =>
          rw [own, if_neg Bool.false_ne_true] at member
          rcases List.mem_cons.mp member with rfl | behind
          · exact .inl ⟨List.mem_cons_self, own⟩
          · rcases ih later behind with ⟨among, other⟩ | ⟨u, counted, ⟨among, about⟩ | ⟨new, unknown⟩⟩
            · exact .inl ⟨List.mem_cons_of_mem s among, other⟩
            · exact .inr ⟨u, counted, .inl ⟨List.mem_cons_of_mem s among, about⟩⟩
            · exact .inr ⟨u, counted, .inr ⟨new, List.forall_mem_cons.mpr ⟨own, unknown⟩⟩⟩

theorem parts_perm (distinct : (solutions.map fun s => Text.folded s.solution).Nodup)
    (named : ∀ r ∈ reports, ∃ s ∈ solutions, s.isFor r = true) :
    (solutions.flatMap fun s => reports.filter s.isFor).Perm reports := by
  induction solutions generalizing reports with
  | nil =>
      have none : reports = [] := List.eq_nil_iff_forall_not_mem.mpr fun r listed => by
        obtain ⟨s, absent, -⟩ := named r listed
        exact List.not_mem_nil absent
      rw [none]
      rfl
  | cons s rest ih =>
      obtain ⟨fresh, later⟩ := List.nodup_cons.mp distinct
      have others : (rest.flatMap fun t => (reports.filter fun r => !s.isFor r).filter t.isFor) =
          rest.flatMap fun t => reports.filter t.isFor := by
        refine List.flatMap_congr fun t behind => ?_
        rw [List.filter_filter]
        refine List.filter_congr fun r _ => ?_
        cases about : t.isFor r with
        | false => rfl
        | true =>
            have apart : s.isFor r = false := by
              rw [← Bool.not_eq_true, isFor_iff]
              intro same
              exact fresh (List.mem_map.mpr ⟨t, behind, (isFor_iff.mp about).trans same.symm⟩)
            rw [apart]
            rfl
      have left : ∀ r ∈ reports.filter (fun r => !s.isFor r), ∃ t ∈ rest, t.isFor r = true := by
        intro r remaining
        obtain ⟨listed, other⟩ := List.mem_filter.mp remaining
        obtain ⟨t, among, about⟩ := named r listed
        rcases List.mem_cons.mp among with rfl | behind
        · simp [about] at other
        · exact ⟨t, behind, about⟩
      rw [List.flatMap_cons, ← others]
      exact ((ih later left).append_left _).trans (List.filter_append_perm _ _)

theorem sum_favour (solutions : List LearnedSolution) : (solutions.map favour).sum =
    ((solutions.map (·.helpful.toNat)).sum : ℕ) - (((solutions.map (·.notHelpful.toNat)).sum : ℕ) : ℤ) := by
  induction solutions with
  | nil => rfl
  | cons s rest ih =>
      simp only [List.map_cons, List.sum_cons, ih, favour, Nat.cast_add]
      ring

end LearnedSolution

namespace Entry

open LearnedSolution (Tallies)

variable {α : Type} {e : Entry α} {reports : List Resolution}

/-- The counters and the solutions of an entry are those of some reports. -/
structure Accounts (reports : List Resolution) (e : Entry α) : Prop where
  observed : e.observed.toNat = reports.length
  successes : e.successCount.toNat = reports.countP (·.success)
  texts : e.solutions.map (·.solution) =
    (reports.map fun r => Text.trimmed r.solution).eraseDupsBy Text.equalIgnoringCase
  tallies : ∀ s ∈ e.solutions, s.Tallies (reports.filter s.isFor)

theorem Accounts.keys (accounts : e.Accounts reports) :
    (e.solutions.map fun s => Text.folded s.solution).Nodup ∧
      ∀ r, (∃ s ∈ e.solutions, s.isFor r = true) ↔
        ∃ r' ∈ reports, Text.folded (Text.trimmed r'.solution) = Text.folded (Text.trimmed r.solution) := by
  obtain ⟨distinct, kept⟩ := keys_eraseDupsBy Text.equalIgnoringCase_iff (reports.map fun r => Text.trimmed r.solution)
  rw [← accounts.texts, List.map_map] at distinct kept
  refine ⟨distinct, fun r => ?_⟩
  have named := kept (Text.folded (Text.trimmed r.solution))
  rw [List.map_map, List.mem_map, List.mem_map] at named
  simpa only [LearnedSolution.isFor_iff, Function.comp_apply] using named

variable [Scalar α]

theorem accounts_new (signature : Signature) (now : Instant) : (new signature now : Entry α).Accounts [] :=
  ⟨rfl, rfl, rfl, fun _ none => (List.not_mem_nil none).elim⟩

theorem texts_record (texts : e.solutions.map (·.solution) =
      (reports.map fun r => Text.trimmed r.solution).eraseDupsBy Text.equalIgnoringCase) (r : Resolution)
    (now : Instant) : (e.record r now).solutions.map (·.solution) =
      ((reports ++ [r]).map fun r => Text.trimmed r.solution).eraseDupsBy Text.equalIgnoringCase := by
  rw [List.map_append, List.map_singleton, eraseDupsBy_concat, ← texts]
  exact LearnedSolution.texts_countIn r e.solutions

/-- A report that is recorded is in the account. -/
theorem Accounts.record (accounts : e.Accounts reports) (few : reports.length + 1 < 2 ^ 64) (r : Resolution)
    (now : Instant) : (e.record r now).Accounts (reports ++ [r]) where
  observed := by
    rw [List.length_append, ← accounts.observed]
    exact LearnedSolution.toNat_add_one (accounts.observed ▸ few)
  successes := by
    have most : e.successCount.toNat + 1 < 2 ^ 64 :=
      accounts.successes ▸ lt_of_le_of_lt (Nat.succ_le_succ List.countP_le_length) few
    have raised := LearnedSolution.toNat_raised most (·.success = true) r
    simp only [Bool.decide_eq_true] at raised
    rw [List.countP_append, ← accounts.successes]
    exact raised
  texts := texts_record accounts.texts r now
  tallies := by
    obtain ⟨distinct, named⟩ := accounts.keys
    intro t member
    rw [List.filter_append]
    rcases LearnedSolution.mem_countIn distinct member with ⟨among, other⟩ | ⟨s, rfl, ⟨among, about⟩ | ⟨rfl, unknown⟩⟩
    · rw [List.filter_singleton, other, cond_false, List.append_nil]
      exact accounts.tallies t among
    · rw [LearnedSolution.isFor_count, List.filter_singleton, about, cond_true]
      have fewer : (reports.filter s.isFor).length ≤ reports.length := List.length_filter_le _ _
      exact (accounts.tallies s among).count (by omega) r
    · -- A report about a new solution is the first about it.
      have none : reports.filter (LearnedSolution.first r).isFor = [] := by
        rw [List.filter_eq_nil_iff]
        intro r' earlier same
        obtain ⟨s, among, about⟩ := (named r).mpr ⟨r', earlier, (LearnedSolution.isFor_iff.mp same).symm⟩
        exact Bool.false_ne_true ((unknown s among).symm.trans about)
      rw [LearnedSolution.isFor_count, none, List.filter_singleton, LearnedSolution.isFor_first, cond_true]
      exact (LearnedSolution.tallies_first r).count (by norm_num) r

def after (e : Entry α) (reports : List (Resolution × Instant)) : Entry α :=
  reports.foldl (fun e report => e.record report.1 report.2) e

theorem after_concat (e : Entry α) (reports : List (Resolution × Instant)) (report : Resolution × Instant) :
    e.after (reports ++ [report]) = (e.after reports).record report.1 report.2 :=
  List.foldl_concat _ _ _ _

theorem texts_after (signature : Signature) (start : Instant) (reports : List (Resolution × Instant)) :
    ((new signature start : Entry α).after reports).solutions.map (·.solution) =
      ((reports.map Prod.fst).map fun r => Text.trimmed r.solution).eraseDupsBy Text.equalIgnoringCase := by
  induction reports using List.reverseRecOn with
  | nil => rfl
  | append_singleton earlier report ih =>
      rw [after_concat, List.map_append]
      exact texts_record ih report.1 report.2

theorem trimmed_after (signature : Signature) (start : Instant) (reports : List (Resolution × Instant)) :
    ∀ s ∈ ((new signature start : Entry α).after reports).solutions, Text.trimmed s.solution = s.solution := by
  intro s member
  have among := List.mem_map_of_mem (f := (·.solution)) member
  rw [texts_after] at among
  obtain ⟨r, -, own⟩ := List.mem_map.mp ((eraseDupsBy_sublist _ _).mem among)
  rw [← own, Text.trimmed_trimmed]

theorem accounts_after (signature : Signature) (start : Instant) {reports : List (Resolution × Instant)}
    (few : reports.length < 2 ^ 64) :
    ((new signature start : Entry α).after reports).Accounts (reports.map Prod.fst) := by
  induction reports using List.reverseRecOn with
  | nil => exact accounts_new signature start
  | append_singleton earlier report ih =>
      rw [List.length_append] at few
      rw [after_concat, List.map_append]
      exact (ih (Nat.lt_of_succ_lt few)).record (by simpa using few) report.1 report.2

section Sums

omit [Scalar α]

theorem Accounts.parts (accounts : e.Accounts reports) :
    (e.solutions.flatMap fun s => reports.filter s.isFor).Perm reports :=
  LearnedSolution.parts_perm accounts.keys.1 fun r listed => (accounts.keys.2 r).mpr ⟨r, listed, rfl⟩

theorem Accounts.sum_countP (accounts : e.Accounts reports) (p : Resolution → Bool) :
    (e.solutions.map fun s => (reports.filter s.isFor).countP p).sum = reports.countP p := by
  rw [← accounts.parts.countP_eq p, List.countP_flatMap]
  rfl

theorem Accounts.sum_attempts (accounts : e.Accounts reports) :
    (e.solutions.map (·.attempts.toNat)).sum = e.observed.toNat := by
  rw [accounts.observed, ← accounts.parts.length_eq, List.length_flatMap]
  exact congrArg List.sum (List.map_congr_left fun s among => (accounts.tallies s among).attempts)

theorem Accounts.sum_successes (accounts : e.Accounts reports) :
    (e.solutions.map (·.successes.toNat)).sum = e.successCount.toNat := by
  rw [accounts.successes, ← accounts.sum_countP]
  exact congrArg List.sum (List.map_congr_left fun s among => (accounts.tallies s among).successes)

theorem Accounts.sum_helpful (accounts : e.Accounts reports) :
    (e.solutions.map (·.helpful.toNat)).sum = reports.countP (·.feedback? = some .helpful) := by
  rw [← accounts.sum_countP]
  exact congrArg List.sum (List.map_congr_left fun s among => (accounts.tallies s among).helpful)

theorem Accounts.sum_notHelpful (accounts : e.Accounts reports) :
    (e.solutions.map (·.notHelpful.toNat)).sum = reports.countP (·.feedback? = some .notHelpful) := by
  rw [← accounts.sum_countP]
  exact congrArg List.sum (List.map_congr_left fun s among => (accounts.tallies s among).notHelpful)

theorem Accounts.counted (accounts : e.Accounts reports) : e.Counted reports.length where
  most := accounts.observed.le
  successes := by
    rw [accounts.observed, accounts.successes]
    exact List.countP_le_length
  votes := by
    have sum : (e.solutions.map LearnedSolution.votes).sum =
        (e.solutions.map (·.helpful.toNat)).sum + (e.solutions.map (·.notHelpful.toNat)).sum := List.sum_map_add
    have apart : reports.countP (·.feedback? = some .notHelpful) ≤
        reports.countP fun r => !decide (r.feedback? = some .helpful) :=
      List.countP_mono_left fun r _ against => by
        rw [of_decide_eq_true against]
        rfl
    have whole := List.length_eq_countP_add_countP (l := reports) (fun r => decide (r.feedback? = some .helpful))
    rw [sum, accounts.sum_helpful, accounts.sum_notHelpful, accounts.observed, whole]
    simpa using apart

/-- While the counters hold, feedback is the helpful reports less the others. -/
theorem Accounts.netFeedback (accounts : e.Accounts reports) (few : reports.length < 2 ^ 63) :
    e.netFeedback.toInt = (reports.countP (·.feedback? = some .helpful) : ℤ) -
      reports.countP (·.feedback? = some .notHelpful) := by
  rw [accounts.counted.toInt_netFeedback few, favour, LearnedSolution.sum_favour, accounts.sum_helpful,
    accounts.sum_notHelpful]

end Sums

section Averages

theorem minutes_after (signature : Signature) (start : Instant) {reports : List (Resolution × Instant)}
    (few : reports.length < 2 ^ 64) :
    ((new signature start).after reports).minutes =
      (reports.map fun report => (report.1.timeToResolve.toNat : ℚ)).sum := by
  induction reports using List.reverseRecOn with
  | nil => exact minutes_new signature start
  | append_singleton earlier report ih =>
      rw [List.length_append] at few
      have fewer : earlier.length < 2 ^ 64 := Nat.lt_of_succ_lt few
      have seen := (accounts_after (α := ℚ) signature start fewer).observed
      rw [List.length_map] at seen
      rw [after_concat, minutes_record (by rw [seen]; simpa using few), ih fewer, List.map_append, List.sum_append]
      simp

theorem averageTime_after (signature : Signature) (start : Instant) {reports : List (Resolution × Instant)}
    (few : reports.length < 2 ^ 64) :
    ((new signature start : Entry ℚ).after reports).averageTime =
      ((reports.map Prod.fst).map fun r => (r.timeToResolve.toNat : ℚ)).sum / (reports.map Prod.fst).length := by
  have seen := (accounts_after (α := ℚ) signature start few).observed
  have sum := minutes_after signature start few
  rw [minutes, seen] at sum
  rw [List.map_map, Function.comp_def, ← sum]
  rcases reports.eq_nil_or_concat with rfl | ⟨earlier, last, rfl⟩
  · have nothing : ((new signature start).after []).averageTime = (0.0 : ℚ) := rfl
    rw [nothing]
    norm_num
  · exact (mul_div_cancel_right₀ _ (by simp; positivity)).symm

def weighed (reports : List Resolution) : ℚ :=
  (reports.mapIdx fun i r => 0.3 * 0.7 ^ (reports.length - (i + 1)) * signal r).sum

theorem weighed_concat (reports : List Resolution) (r : Resolution) :
    weighed (reports ++ [r]) = 7 / 10 * weighed reports + 3 / 10 * signal r := by
  have older : reports.mapIdx (fun i r => (0.3 : ℚ) * 0.7 ^ (reports.length + 1 - (i + 1)) * signal r) =
      (reports.mapIdx fun i r => (0.3 : ℚ) * 0.7 ^ (reports.length - (i + 1)) * signal r).map (7 / 10 * ·) := by
    refine List.ext_getElem (by simp) fun i below _ => ?_
    rw [List.length_mapIdx] at below
    have further : reports.length + 1 - (i + 1) = reports.length - (i + 1) + 1 := by omega
    simp only [List.getElem_mapIdx, List.getElem_map, further, pow_succ]
    ring
  unfold weighed
  rw [List.length_append, List.length_singleton, List.mapIdx_concat, List.sum_append, older, List.sum_singleton,
    List.sum_map_mul_left, List.map_id', Nat.sub_self, pow_zero]
  ring

theorem abs_weighed_le (reports : List Resolution) : |weighed reports| ≤ 1 - (7 / 10) ^ reports.length := by
  induction reports using List.reverseRecOn with
  | nil => simp [weighed]
  | append_singleton earlier r ih =>
      obtain ⟨low, high⟩ := signal_exact r
      -- Each report leaves seven tenths of what the sum was short of one.
      rw [abs_le] at ih ⊢
      rw [weighed_concat, List.length_append, List.length_singleton, pow_succ]
      constructor <;> linarith

theorem adjustment_after (signature : Signature) (start : Instant) (reports : List (Resolution × Instant)) :
    ((new signature start).after reports).adjustment = weighed (reports.map Prod.fst) := by
  induction reports using List.reverseRecOn with
  | nil =>
      have nothing : ((new signature start).after []).adjustment = (0.0 : ℚ) := rfl
      rw [nothing]
      norm_num [weighed]
  | append_singleton earlier report ih =>
      have within := abs_weighed_le (earlier.map Prod.fst)
      rw [← ih, abs_le] at within
      have rest : (0 : ℚ) < (7 / 10) ^ (earlier.map Prod.fst).length := by positivity
      have tempered : ((new signature start : Entry ℚ).after earlier).Tempered := ⟨by linarith, by linarith⟩
      rw [after_concat, adjustment_exact tempered, ih, List.map_append, List.map_singleton, weighed_concat]

/-- The adjustment stays strictly in its range, so that it is never brought back there. -/
theorem adjustment_within (signature : Signature) (start : Instant) (reports : List (Resolution × Instant)) :
    -1 < ((new signature start : Entry ℚ).after reports).adjustment ∧
      ((new signature start : Entry ℚ).after reports).adjustment < 1 := by
  have within := abs_weighed_le (reports.map Prod.fst)
  have rest : (0 : ℚ) < (7 / 10) ^ (reports.map Prod.fst).length := by positivity
  rw [adjustment_after]
  rw [abs_le] at within
  constructor <;> linarith

end Averages

/-- Of reports that are recorded in a new entry, all are counted, and so are those of successes. The solutions are what
they name, without white space around it and each once up to the case of letters, in the order in which they came up,
and each has the counts of the reports about it, so that these add up to those of the entry. With exact numbers the
time is the mean of theirs, and the adjustment is the sum of their signals with weights that grow from the first to the
last, which never has to be brought into range. -/
theorem after_accounted {α : Type} [Scalar α] (signature : Signature) (start : Instant)
    {reports : List (Resolution × Instant)} (few : reports.length < 2 ^ 63) :
    let told := reports.map Prod.fst
    let e : Entry α := (new signature start).after reports
    let precise : Entry ℚ := (new signature start).after reports
    e.observed.toNat = told.length ∧
      e.successCount.toNat = told.countP (·.success) ∧
      e.solutions.map (·.solution) =
        (told.map fun r => Text.trimmed r.solution).eraseDupsBy Text.equalIgnoringCase ∧
      e.solutions.Pairwise (fun s t => Text.equalIgnoringCase s.solution t.solution = false) ∧
      (∀ s ∈ e.solutions, s.Tallies (told.filter s.isFor)) ∧
      (e.solutions.map (·.attempts.toNat)).sum = e.observed.toNat ∧
      (e.solutions.map (·.successes.toNat)).sum = e.successCount.toNat ∧
      e.netFeedback.toInt =
        told.countP (·.feedback? = some .helpful) - (told.countP (·.feedback? = some .notHelpful) : ℤ) ∧
      precise.averageTime = (told.map fun r => (r.timeToResolve.toNat : ℚ)).sum / told.length ∧
      precise.adjustment = (told.mapIdx fun i r => 0.3 * 0.7 ^ (told.length - (i + 1)) * signal r).sum ∧
      -1 < precise.adjustment ∧ precise.adjustment < 1 ∧
      ∀ r now, (precise.record r now).adjustment =
          (1.0 - adjustmentWeight) * precise.adjustment + adjustmentWeight * signal r ∧
        -1 < (precise.record r now).adjustment ∧ (precise.record r now).adjustment < 1 := by
  intro told e precise
  have below : reports.length < 2 ^ 64 := few.trans (by norm_num)
  have accounts : e.Accounts told := accounts_after signature start below
  have observed : precise.observed.toNat = told.length := (accounts_after signature start below).observed
  have within := adjustment_within signature start reports
  refine ⟨accounts.observed, accounts.successes, accounts.texts, ?_, accounts.tallies, accounts.sum_attempts,
    accounts.sum_successes, accounts.netFeedback (by simpa [told] using few), ?_,
    adjustment_after signature start reports, within.1, within.2, ?_⟩
  · have apart := List.pairwise_map.mp accounts.keys.1
    exact apart.imp fun {s t} differ => Bool.eq_false_iff.mpr (mt (Text.equalIgnoringCase_iff _ _).mp differ)
  · exact averageTime_after signature start below
  · intro r now
    have next := adjustment_within signature start (reports ++ [(r, now)])
    rw [after_concat] at next
    refine ⟨?_, next⟩
    rw [adjustment_exact (e := precise) ⟨within.1.le, within.2.le⟩, adjustmentWeight]
    norm_num

def mixed : List (Resolution × Instant) :=
  [(⟨2304, "", "Add import ", true, 2, some .helpful⟩, ⟨0, 0⟩),
    (⟨2304, "", "add IMPORT", false, 6, some .notHelpful⟩, ⟨1, 0⟩), (⟨2304, "", "Rename it", true, 1, none⟩, ⟨2, 0⟩)]

theorem after_accounted_mixed : mixed.length < 2 ^ 63 ∧
    ((new ⟨2304, .importError⟩ ⟨0, 0⟩ : Entry Float).after mixed).solutions.map (·.solution) =
      ["Add import", "Rename it"] ∧
    ((new ⟨2304, .importError⟩ ⟨0, 0⟩ : Entry Float).after mixed).netFeedback.toInt = 0 ∧
    ((new ⟨2304, .importError⟩ ⟨0, 0⟩ : Entry ℚ).after mixed).averageTime = 3 ∧
    ((new ⟨2304, .importError⟩ ⟨0, 0⟩ : Entry ℚ).after mixed).adjustment = 0.087 := by
  have few : mixed.length < 2 ^ 63 := by decide
  obtain ⟨-, -, texts, -, -, -, -, net, mean, adjustment, -⟩ :=
    after_accounted (α := Float) ⟨2304, .importError⟩ ⟨0, 0⟩ few
  refine ⟨few, texts.trans ?_, net.trans ?_, mean.trans ?_, adjustment.trans ?_⟩
  · decide +kernel
  · decide +kernel
  · decide +kernel
  · decide +kernel

end Entry

namespace Table

variable {t : Table Float} {reports : List Report}

/-- Every entry is a new one after some of the reports about its signature, in their order. -/
def Follows (reports : List Report) (t : Table Float) : Prop :=
  ∀ signature e, t.get? signature = some e → ∃ start told, e = (Entry.new signature start).after told ∧
    (told.map Prod.fst).Sublist ((reports.filter (·.signature = signature)).map (·.resolution))

theorem follows_empty : (empty : Table Float).Follows [] := by
  intro signature e found
  cases found

theorem Follows.skip (follows : t.Follows reports) (report : Report) : t.Follows (reports ++ [report]) := by
  intro signature e found
  obtain ⟨start, told, made, listed⟩ := follows signature e found
  rw [List.filter_append, List.map_append]
  exact ⟨start, told, made, listed.trans (List.sublist_append_left _ _)⟩

theorem Follows.record (follows : t.Follows reports) (report : Report) (now : Instant) :
    (t.record report.signature report.resolution now).Follows (reports ++ [report]) := by
  intro signature e found
  rw [Table.record, get?_insert] at found
  split at found
  · rename_i same
    have own : report.signature = signature := (t.signature_recorded _ _ now).symm.trans same
    have before : ∃ start told, (t.get? report.signature).getD (Entry.new report.signature now) =
        (Entry.new signature start).after told ∧
          (told.map Prod.fst).Sublist ((reports.filter (·.signature = signature)).map (·.resolution)) := by
      rw [own]
      cases known : t.get? signature with
      | none => exact ⟨now, [], rfl, List.nil_sublist _⟩
      | some before => exact follows signature before known
    obtain ⟨start, told, made, listed⟩ := before
    cases found
    refine ⟨start, told ++ [(report.resolution, now)], ?_, ?_⟩
    · rw [made, Entry.after_concat]
    · rw [List.filter_append, List.filter_singleton, decide_eq_true own, cond_true, List.map_append, List.map_append]
      exact listed.append (List.Sublist.refl _)
  · exact follows.skip report signature e found

end Table

/-- After any reports, a store that does not fail has what some of them make of new entries. -/
theorem Store.after_told {m : Type → Type} [Monad m] {σ : Type} [World m σ] {store : Store m Float}
    {Holds : σ → Table Float → Prop} {s : σ} (serves : store.Serves Holds) (holds : Holds s Table.empty)
    (reports : List Report) : ∃ t, Holds (store.after s reports) t ∧ t.Follows reports :=
  after_follows serves (fun _ report _ follows => follows.skip report)
    (fun _ report _ now follows _ => follows.record report now) holds Table.follows_empty reports

end Remedy
