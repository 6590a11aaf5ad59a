import Mathlib.Order.Defs.Unbundled
import Remedy.Proofs.Fix.Settled

/-! A fix that is given one confidence after another. Main statement: it only ever loses autonomy and only ever gains the
demand for tests, and whether it is still automatic and whether it is accepted can be read off the values it was given. -/

namespace Remedy.Fix

open Binary64

section Run

variable {α : Type} [Scalar α] {fix : Fix α}

def withConfidences (fix : Fix α) (values : List α) : Fix α := values.foldl withConfidence fix

/-- Nothing has changed but the confidence and what goes by it, and that neither towards more autonomy nor towards
fewer tests. -/
structure Ratchets (before after : Fix α) : Prop where
  rank : before.autonomy.rank ≤ after.autonomy.rank
  tested : before.checks.testRequired = true → after.checks.testRequired = true
  kept : ∃ autonomy confidence testRequired, after = { before with
    autonomy := autonomy
    confidence := confidence
    checks := { before.checks with testRequired := testRequired } }

instance : IsPreorder (Fix α) Ratchets where
  refl fix := ⟨le_refl _, fun required => required, fix.autonomy, fix.confidence, fix.checks.testRequired, rfl⟩
  trans a b c first second := by
    obtain ⟨rank, tested, _, _, _, rfl⟩ := first
    obtain ⟨rank', tested', _, _, _, rfl⟩ := second
    exact ⟨rank.trans rank', fun required => tested' (tested required), _, _, _, rfl⟩

theorem withConfidence_ratchets (fix : Fix α) (confidence : α) : Ratchets fix (fix.withConfidence confidence) where
  rank := fix.rank_le_withConfidence confidence
  tested := settle_tested { fix with confidence := Scalar.clamp 0.0 1.0 confidence }
  kept := ⟨_, _, _, (settle_kept { fix with confidence := Scalar.clamp 0.0 1.0 confidence }).2⟩

theorem withConfidences_append (fix : Fix α) (earlier later : List α) :
    fix.withConfidences (earlier ++ later) = (fix.withConfidences earlier).withConfidences later :=
  List.foldl_append

theorem withConfidences_ratchets (fix : Fix α) (values : List α) : Ratchets fix (fix.withConfidences values) := by
  induction values generalizing fix with
  | nil => exact Std.Refl.refl fix
  | cons confidence rest ih => exact IsTrans.trans _ _ _ (fix.withConfidence_ratchets confidence) (ih _)

theorem Settled.withConfidence_automatic_iff (settled : fix.Settled) (confidence : α) :
    (fix.withConfidence confidence).autonomy = .automatic ↔
      fix.autonomy = .automatic ∧ Scalar.lt (Scalar.clamp 0.0 1.0 confidence) automaticThreshold = false := by
  rw [withConfidence, settle_automatic_iff]
  constructor
  · rintro ⟨automatic, may⟩
    exact ⟨automatic, (mayBeAutomatic_iff.mp may).1⟩
  · rintro ⟨automatic, confident⟩
    obtain ⟨-, reversible, changing⟩ := mayBeAutomatic_iff.mp (settled.automatic automatic)
    exact ⟨automatic, mayBeAutomatic_iff.mpr ⟨confident, reversible, changing⟩⟩

theorem Settled.withConfidences_automatic_iff (settled : fix.Settled) (values : List α) :
    (fix.withConfidences values).autonomy = .automatic ↔ fix.autonomy = .automatic ∧
      ∀ confidence ∈ values, Scalar.lt (Scalar.clamp 0.0 1.0 confidence) automaticThreshold = false := by
  induction values generalizing fix with
  | nil => simp [withConfidences]
  | cons confidence rest ih =>
      have next : (fix.withConfidence confidence).Settled := settle_settled _
      rw [List.forall_mem_cons, ← and_assoc, ← settled.withConfidence_automatic_iff]
      exact ih next

theorem Settled.withConfidences (settled : fix.Settled) (values : List α) : (fix.withConfidences values).Settled := by
  induction values generalizing fix with
  | nil => exact settled
  | cons confidence rest ih => exact ih (settle_settled _)

end Run

variable {draft fix : Fix Float}

theorem threshold_denotes : ∃ q, Denotes automaticThreshold q ∧ 0 < q ∧ q ≤ 1 := by
  obtain ⟨q, denotes, -, below⟩ := isProportion_iff.mp (by decide : Scalar.isProportion automaticThreshold = true)
  exact ⟨q, denotes, (scalar_lt_iff denotes_zero denotes).mp (by decide), below⟩

theorem confident_iff (confidence : Float) :
    Scalar.lt (Scalar.clamp 0.0 1.0 confidence) automaticThreshold = false ↔
      confidence.isNaN = true ∨ Scalar.le automaticThreshold confidence = true := by
  obtain ⟨q, denotes, above, below⟩ := threshold_denotes
  rw [lt_clamp denotes_zero denotes_one denotes above below, not_lt_iff denotes]

/-- The last confidence that a built fix was given decides whether it is accepted. -/
theorem withConfidences_valid_iff (built : build draft = .ok fix) (values : List Float) :
    (fix.withConfidences values).validate = .ok () ↔ ∀ last ∈ values.getLast?, last.isNaN = false := by
  obtain ⟨buildable, rfl⟩ := build_eq_ok_iff.mp built
  rw [((settle_settled draft).withConfidences values).valid_iff]
  induction values using List.reverseRecOn with
  | nil => simpa [withConfidences] using buildable.settle
  | append_singleton earlier last =>
      -- The steps before the last leave alone what a draft is asked for, so only the last value counts.
      obtain ⟨-, -, autonomy, confidence, testRequired, kept⟩ := draft.settle.withConfidences_ratchets earlier
      have described : Text.isAllBlank (draft.settle.withConfidences earlier).description = false := by
        rw [kept]
        exact buildable.settle.described
      have checked : (draft.settle.withConfidences earlier).checks.postConditions ≠ [] := by
        rw [kept]
        exact buildable.settle.checked
      have one : ∀ fix : Fix Float, fix.withConfidences [last] = fix.withConfidence last := fun _ => rfl
      rw [withConfidences_append, one, withConfidence_buildable_iff described checked]
      simp

/-- However often the confidence of a built fix changes, the fix never moves towards more autonomy or fewer tests. It is
automatic at the end exactly if it was built so and each value reached the threshold or was no number at all, and it is
accepted unless the last value is no number. -/
theorem confidence_ratchets (built : build draft = .ok fix) (values : List Float) :
    (∀ earlier, earlier <+: values → Ratchets (fix.withConfidences earlier) (fix.withConfidences values)) ∧
      ((fix.withConfidences values).autonomy = .automatic ↔ fix.autonomy = .automatic ∧
        ∀ confidence ∈ values, confidence.isNaN = true ∨ Scalar.le automaticThreshold confidence = true) ∧
      ((fix.withConfidences values).validate = .ok () ↔ ∀ last ∈ values.getLast?, last.isNaN = false) := by
  refine ⟨?_, ?_, withConfidences_valid_iff built values⟩
  · rintro earlier ⟨later, parts⟩
    rw [← parts, withConfidences_append]
    exact withConfidences_ratchets _ later
  · have settled : fix.Settled := by
      rw [← (build_eq_ok_iff.mp built).2]
      exact settle_settled draft
    simp only [settled.withConfidences_automatic_iff, confident_iff]

def sure : Fix Float where
  id := "f"
  description := "Add missing import"
  autonomy := .automatic
  confidence := 0.8
  category := .genericError
  changes := [.insert 0 "import x from 'x';\n"]
  checks := ⟨[], ["import statement present"], [], false⟩
  rollbackPossible := true

theorem sure_built : build sure = .ok sure :=
  build_eq_ok_iff.mpr ⟨⟨by decide +kernel, by decide, by simp [sure]⟩,
    settle_eq_self_iff.mpr ⟨fun _ => by decide, by decide⟩⟩

/-- An infinite confidence leaves it automatic; what it has lost to a low one does not come back. -/
theorem confidence_ratchets_sure :
    (sure.withConfidences [1.0 / 0.0]).autonomy = .automatic ∧
      (sure.withConfidences [1.0 / 0.0, 0.6, 0.9]).autonomy ≠ .automatic ∧
      (sure.withConfidences [1.0 / 0.0, 0.6, 0.9]).validate = .ok () := by
  obtain ⟨-, high, -⟩ := confidence_ratchets sure_built [1.0 / 0.0]
  obtain ⟨-, low, valid⟩ := confidence_ratchets sure_built [1.0 / 0.0, 0.6, 0.9]
  refine ⟨high.mpr ⟨rfl, by simp; decide +kernel⟩, ?_, valid.mpr ?_⟩
  · rw [ne_eq, low]
    decide +kernel
  · decide +kernel

/-- A value that is no number leaves it automatic, and not accepted. -/
theorem sure_undefined :
    build sure = .ok sure ∧ (sure.withConfidences [0.0 / 0.0]).autonomy = .automatic ∧
      (sure.withConfidences [0.0 / 0.0]).validate = .error (.invalidFix "f" .confidenceRange) :=
  ⟨sure_built, by decide +kernel, by decide +kernel⟩

end Remedy.Fix
