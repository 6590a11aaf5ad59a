import Mathlib.Data.List.Basic
import Remedy.Fix.Basic
import Remedy.Proofs.Binary64.Total
import Remedy.Proofs.Proportion
import Remedy.Proofs.Sorting

/-! The rules every fix obeys. Main statement: whatever is built, and whatever confidence it is given afterwards,
obeys them, with no more autonomy than before. -/

namespace Remedy

open Binary64

namespace Autonomy

theorem rank_le_downgraded (a : Autonomy) : a.rank ≤ a.downgraded.rank := by
  cases a <;> decide

theorem downgraded_ne_automatic (a : Autonomy) : a.downgraded ≠ automatic := by
  cases a <;> decide

end Autonomy

namespace Fix

variable {α : Type} [Scalar α]

/-- The rules that tie the autonomy of a fix to what else is in it. -/
structure Settled (fix : Fix α) : Prop where
  automatic : fix.autonomy = .automatic → fix.mayBeAutomatic = true
  tested : fix.needsTest = true → fix.checks.testRequired = true

/-- What is asked of a draft before anything is made of it. -/
structure Buildable (draft : Fix α) : Prop where
  described : Text.isAllBlank draft.description = false
  proportion : Scalar.isProportion draft.confidence = true
  checked : draft.checks.postConditions ≠ []

/-- What is asked of a fix that was not built here. -/
structure Sound (fix : Fix α) : Prop extends Buildable fix where
  confident : fix.autonomy = .automatic → Scalar.lt fix.confidence automaticThreshold = false
  reversible : fix.autonomy = .automatic → fix.rollbackPossible = true
  tested : fix.needsTest = true → fix.checks.testRequired = true

/-- All that is asked of a fix. -/
structure WellFormed (fix : Fix α) : Prop where
  valid : fix.validate = .ok ()
  proportion : Scalar.isProportion fix.confidence = true
  checked : fix.checks.postConditions ≠ []
  automatic : fix.autonomy = .automatic →
    Scalar.le automaticThreshold fix.confidence = true ∧ fix.rollbackPossible = true ∧ fix.changes ≠ []
  manual : fix.autonomy = .manual → fix.checks.testRequired = true
  careful : 2 < fix.checks.preConditions.length → fix.checks.testRequired = true

variable (fix : Fix α)

omit [Scalar α] in
theorem requireTest_eq :
    fix.requireTest =
      { fix with checks := { fix.checks with testRequired := fix.needsTest || fix.checks.testRequired } } := by
  unfold requireTest
  cases fix.needsTest <;> rfl

theorem downgradeUnlessFit_eq :
    fix.downgradeUnlessFit = { fix with
      autonomy := if fix.isAutomatic && !fix.mayBeAutomatic then fix.autonomy.downgraded else fix.autonomy } := by
  unfold downgradeUnlessFit
  split <;> rfl

theorem settle_autonomy :
    fix.settle.autonomy =
      if fix.isAutomatic && !fix.mayBeAutomatic then fix.autonomy.downgraded else fix.autonomy := by
  rw [settle, requireTest_eq, downgradeUnlessFit_eq]

theorem settle_automatic_iff :
    fix.settle.autonomy = .automatic ↔ fix.autonomy = .automatic ∧ fix.mayBeAutomatic = true := by
  rw [settle_autonomy]
  cases may : fix.mayBeAutomatic with
  | true => simp
  | false =>
      by_cases automatic : fix.autonomy = .automatic
      · simp [isAutomatic, automatic, Autonomy.downgraded_ne_automatic]
      · simp [isAutomatic, automatic]

theorem settle_kept :
    fix.autonomy.rank ≤ fix.settle.autonomy.rank ∧
      fix.settle = { fix with
        autonomy := fix.settle.autonomy
        checks := { fix.checks with testRequired := fix.settle.checks.testRequired } } := by
  constructor
  · rw [settle_autonomy]
    split
    · exact fix.autonomy.rank_le_downgraded
    · exact le_refl _
  · rw [settle, requireTest_eq, downgradeUnlessFit_eq]

theorem settle_mayBeAutomatic : fix.settle.mayBeAutomatic = fix.mayBeAutomatic := by
  rw [(settle_kept fix).2]
  rfl

theorem settle_tested (tested : fix.checks.testRequired = true) : fix.settle.checks.testRequired = true := by
  rw [settle, requireTest_eq, downgradeUnlessFit_eq]
  simp [tested]

theorem settle_settled : fix.settle.Settled := by
  constructor
  · intro automatic
    rw [settle_mayBeAutomatic]
    exact ((settle_automatic_iff fix).mp automatic).2
  · intro needed
    rw [settle, requireTest_eq] at needed ⊢
    simp [show fix.downgradeUnlessFit.needsTest = true from needed]

theorem rank_le_withConfidence (confidence : α) : fix.autonomy.rank ≤ (fix.withConfidence confidence).autonomy.rank :=
  (settle_kept { fix with confidence := Scalar.clamp 0.0 1.0 confidence }).1

theorem settle_confidence : fix.settle.confidence = fix.confidence := by rw [(settle_kept fix).2]

theorem settle_description : fix.settle.description = fix.description := by rw [(settle_kept fix).2]

theorem settle_id : fix.settle.id = fix.id := by rw [(settle_kept fix).2]

theorem settle_changes : fix.settle.changes = fix.changes := by rw [(settle_kept fix).2]

theorem settle_postConditions : fix.settle.checks.postConditions = fix.checks.postConditions := by
  rw [(settle_kept fix).2]

variable {fix}

theorem mayBeAutomatic_iff :
    fix.mayBeAutomatic = true ↔
      Scalar.lt fix.confidence automaticThreshold = false ∧ fix.rollbackPossible = true ∧ fix.changes ≠ [] := by
  simp [mayBeAutomatic, and_assoc]

theorem flaw?_eq_none_iff : fix.flaw? = none ↔ fix.Sound := by
  unfold flaw?
  constructor
  · intro unflawed
    split_ifs at unflawed with silent doubtful unchecked unsure fixed untested careless
    have tested : fix.needsTest = true → fix.checks.testRequired = true := by
      intro needed
      rw [needsTest, Bool.or_eq_true, decide_eq_true_iff, decide_eq_true_iff] at needed
      cases needed with
      | inl manual => simpa [manual] using untested
      | inr many => simpa [many] using careless
    constructor
    · exact ⟨by simpa using silent, by simpa using doubtful, by simpa using unchecked⟩
    · intro automatic
      simpa [isAutomatic, automatic] using unsure
    · intro automatic
      simpa [isAutomatic, automatic] using fixed
    · exact tested
  · intro sound
    have confident : (fix.isAutomatic && Scalar.lt fix.confidence automaticThreshold) = false := by
      simpa [isAutomatic] using sound.confident
    have reversible : (fix.isAutomatic && !fix.rollbackPossible) = false := by
      simpa [isAutomatic] using sound.reversible
    have manual : ¬(fix.autonomy = .manual ∧ (!fix.checks.testRequired) = true) := by
      rintro ⟨manual, untested⟩
      simp [sound.tested (by simp [needsTest, manual])] at untested
    have careful : ¬(2 < fix.checks.preConditions.length ∧ (!fix.checks.testRequired) = true) := by
      rintro ⟨many, untested⟩
      simp [sound.tested (by simp [needsTest, many])] at untested
    rw [sound.described, sound.proportion, confident, reversible, if_neg manual, if_neg careful]
    simp [sound.checked]

/-- A fix is accepted exactly if it is sound. -/
theorem validate_eq_ok_iff : fix.validate = .ok () ↔ fix.Sound := by
  rw [← flaw?_eq_none_iff, validate]
  cases fix.flaw? <;> simp

theorem build_eq_ok_iff {draft : Fix α} : build draft = .ok fix ↔ draft.Buildable ∧ draft.settle = fix := by
  unfold build
  constructor
  · intro built
    split_ifs at built with silent doubtful unchecked
    cases built
    exact ⟨⟨by simpa using silent, by simpa using doubtful, by simpa using unchecked⟩, rfl⟩
  · rintro ⟨buildable, settled⟩
    simp [buildable.described, buildable.proportion, buildable.checked, settled]

theorem build_kept {draft : Fix α} (built : build draft = .ok fix) :
    draft.autonomy.rank ≤ fix.autonomy.rank ∧
      fix = { draft with
        autonomy := fix.autonomy
        checks := { draft.checks with testRequired := fix.checks.testRequired } } := by
  rw [← (build_eq_ok_iff.mp built).2]
  exact settle_kept draft

theorem Buildable.settle {draft : Fix α} (buildable : draft.Buildable) : draft.settle.Buildable := by
  constructor
  · rw [settle_description]
    exact buildable.described
  · rw [settle_confidence]
    exact buildable.proportion
  · rw [settle_postConditions]
    exact buildable.checked

theorem Settled.sound (settled : fix.Settled) (buildable : fix.Buildable) : fix.Sound := by
  refine ⟨buildable, ?_, ?_, settled.tested⟩
  · intro automatic
    exact (mayBeAutomatic_iff.mp (settled.automatic automatic)).1
  · intro automatic
    exact (mayBeAutomatic_iff.mp (settled.automatic automatic)).2.1

/-- A sound fix is settled unless it is automatic and changes nothing. -/
theorem Sound.settled_iff (sound : fix.Sound) : fix.Settled ↔ (fix.autonomy = .automatic → fix.changes ≠ []) := by
  constructor
  · intro settled automatic
    exact (mayBeAutomatic_iff.mp (settled.automatic automatic)).2.2
  · intro changing
    refine ⟨?_, sound.tested⟩
    intro automatic
    exact mayBeAutomatic_iff.mpr ⟨sound.confident automatic, sound.reversible automatic, changing automatic⟩

omit [Scalar α] in
theorem requireTest_of_tested (tested : fix.needsTest = true → fix.checks.testRequired = true) :
    fix.requireTest = fix := by
  unfold requireTest
  split
  · rename_i needed
    rw [← tested needed]
  · rfl

theorem settle_eq_self_iff : fix.settle = fix ↔ fix.Settled := by
  constructor
  · intro same
    rw [← same]
    exact settle_settled fix
  · intro settled
    have fit : fix.downgradeUnlessFit = fix := by
      unfold downgradeUnlessFit
      rw [if_neg]
      simpa [isAutomatic] using settled.automatic
    rw [settle, fit, requireTest_of_tested settled.tested]

theorem Settled.valid_iff (settled : fix.Settled) : fix.validate = .ok () ↔ fix.Buildable := by
  rw [validate_eq_ok_iff]
  exact ⟨fun sound => sound.toBuildable, settled.sound⟩

/-- What is built is what building gives back unchanged, and that is what is accepted, except that an automatic fix
without changes is accepted and loses its autonomy when it is built. -/
theorem build_fixed_iff (fix : Fix α) :
    ((∃ draft, build draft = .ok fix) ↔ build fix = .ok fix) ∧
      (build fix = .ok fix ↔ fix.validate = .ok () ∧ (fix.autonomy = .automatic → fix.changes ≠ [])) ∧
        (fix.validate = .ok () → fix.autonomy = .automatic → fix.changes = [] →
          build fix = .ok { fix with autonomy := .semiAutomatic }) := by
  have fixed : build fix = .ok fix ↔ fix.Buildable ∧ fix.Settled := by rw [build_eq_ok_iff, settle_eq_self_iff]
  refine ⟨⟨?_, fun built => ⟨fix, built⟩⟩, ?_, ?_⟩
  · rintro ⟨draft, built⟩
    obtain ⟨buildable, rfl⟩ := build_eq_ok_iff.mp built
    exact fixed.mpr ⟨buildable.settle, settle_settled draft⟩
  · rw [fixed, validate_eq_ok_iff]
    constructor
    · rintro ⟨buildable, settled⟩
      have sound := settled.sound buildable
      exact ⟨sound, sound.settled_iff.mp settled⟩
    · rintro ⟨sound, changing⟩
      exact ⟨sound.toBuildable, sound.settled_iff.mpr changing⟩
  · intro valid automatic idle
    have sound := validate_eq_ok_iff.mp valid
    have less : fix.downgradeUnlessFit = { fix with autonomy := .semiAutomatic } := by
      simp [downgradeUnlessFit, isAutomatic, mayBeAutomatic, automatic, idle, Autonomy.downgraded]
    have tested : ({ fix with autonomy := .semiAutomatic } : Fix α).requireTest =
        { fix with autonomy := .semiAutomatic } := by
      apply requireTest_of_tested
      intro needed
      apply sound.tested
      simpa [needsTest, automatic] using needed
    rw [build_eq_ok_iff, settle, less, tested]
    exact ⟨sound.toBuildable, rfl⟩

def idle : Fix Float where
  id := "f"
  description := "fix it"
  autonomy := .automatic
  confidence := 0.9
  category := .genericError
  changes := []
  checks := ⟨[], ["buffer changed"], [], false⟩
  rollbackPossible := true

theorem build_fixed_iff_idle :
    build idle = .ok { idle with autonomy := .semiAutomatic } ∧
      build { idle with changes := [.insert 0 "x"] } = .ok { idle with changes := [.insert 0 "x"] } := by
  obtain ⟨-, -, downgraded⟩ := build_fixed_iff idle
  obtain ⟨-, fixed, -⟩ := build_fixed_iff { idle with changes := [.insert 0 "x"] }
  exact ⟨downgraded (by decide +kernel) rfl rfl, fixed.mpr ⟨by decide +kernel, by simp⟩⟩

/-- An automatic fix that changes nothing is accepted, and building it gives another fix. -/
theorem idle_accepted : idle.validate = .ok () ∧ build idle ≠ .ok idle := by
  refine ⟨by decide +kernel, ?_⟩
  intro same
  have less : (build idle).map Fix.autonomy = .ok .semiAutomatic := by decide +kernel
  rw [same] at less
  cases less

end Fix

namespace Fix

variable {fix : Fix Float}

theorem Settled.wellFormed (settled : fix.Settled) (buildable : fix.Buildable) : fix.WellFormed := by
  have sound := settled.sound buildable
  refine ⟨validate_eq_ok_iff.mpr sound, buildable.proportion, buildable.checked, ?_, ?_, ?_⟩
  · intro automatic
    obtain ⟨confident, reversible, changing⟩ := mayBeAutomatic_iff.mp (settled.automatic automatic)
    have high := (isProportion_iff.mp buildable.proportion).le_of_not_lt (isProportion_iff.mp (by decide)) confident
    exact ⟨high, reversible, changing⟩
  · intro manual
    exact settled.tested (by simp [needsTest, manual])
  · intro many
    exact settled.tested (by simp [needsTest, many])

theorem wellFormed_of_build {draft : Fix Float} (built : build draft = .ok fix) : fix.WellFormed := by
  obtain ⟨buildable, rfl⟩ := build_eq_ok_iff.mp built
  exact (settle_settled draft).wellFormed buildable.settle

theorem withConfidence_buildable_iff (described : Text.isAllBlank fix.description = false)
    (checked : fix.checks.postConditions ≠ []) (confidence : Float) :
    (fix.withConfidence confidence).Buildable ↔ confidence.isNaN = false := by
  constructor
  · intro buildable
    have proportion := buildable.proportion
    rw [withConfidence, settle_confidence] at proportion
    cases undefined : confidence.isNaN with
    | false => rfl
    | true =>
        rw [clamp_undefined undefined] at proportion
        exact undefined.symm.trans (isProportion_iff.mp proportion).not_isNaN
  · intro number
    have brought := isProportion_iff.mpr (clamp_number denotes_zero denotes_one (by norm_num) number)
    exact Buildable.settle ⟨described, brought, checked⟩

theorem WellFormed.withConfidence (formed : fix.WellFormed) {confidence : Float} (number : confidence.isNaN = false) :
    (fix.withConfidence confidence).WellFormed := by
  have sound := validate_eq_ok_iff.mp formed.valid
  exact (settle_settled _).wellFormed
    ((withConfidence_buildable_iff sound.described sound.checked confidence).mpr number)

/-- Fixes are ranked by their confidences, in the order of all values, and else stay as they were. -/
theorem ranked_descends (fixes : List (Fix Float)) :
    Descends (fun fix => floatKey fix.confidence) fixes (ranked fixes) := by
  refine descends_mergeSort (fun a b => ?_) fixes
  change (compare (floatKey b.confidence) (floatKey a.confidence) != .gt) = true ↔ _
  rw [bne_iff_ne, ← Int.compare_ne_gt]

theorem ranked_sorted {fixes : List (Fix Float)}
    (proportions : ∀ fix ∈ fixes, Scalar.isProportion fix.confidence = true) :
    (ranked fixes).Pairwise fun a b => Scalar.le b.confidence a.confidence = true := by
  refine (ranked_descends fixes).falling.imp_of_mem ?_
  intro a b first second ordered
  have among : ∀ fix ∈ ranked fixes, fix ∈ fixes := fun fix member => List.mem_mergeSort.mp member
  obtain ⟨p, denotes, -⟩ := isProportion_iff.mp (proportions a (among a first))
  obtain ⟨q, denotes', -⟩ := isProportion_iff.mp (proportions b (among b second))
  exact decide_eq_true ((denotes'.le_iff denotes).mpr (denotes'.le_of_floatKey denotes ordered))

end Fix

end Remedy
