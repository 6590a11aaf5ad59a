import Remedy.Diagnostic.Classify

/-! Categories are resolved once. Main statements: a diagnostic whose category is resolved keeps it when it is resolved
again, and it stays valid. -/

namespace Remedy.Diagnostic

variable {d : Diagnostic}

theorem normalize_eq (d : Diagnostic) : ∃ c, d.normalize = { d with category := c } := ⟨d.classify, rfl⟩

theorem classify_eq (d : Diagnostic) :
    d.classify = d.apparentCategory ∧ (d.apparentCategory = .unusedCode → d.severity = .warning) ∨
      d.classify = .strictModeError ∧ d.apparentCategory = .unusedCode ∧ d.severity ≠ .warning := by
  unfold classify
  dsimp only
  by_cases strict : d.apparentCategory = .unusedCode ∧ d.severity ≠ .warning
  · rw [if_pos strict]
    exact .inr ⟨rfl, strict⟩
  · rw [if_neg strict]
    exact .inl ⟨rfl, fun unused => Decidable.byContradiction fun other => strict ⟨unused, other⟩⟩

theorem warning_of_classify (unused : d.classify = .unusedCode) : d.severity = .warning := by
  rcases classify_eq d with ⟨same, warns⟩ | ⟨strict, -⟩
  · exact warns (same.symm.trans unused)
  · rw [strict] at unused
    cases unused

theorem classify_of_apparent (warns : d.apparentCategory = .unusedCode → d.severity = .warning) :
    d.classify = d.apparentCategory := by
  rcases classify_eq d with ⟨same, -⟩ | ⟨-, unused, other⟩
  · exact same
  · exact (other (warns unused)).elim

theorem apparentCategory_of_unlisted (unlisted : Catalog.code? d.code = none) (known : d.category.isGeneric = false) :
    d.apparentCategory = d.category := by
  unfold apparentCategory
  rw [unlisted]
  simp [known]

theorem apparentCategory_normalize (d : Diagnostic) :
    d.normalize.apparentCategory = d.apparentCategory ∨ d.normalize.apparentCategory = d.classify := by
  cases listed : Catalog.code? d.code with
  | some entry =>
      left
      have found : Catalog.code? d.normalize.code = some entry := listed
      unfold apparentCategory
      rw [found, listed]
  | none =>
      cases generic : d.classify.isGeneric with
      | false => exact .inr (apparentCategory_of_unlisted (d := d.normalize) listed generic)
      | true =>
          left
          have resolved : d.classify = .genericError := of_decide_eq_true generic
          have apparent : d.apparentCategory = .genericError := by
            rcases classify_eq d with ⟨same, -⟩ | ⟨strict, -⟩
            · exact same.symm.trans resolved
            · rw [strict] at resolved
              cases resolved
          have before : d.category = .genericError := by
            cases known : d.category.isGeneric with
            | true => exact of_decide_eq_true known
            | false => exact (apparentCategory_of_unlisted listed known).symm.trans apparent
          have same : d.normalize = d := by
            unfold normalize
            rw [resolved, ← before]
          rw [same]

theorem classify_normalize (d : Diagnostic) : d.normalize.classify = d.classify := by
  rcases apparentCategory_normalize d with same | resolved
  · unfold classify
    dsimp only
    rw [same]
    rfl
  · have warns : d.normalize.apparentCategory = .unusedCode → d.severity = .warning :=
      fun unused => warning_of_classify (resolved.symm.trans unused)
    exact (classify_of_apparent warns).trans resolved

/-- A category that is resolved is resolved for good. -/
theorem normalize_normalize (d : Diagnostic) : d.normalize.normalize = d.normalize := by
  have same := classify_normalize d
  unfold normalize at same ⊢
  rw [same]

theorem flaw?_normalize (sound : d.flaw? = none) : d.normalize.flaw? = none := by
  unfold flaw? at sound ⊢
  have warns : ¬(d.normalize.category = .unusedCode ∧ d.normalize.severity ≠ .warning) :=
    fun both => both.2 (warning_of_classify (d := d) both.1)
  rw [if_neg warns]
  unfold normalize
  dsimp only
  split at sound
  · cases sound
  split at sound
  · cases sound
  split at sound
  · cases sound
  split at sound
  · cases sound
  rename_i file line column message
  rw [if_neg file, if_neg line, if_neg column, if_neg message]

theorem validate_eq_ok_iff : d.validate = .ok () ↔ d.flaw? = none := by
  unfold validate
  cases d.flaw? <;> simp

theorem validate_normalize (valid : d.validate = .ok ()) : d.normalize.validate = .ok () :=
  validate_eq_ok_iff.mpr (flaw?_normalize (validate_eq_ok_iff.mp valid))

end Remedy.Diagnostic
