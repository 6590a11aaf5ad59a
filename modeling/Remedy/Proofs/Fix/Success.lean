import Remedy.Proofs.Fix.Commit

/-! When an attempt at a fix succeeds. Main statement: with an editor that works, a fix whose conditions hold of the
text before and of the text its changes make of it is committed. -/

namespace Remedy.Fix

variable {m : Type → Type} [Monad m] {σ : Type} [World m σ] {α : Type} {files : FileView m} {Ready : σ → Prop}
  {fix : Fix α} {d : Diagnostic} {before after : Buffer} {s : σ}

def checked : Attempt := ⟨.preconditionChecked, [.proposed]⟩

def givenUp : Attempt := ⟨.rolledBack, [.preconditionChecked, .proposed]⟩

def done : Attempt := ⟨.committed, [.postconditionValidated, .applied, .preconditionChecked, .proposed]⟩

theorem rejection?_of_held
    (held : ∀ phrase ∈ fix.checks.postConditions, Condition.Holds ⟨d, fix.changes, before, some after⟩ phrase) :
    fix.rejection? d before (.ok after) = .ok none := by
  rw [rejection?, failedAfter?, (Condition.firstFailed?_eq_none_iff _ _).mpr held]
  rfl

theorem writeAndCheck_commits (works : files.Works Ready) (ready : Ready s)
    (there : (files.content s (files.place s d.file)).isSome = true) (id : String)
    (held : ∀ phrase ∈ fix.checks.postConditions, Condition.Holds ⟨d, fix.changes, before, some after⟩ phrase) :
    ∃ s', (writeAndCheck files.editor id d fix before after checked).runOn s =
        (.ok (.committed id fix d.file done), s') ∧
      files.content s' (files.place s d.file) = some (files.encode after) := by
  rcases wrote : (files.editor.write d.file after).runOn s with ⟨written, t⟩
  have succeeded := works.write d.file after s ready there
  have ready' := works.write_ready d.file after s ready
  have put := files.write_puts d.file after s succeeded
  have place := files.place_write d.file after s
  rw [wrote] at succeeded ready' put place
  subst succeeded
  rcases looked : (files.editor.read d.file).runOn t with ⟨reread, t'⟩
  have again := works.read d.file t after ready' (by rw [place, put])
  have same := files.content_read d.file t
  rw [looked] at again same
  subst again
  refine ⟨t', ?_, by rw [same, put]⟩
  have applied : checked.advance .applied = .ok ⟨.applied, [.preconditionChecked, .proposed]⟩ := rfl
  have validated : Attempt.advance ⟨.applied, [.preconditionChecked, .proposed]⟩ .postconditionValidated =
      .ok ⟨.postconditionValidated, [.applied, .preconditionChecked, .proposed]⟩ := rfl
  have ended : Attempt.advance ⟨.postconditionValidated, [.applied, .preconditionChecked, .proposed]⟩ .committed =
      .ok done := rfl
  unfold writeAndCheck
  simp only [ExceptT.runOn_bind, Action.runOn_attempt, wrote, ExceptT.andThen_ok, Fix.advance, applied,
    Action.runOn_ofDomain_ok, looked, Action.runOn_ofChecked, rejection?_of_held held, Except.mapError_ok, validated, ended, ExceptT.runOn_pure]

theorem runOn_apply [Scalar α] (fix : Fix α) (editor : Editor m) (id : String) (d : Diagnostic) (s : σ) :
    (fix.apply editor id d).runOn s =
      match fix.refusal?, fix.validate with
      | some e, _ => (.error (.service e), s)
      | none, .error e => (.error (.domain e), s)
      | none, .ok () =>
        match (editor.read d.file).runOn s with
        | (.error e, t) => (.error e, t)
        | (.ok before, t) =>
          match fix.failedBefore? d before, before.apply fix.changes with
          | .error p, _ => (.error (.panicked p), t)
          | .ok (some failed), _ => (.ok (.failed id fix d.file givenUp failed.text), t)
          | .ok none, .error (.panic p) => (.error (.panicked p), t)
          | .ok none, .error (.domain e) => (.ok (.failed id fix d.file givenUp e.message), t)
          | .ok none, .ok after => (writeAndCheck editor id d fix before after checked).runOn t := by
  have opened : Attempt.new.advance .preconditionChecked = .ok checked := rfl
  unfold apply
  rw [ExceptT.runOn_bind, runOn_ensureApplicable]
  cases fix.refusal? with
  | some e => rfl
  | none =>
      rw [ExceptT.andThen_ok, ExceptT.runOn_bind]
      cases fix.validate with
      | error e =>
          rw [Action.runOn_ofDomain_error]
          rfl
      | ok sound =>
          rw [Action.runOn_ofDomain_ok, ExceptT.andThen_ok, ExceptT.runOn_bind]
          rcases (editor.read d.file).runOn s with ⟨result, t⟩
          cases result with
          | error e => rfl
          | ok before =>
              rw [ExceptT.andThen_ok, ExceptT.runOn_bind, Fix.advance, opened, Action.runOn_ofDomain_ok,
                ExceptT.andThen_ok, ExceptT.runOn_bind, Action.runOn_ofChecked]
              dsimp only
              rcases fix.failedBefore? d before with p | _ | failed
              · rfl
              · rw [Except.mapError_ok, ExceptT.andThen_ok]
                rcases before.apply fix.changes with (e | p) | after
                · exact runOn_giveUp id d fix e.message rfl t
                · exact Action.runOn_fail _ t
                · rfl
              · exact runOn_giveUp id d fix failed.text rfl t

/-- A fix that may be applied, whose changes can be made and whose conditions hold, is committed. -/
theorem apply_commits [Scalar α] (works : files.Works Ready) (ready : Ready s)
    (there : files.content s (files.place s d.file) = some (files.encode before)) (id : String)
    (allowed : fix.refusal? = none) (valid : fix.validate = .ok ())
    (held : ∀ phrase ∈ fix.checks.preConditions, Condition.Holds ⟨d, fix.changes, before, none⟩ phrase)
    (made : before.apply fix.changes = .ok after)
    (held' : ∀ phrase ∈ fix.checks.postConditions, Condition.Holds ⟨d, fix.changes, before, some after⟩ phrase) :
    ∃ s', (fix.apply files.editor id d).runOn s = (.ok (.committed id fix d.file done), s') ∧
      files.content s' (files.place s d.file) = some (files.encode after) := by
  rcases looked : (files.editor.read d.file).runOn s with ⟨read, t⟩
  have shown := works.read d.file s before ready there
  have ready' := works.read_ready d.file s ready
  have place := files.place_read d.file s
  have same := files.content_read d.file s
  rw [looked] at shown ready' place same
  subst shown
  obtain ⟨s', ran, put⟩ := writeAndCheck_commits works ready' (by rw [same, place, there]; rfl) id held'
  rw [place] at put
  refine ⟨s', ?_, put⟩
  have nothing : fix.failedBefore? d before = .ok none := (Condition.firstFailed?_eq_none_iff _ _).mpr held
  simp only [runOn_apply, allowed, valid, looked, nothing, made, ran]

theorem apply_ready [Scalar α] (works : files.Works Ready) (fix : Fix α) (id : String) (d : Diagnostic) (ready : Ready s) :
    Ready ((fix.apply files.editor id d).runOn s).2 := by
  have kept : IsPreorder σ fun s t => Ready s → Ready t :=
    { refl := fun _ ready => ready, trans := fun _ _ _ first second ready => second (first ready) }
  exact apply_stays (R := fun s t => Ready s → Ready t) (works.read_ready d.file)
    (works.write_ready d.file) id fix s ready

end Remedy.Fix
