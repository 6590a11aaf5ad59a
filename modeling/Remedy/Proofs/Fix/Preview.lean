import Remedy.Proofs.Fix.Success

/-! How far an attempt at a fix gets, and what a preview in the same state says of it. Main statements: what an attempt
commits is the text that was shown, and where there is nothing to show an attempt changes nothing; with a working editor,
an attempt commits exactly if a text is shown, the fix is sound and its post-conditions hold of that text. -/

namespace Remedy

variable {m : Type → Type} [Monad m] {σ : Type} [World m σ] {α : Type}

namespace Fix

/-- What a fix makes of a text that was read: the text to write, or why there is none. -/
def made (fix : Fix α) (d : Diagnostic) (before : Buffer) : Except Failure Buffer :=
  match fix.failedBefore? d before with
  | .error p => .error (.panicked p)
  | .ok (some failed) => .error (.service (.validationFailed failed.text))
  | .ok none => (before.apply fix.changes).mapError EditError.failure

theorem made_eq_ok {fix : Fix α} {d : Diagnostic} {before after : Buffer} :
    fix.made d before = .ok after ↔
      (∀ phrase ∈ fix.checks.preConditions, Condition.Holds ⟨d, fix.changes, before, none⟩ phrase) ∧
        before.apply fix.changes = .ok after := by
  rw [← Condition.firstFailed?_eq_none_iff]
  change _ ↔ fix.failedBefore? d before = .ok none ∧ _
  unfold made
  rcases fix.failedBefore? d before with p | _ | failed
  · simp
  · cases before.apply fix.changes <;> simp
  · simp

theorem runOn_preview (editor : Editor m) (d : Diagnostic) (fix : Fix α) (s : σ) :
    (fix.preview editor d).runOn s =
      match fix.refusal? with
      | some e => (.error (.service e), s)
      | none => (((editor.read d.file).runOn s).1.bind (fix.made d), ((editor.read d.file).runOn s).2) := by
  unfold preview
  rw [ExceptT.runOn_bind, runOn_ensureApplicable]
  cases fix.refusal? with
  | some e => rfl
  | none =>
      rw [ExceptT.andThen_ok, ExceptT.runOn_bind]
      rcases (editor.read d.file).runOn s with ⟨read, t⟩
      cases read with
      | error e => rfl
      | ok before =>
          simp only [ExceptT.andThen_ok, Except.bind, made, ExceptT.runOn_bind, Action.runOn_ofChecked]
          rcases fix.failedBefore? d before with p | _ | failed
          · rfl
          · exact Action.runOn_ofExcept _ t
          · exact Action.runOn_fail _ t

theorem preview_eq_ok {editor : Editor m} {d : Diagnostic} {fix : Fix α} {s : σ} {after : Buffer} :
    ((fix.preview editor d).runOn s).1 = .ok after ↔ fix.refusal? = none ∧
      ∃ before, ((editor.read d.file).runOn s).1 = .ok before ∧ fix.made d before = .ok after := by
  rw [runOn_preview]
  cases fix.refusal? with
  | some e => simp
  | none => simp [Except.bind_eq_ok]

theorem preview_stays {R : σ → σ → Prop} [IsPreorder σ R] {editor : Editor m} {d : Diagnostic}
    (reads : ExceptT.Stays R (editor.read d.file)) (fix : Fix α) : ExceptT.Stays R (fix.preview editor d) := by
  intro s
  rw [runOn_preview]
  cases fix.refusal? with
  | some e => exact Std.Refl.refl s
  | none => exact reads s

variable [Scalar α]

/-- How far an attempt gets: it is refused, the file is not read, there is no text to write, the program ends, or the
text that was made is written and checked. -/
inductive Stages (fix : Fix α) (editor : Editor m) (id : String) (d : Diagnostic) (s : σ) :
    Except Failure Outcome × σ → Prop
  | refused (e : Failure) : Stages fix editor id d s (.error e, s)
  | unread {e : Failure} {t : σ} (read : (editor.read d.file).runOn s = (.error e, t)) :
      Stages fix editor id d s (.error e, t)
  | unmade {before : Buffer} {t : σ} {e : Failure} (reason : String) (allowed : fix.refusal? = none)
      (read : (editor.read d.file).runOn s = (.ok before, t)) (made : fix.made d before = .error e) :
      Stages fix editor id d s
        (.ok (.failed id fix d.file givenUp reason), t)
  | panicked {before : Buffer} {t : σ} {p : Panic} (read : (editor.read d.file).runOn s = (.ok before, t))
      (made : fix.made d before = .error (.panicked p)) : Stages fix editor id d s (.error (.panicked p), t)
  | written {before after : Buffer} {t : σ} (allowed : fix.refusal? = none) (valid : fix.validate = .ok ())
      (read : (editor.read d.file).runOn s = (.ok before, t)) (made : fix.made d before = .ok after) :
      Stages fix editor id d s ((writeAndCheck editor id d fix before after checked).runOn t)

theorem apply_stages (fix : Fix α) (editor : Editor m) (id : String) (d : Diagnostic) (s : σ) :
    fix.Stages editor id d s ((fix.apply editor id d).runOn s) := by
  rw [runOn_apply]
  cases allowed : fix.refusal? with
  | some e => exact .refused _
  | none =>
      cases valid : fix.validate with
      | error e => exact .refused _
      | ok sound =>
          rcases read : (editor.read d.file).runOn s with ⟨result, t⟩
          cases result with
          | error e => exact .unread read
          | ok before =>
              dsimp only
              rcases failed? : fix.failedBefore? d before with p | _ | failed
              · exact .panicked read (by rw [made, failed?])
              · rcases edited : before.apply fix.changes with (e | p) | after
                · exact .unmade e.message allowed read (by simp only [made, failed?, edited]; rfl)
                · exact .panicked read (by simp only [made, failed?, edited]; rfl)
                · exact .written allowed valid read (by simp only [made, failed?, edited]; rfl)
              · exact .unmade failed.text allowed read (by rw [made, failed?])

/-- What an attempt has committed, a preview would have shown. -/
theorem preview_of_commit {fix : Fix α} {d : Diagnostic} {files : FileView m} {id : String} {s : σ} {o : Outcome}
    (ok : ((fix.apply files.editor id d).runOn s).1 = .ok o) (committed : o.state = .committed) :
    ∃ before after, fix.validate = .ok () ∧ ((files.editor.read d.file).runOn s).1 = .ok before ∧
      ((fix.preview files.editor d).runOn s).1 = .ok after ∧
      files.content ((fix.apply files.editor id d).runOn s).2 (files.place s d.file) = some (files.encode after) ∧
      ∀ phrase ∈ fix.checks.postConditions, Condition.Holds ⟨d, fix.changes, before, some after⟩ phrase := by
  have stages := apply_stages fix files.editor id d s
  have accounted := apply_accounted fix files id d s
  generalize (fix.apply files.editor id d).runOn s = ended at ok stages accounted ⊢
  cases stages with
  | refused e => cases ok
  | unread read => cases ok
  | unmade reason allowed read made =>
      cases ok
      cases committed
  | panicked read made => cases ok
  | @written before after t allowed valid read made =>
      have success := (accounted.coherent o ok).committed.mpr committed
      obtain ⟨before', after', there, applied, put, -, held⟩ := accounted.edited o ok success
      have shown := files.read_shows d.file s before (by rw [read])
      rw [there, Option.some.injEq] at shown
      cases files.encode_injective _ _ shown
      cases applied.symm.trans (made_eq_ok.mp made).2
      have shown := preview_eq_ok.mpr ⟨allowed, before, by rw [read], made⟩
      exact ⟨before, after, valid, by rw [read], shown, put, held⟩

/-- Where there is no text to show, an attempt is given up or fails before anything is written. -/
theorem apply_of_unshown {fix : Fix α} {d : Diagnostic} (files : FileView m) (id : String) {s : σ} {e : Failure}
    (unshown : ((fix.preview files.editor d).runOn s).1 = .error e) :
    (∀ o, ((fix.apply files.editor id d).runOn s).1 = .ok o → o.state = .rolledBack ∧ o.success = false) ∧
      files.Same s ((fix.apply files.editor id d).runOn s).2 := by
  have stages := apply_stages fix files.editor id d s
  have same := files.read_stays d.file s
  rw [runOn_preview] at unshown
  generalize (fix.apply files.editor id d).runOn s = ended at stages ⊢
  cases stages with
  | refused e' => exact ⟨by simp, rfl, rfl⟩
  | unread read =>
      rw [read] at same
      exact ⟨by simp, same⟩
  | unmade reason allowed read made =>
      rw [read] at same
      refine ⟨?_, same⟩
      intro o ok
      cases ok
      exact ⟨rfl, rfl⟩
  | panicked read made =>
      rw [read] at same
      exact ⟨by simp, same⟩
  | written allowed valid read made => simp [allowed, read, Except.bind, made] at unshown

/-- With an editor that works, an attempt is committed exactly if the fix is sound, a text is shown before, and the
post-conditions hold of the text that was read and the text that was shown. -/
theorem commits_iff_preview {files : FileView m} {Ready : σ → Prop} (works : files.Works Ready) {s : σ}
    (ready : Ready s) (id : String) {fix : Fix α} {d : Diagnostic} {before : Buffer}
    (there : files.content s (files.place s d.file) = some (files.encode before)) :
    (∃ o, ((fix.apply files.editor id d).runOn s).1 = .ok o ∧ o.state = .committed) ↔
      fix.validate = .ok () ∧ ∃ after, ((fix.preview files.editor d).runOn s).1 = .ok after ∧
        ∀ phrase ∈ fix.checks.postConditions, Condition.Holds ⟨d, fix.changes, before, some after⟩ phrase := by
  have read := works.read d.file s before ready there
  constructor
  · rintro ⟨o, ok, committed⟩
    obtain ⟨before', after, valid, read', shown, -, held⟩ := preview_of_commit ok committed
    cases read.symm.trans read'
    exact ⟨valid, after, shown, held⟩
  · rintro ⟨valid, after, shown, held⟩
    obtain ⟨allowed, before', read', made⟩ := preview_eq_ok.mp shown
    cases read.symm.trans read'
    obtain ⟨pre, made⟩ := made_eq_ok.mp made
    obtain ⟨s', ran, -⟩ := apply_commits works ready there id allowed valid pre made held
    exact ⟨_, by rw [ran], rfl⟩

end Fix

end Remedy
