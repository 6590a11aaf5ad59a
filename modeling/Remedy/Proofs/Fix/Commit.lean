import Remedy.Proofs.Action.Stay
import Remedy.Proofs.Files.View
import Remedy.Proofs.Fix.Condition
import Remedy.Proofs.Fix.Trail

/-! What an attempt at a fix leaves behind. Main statement: whichever steps fail, an attempt commits exactly
the edited text or leaves the file as it was, and only a failed restore says otherwise. -/

namespace Remedy

namespace Outcome

/-- The parts of an outcome agree: it is a success exactly if it ended committed and names no error, its
trail takes allowed steps from the proposal to its state, and a failure lists no changes. -/
structure IsCoherent (o : Outcome) : Prop where
  committed : o.success = true ↔ o.state = .committed
  errorless : o.success = true ↔ o.error? = none
  starts : o.trail.head? = some .proposed
  ends : o.trail.getLast? = some o.state
  legal : o.trail.IsChain fun source target => source.canReach target = true
  changeless : o.success = false → o.appliedChanges = []

variable {α : Type}

theorem committed_isCoherent (id : String) (fix : Fix α) (file : Path) {a : Attempt}
    (legal : a.IsLegal) (ended : a.current = .committed) : (committed id fix file a).IsCoherent where
  committed := by simp [committed, ended]
  errorless := by simp [committed]
  starts := legal.1
  ends := a.trail_getLast?
  legal := legal.2
  changeless failed := by simp [committed] at failed

theorem failed_isCoherent (id : String) (fix : Fix α) (file : Path) {a : Attempt} (reason : String)
    (legal : a.IsLegal) (ended : a.current = .rolledBack) :
    (failed id fix file a reason).IsCoherent where
  committed := by simp [failed, ended]
  errorless := by simp [failed]
  starts := legal.1
  ends := a.trail_getLast?
  legal := legal.2
  changeless _ := rfl

end Outcome

namespace Fix

variable {m : Type → Type} [Monad m] {σ : Type} [World m σ] {α : Type}

theorem runOn_ensureApplicable (fix : Fix α) (s : σ) :
    (fix.ensureApplicable : Action m Unit).runOn s =
      match fix.refusal? with
      | some e => (.error (.service e), s)
      | none => (.ok (), s) := by
  unfold ensureApplicable
  cases fix.refusal? with
  | some e => exact Action.runOn_fail _ s
  | none => exact ExceptT.runOn_pure () s

theorem runOn_giveUp (id : String) (d : Diagnostic) (fix : Fix α) {a : Attempt} (reason : String)
    (allowed : a.current.canReach .rolledBack = true) (s : σ) :
    (giveUp id d fix a reason : Action m Outcome).runOn s =
      (.ok (.failed id fix d.file ⟨.rolledBack, a.current :: a.earlier⟩ reason), s) := by
  simp [giveUp, Fix.advance, Attempt.advance, allowed]

theorem giveUp_isCoherent (id : String) (d : Diagnostic) (fix : Fix α) {a : Attempt} (reason : String)
    (legal : a.IsLegal) (allowed : a.current.canReach .rolledBack = true) :
    (Outcome.failed id fix d.file ⟨.rolledBack, a.current :: a.earlier⟩ reason).IsCoherent := by
  have kept := Attempt.advance_isLegal legal (Attempt.advance_eq_ok_iff.mpr ⟨allowed, rfl⟩)
  exact Outcome.failed_isCoherent id fix d.file reason kept.1 kept.2

theorem runOn_restore (editor : Editor m) (path : Path) (snapshot : Buffer) (s : σ) :
    (restore editor path snapshot).runOn s =
      (((editor.write path snapshot).runOn s).1.mapError
        fun e => .service (.rollbackFailed path e.message), ((editor.write path snapshot).runOn s).2) := by
  unfold restore
  rw [ExceptT.runOn_bind, Action.runOn_attempt, ExceptT.andThen_ok]
  cases ((editor.write path snapshot).runOn s).1 with
  | ok done => exact ExceptT.runOn_pure () _
  | error e => exact Action.runOn_fail _ _

theorem rejection?_eq_none (fix : Fix α) (d : Diagnostic) (before : Buffer) {reread : Except Failure Buffer}
    (accepted : fix.rejection? d before reread = .ok none) :
    ∃ after, reread = .ok after ∧
      ∀ phrase ∈ fix.checks.postConditions, Condition.Holds ⟨d, fix.changes, before, some after⟩ phrase := by
  cases reread with
  | error e => simp [rejection?] at accepted
  | ok after =>
      have passed : fix.failedAfter? d before after = .ok none := by
        unfold rejection? at accepted
        cases checked : fix.failedAfter? d before after with
        | error p => simp [checked, Except.map] at accepted
        | ok failed? => simpa [checked, Except.map] using accepted
      exact ⟨after, rfl, (Condition.firstFailed?_eq_none_iff _ _).mp passed⟩

/-- Only a text that was read back is checked without an answer. -/
theorem rejection?_eq_error {fix : Fix α} {d : Diagnostic} {before : Buffer} {reread : Except Failure Buffer} {p : Panic}
    (stopped : fix.rejection? d before reread = .error p) :
    ∃ after, reread = .ok after ∧ fix.failedAfter? d before after = .error p := by
  cases reread with
  | error e => cases stopped
  | ok after =>
      rw [rejection?] at stopped
      cases checked : fix.failedAfter? d before after with
      | error p' =>
          rw [checked] at stopped
          cases stopped
          exact ⟨after, rfl, checked⟩
      | ok failed? => simp [checked, Except.map] at stopped

def Edited (fix : Fix α) (files : FileView m) (d : Diagnostic) (s s' : σ) : Prop :=
  ∃ before after,
    files.content s (files.place s d.file) = some (files.encode before) ∧
    before.apply fix.changes = .ok after ∧
    files.content s' (files.place s d.file) = some (files.encode after) ∧
    (∀ phrase ∈ fix.checks.preConditions, Condition.Holds ⟨d, fix.changes, before, none⟩ phrase) ∧
    ∀ phrase ∈ fix.checks.postConditions, Condition.Holds ⟨d, fix.changes, before, some after⟩ phrase

/-- The program ended at an offset into texts longer than any that memory holds. -/
def Overflown (fix : Fix α) (files : FileView m) (d : Diagnostic) (s : σ) (e : Failure) : Prop :=
  ∃ p before after, e = .panicked p ∧
    files.content s (files.place s d.file) = some (files.encode before) ∧
    before.apply fix.changes = .ok after ∧ (2 ^ 63 ≤ before.length ∨ 2 ^ 63 ≤ after.length)

/-- What an attempt that began in one world says of the world it left. -/
structure Accounted (fix : Fix α) (files : FileView m) (d : Diagnostic) (s : σ)
    (done : Except Failure Outcome × σ) : Prop where
  elsewhere : ∀ k, k ≠ files.place s d.file → files.content done.2 k = files.content s k
  coherent : ∀ o, done.1 = .ok o → o.IsCoherent
  edited : ∀ o, done.1 = .ok o → o.success = true → fix.Edited files d s done.2
  untouched : ∀ o, done.1 = .ok o → o.success = false →
    files.content done.2 (files.place s d.file) = files.content s (files.place s d.file)
  failed : ∀ e, done.1 = .error e →
    files.content done.2 (files.place s d.file) = files.content s (files.place s d.file) ∨
      (∃ reason, e = .service (.rollbackFailed d.file reason)) ∨ fix.Overflown files d s e

namespace Accounted

variable {fix : Fix α} {files : FileView m} {d : Diagnostic} {s : σ}

theorem of_error {s' : σ} (e : Failure) (same : files.content s' = files.content s) :
    fix.Accounted files d s (.error e, s') where
  elsewhere k _ := congrFun same k
  coherent o ended := by simp at ended
  edited o ended := by simp at ended
  untouched o ended := by simp at ended
  failed _ _ := .inl (congrFun same _)

theorem of_giveUp {s' : σ} (id : String) {a : Attempt} (reason : String) (legal : a.IsLegal)
    (allowed : a.current.canReach .rolledBack = true) (same : files.content s' = files.content s) :
    fix.Accounted files d s ((giveUp id d fix a reason : Action m Outcome).runOn s') := by
  rw [runOn_giveUp id d fix reason allowed]
  have coherent := giveUp_isCoherent id d fix reason legal allowed
  refine ⟨fun k _ => congrFun same k, ?_, ?_, ?_, ?_⟩
  · intro o ended
    cases ended
    exact coherent
  · intro o ended success
    cases ended
    simp [Outcome.failed] at success
  · intro o _ _
    exact congrFun same _
  · intro e ended
    simp at ended

/-- Putting the old text back before giving up undoes whatever was written to the file, unless the error
says that it could not be put back. -/
theorem of_restore {s' : σ} (id : String) {a : Attempt} (reason : String) {before : Buffer}
    (legal : a.IsLegal) (allowed : a.current.canReach .rolledBack = true)
    (place : files.place s' = files.place s)
    (shown : files.content s (files.place s d.file) = some (files.encode before))
    (elsewhere : ∀ k, k ≠ files.place s d.file → files.content s' k = files.content s k) :
    fix.Accounted files d s
      ((do
        restore files.editor d.file before
        giveUp id d fix a reason : Action m Outcome).runOn s') := by
  rw [ExceptT.runOn_bind, runOn_restore]
  have kept : ∀ k, k ≠ files.place s d.file →
      files.content ((files.editor.write d.file before).runOn s').2 k = files.content s k := by
    intro k other
    rw [files.write_elsewhere d.file before s' k (by rw [place]; exact other)]
    exact elsewhere k other
  cases written : ((files.editor.write d.file before).runOn s').1 with
  | ok done =>
      have put := files.write_puts d.file before s' written
      rw [place] at put
      refine of_giveUp id reason legal allowed ?_
      funext k
      by_cases here : k = files.place s d.file
      · rw [here, put, shown]
      · exact kept k here
  | error e =>
      refine ⟨kept, ?_, ?_, ?_, ?_⟩
      · intro o ended
        simp at ended
      · intro o ended
        simp at ended
      · intro o ended
        simp at ended
      · intro failure ended
        simp only [Except.mapError_error, ExceptT.andThen_error, Except.error.injEq] at ended
        exact .inr (.inl ⟨e.message, ended.symm⟩)

theorem of_committed {s' : σ} (id : String) {a : Attempt} (legal : a.IsLegal) (ended : a.current = .committed)
    (elsewhere : ∀ k, k ≠ files.place s d.file → files.content s' k = files.content s k)
    (edited : fix.Edited files d s s') : fix.Accounted files d s (.ok (.committed id fix d.file a), s') where
  elsewhere := elsewhere
  coherent o done := by
    cases done
    exact Outcome.committed_isCoherent id fix d.file legal ended
  edited _ _ _ := edited
  untouched o done failed := by
    cases done
    simp [Outcome.committed] at failed
  failed e done := by simp at done

theorem of_overflown {s' : σ} {e : Failure}
    (elsewhere : ∀ k, k ≠ files.place s d.file → files.content s' k = files.content s k)
    (overflown : fix.Overflown files d s e) : fix.Accounted files d s (.error e, s') where
  elsewhere := elsewhere
  coherent o ended := by simp at ended
  edited o ended := by simp at ended
  untouched o ended := by simp at ended
  failed e' ended := by
    cases ended
    exact .inr (.inr overflown)

end Accounted

theorem writeAndCheck_accounted (fix : Fix α) (files : FileView m) (id : String) (d : Diagnostic)
    {before after : Buffer} {a : Attempt} {s s' : σ} (legal : a.IsLegal)
    (checked : a.current = .preconditionChecked) (place : files.place s' = files.place s)
    (same : files.content s' = files.content s)
    (shown : files.content s (files.place s d.file) = some (files.encode before))
    (held : ∀ phrase ∈ fix.checks.preConditions, Condition.Holds ⟨d, fix.changes, before, none⟩ phrase)
    (applied : before.apply fix.changes = .ok after) :
    fix.Accounted files d s ((writeAndCheck files.editor id d fix before after a).runOn s') := by
  unfold writeAndCheck
  rw [ExceptT.runOn_bind, Action.runOn_attempt, ExceptT.andThen_ok]
  have placeWritten := files.place_write d.file after s'
  rw [place] at placeWritten
  have kept : ∀ k, k ≠ files.place s d.file →
      files.content ((files.editor.write d.file after).runOn s').2 k = files.content s k := by
    intro k other
    rw [files.write_elsewhere d.file after s' k (by rw [place]; exact other), same]
  cases written : ((files.editor.write d.file after).runOn s').1 with
  | error e =>
      exact Accounted.of_restore id e.message legal (by rw [checked]; rfl) placeWritten shown kept
  | ok done =>
      have put := files.write_puts d.file after s' written
      rw [place] at put
      obtain ⟨b, advanced, legalApplied, atApplied⟩ := Attempt.advance_legal .applied legal
        (by rw [checked]; rfl)
      simp only [ExceptT.runOn_bind, Fix.advance, advanced, Action.runOn_ofDomain_ok, ExceptT.andThen_ok,
        Action.runOn_attempt, Action.runOn_ofChecked]
      have placeRead := files.place_read d.file ((files.editor.write d.file after).runOn s').2
      have sameRead := files.content_read d.file ((files.editor.write d.file after).runOn s').2
      have keptRead : ∀ k, k ≠ files.place s d.file → files.content ((files.editor.read d.file).runOn
          ((files.editor.write d.file after).runOn s').2).2 k = files.content s k := by
        intro k other
        rw [sameRead]
        exact kept k other
      have whole : ∀ current, ((files.editor.read d.file).runOn
          ((files.editor.write d.file after).runOn s').2).1 = .ok current → after = current := by
        intro current reread
        have shownAgain := files.read_shows _ _ _ reread
        rw [placeWritten, put, Option.some.injEq] at shownAgain
        exact files.encode_injective _ _ shownAgain
      rcases verdict : fix.rejection? d before
          ((files.editor.read d.file).runOn ((files.editor.write d.file after).runOn s').2).1 with p | _ | reason
      · obtain ⟨current, reread, stopped⟩ := rejection?_eq_error verdict
        cases whole current reread
        exact Accounted.of_overflown keptRead
          ⟨p, before, after, rfl, shown, applied, Condition.long_of_panic applied stopped⟩
      · obtain ⟨current, reread, satisfied⟩ := rejection?_eq_none fix d before verdict
        cases whole current reread
        obtain ⟨c, validated, legalValidated, atValidated⟩ := Attempt.advance_legal .postconditionValidated
          legalApplied (by rw [atApplied]; rfl)
        obtain ⟨last, ended, legalEnded, atEnd⟩ := Attempt.advance_legal .committed legalValidated
          (by rw [atValidated]; rfl)
        simp only [ExceptT.runOn_bind, Except.mapError_ok, validated, ended, Action.runOn_ofDomain_ok,
          ExceptT.andThen_ok, ExceptT.runOn_pure]
        have now : files.content ((files.editor.read d.file).runOn
            ((files.editor.write d.file after).runOn s').2).2 (files.place s d.file) = some (files.encode after) := by
          rw [sameRead, put]
        exact Accounted.of_committed id legalEnded atEnd keptRead ⟨before, after, shown, applied, now, held, satisfied⟩
      · exact Accounted.of_restore id reason legalApplied (by rw [atApplied]; rfl) (placeRead.trans placeWritten) shown
          keptRead

/-- Every attempt is accounted for, whichever steps of the editor fail: a success has put exactly the edited
text in place, anything else has left the file as it was, or says that it could not be put back. -/
theorem apply_accounted [Scalar α] (fix : Fix α) (files : FileView m) (id : String) (d : Diagnostic) (s : σ) :
    fix.Accounted files d s ((fix.apply files.editor id d).runOn s) := by
  unfold apply
  rw [ExceptT.runOn_bind, runOn_ensureApplicable]
  cases fix.refusal? with
  | some e => exact Accounted.of_error _ rfl
  | none =>
      rw [ExceptT.andThen_ok, ExceptT.runOn_bind]
      cases fix.validate with
      | error e =>
          rw [Action.runOn_ofDomain_error]
          exact Accounted.of_error _ rfl
      | ok valid =>
          rw [Action.runOn_ofDomain_ok, ExceptT.andThen_ok, ExceptT.runOn_bind]
          have place := files.place_read d.file s
          have same := files.content_read d.file s
          rcases ran : (files.editor.read d.file).runOn s with ⟨result, s'⟩
          rw [ran] at place same
          cases result with
          | error e => exact Accounted.of_error _ same
          | ok before =>
              have shown := files.read_shows d.file s before (by rw [ran])
              obtain ⟨a, advanced, legal, current⟩ := Attempt.advance_legal .preconditionChecked
                Attempt.new_isLegal rfl
              rw [ExceptT.andThen_ok, ExceptT.runOn_bind, Fix.advance, advanced, Action.runOn_ofDomain_ok,
                ExceptT.andThen_ok, ExceptT.runOn_bind, Action.runOn_ofChecked]
              rcases checked : fix.failedBefore? d before with p | _ | failed
              · exact Accounted.of_error _ same
              · have held := (Condition.firstFailed?_eq_none_iff _ _).mp checked
                rw [Except.mapError_ok, ExceptT.andThen_ok]
                rcases applied : before.apply fix.changes with (e | p) | after
                · exact Accounted.of_giveUp id _ legal (by rw [current]; rfl) same
                · dsimp only
                  rw [Action.runOn_fail]
                  exact Accounted.of_error _ same
                · exact writeAndCheck_accounted fix files id d legal current place same shown held applied
              · exact Accounted.of_giveUp id _ legal (by rw [current]; rfl) same

section Staying

open ExceptT (Stays)

variable {R : σ → σ → Prop} [IsPreorder σ R] {editor : Editor m}

theorem giveUp_stays (id : String) (d : Diagnostic) (fix : Fix α) (a : Attempt) (reason : String) :
    Stays R (giveUp id d fix a reason : Action m Outcome) := by
  refine (Action.stays_ofDomain _).bind ?_
  intro ended
  exact ExceptT.stays_pure _

theorem restore_stays {path : Path} (writes : ∀ text, Stays R (editor.write path text)) (snapshot : Buffer) :
    Stays R (restore editor path snapshot) := by
  refine (Action.stays_attempt (writes snapshot)).bind ?_
  intro result
  cases result with
  | ok done => exact ExceptT.stays_pure _
  | error e => exact ExceptT.stays_throw _

theorem writeAndCheck_stays {d : Diagnostic} (reads : Stays R (editor.read d.file))
    (writes : ∀ text, Stays R (editor.write d.file text)) (id : String) (fix : Fix α)
    (before after : Buffer) (a : Attempt) : Stays R (writeAndCheck editor id d fix before after a) := by
  refine (Action.stays_attempt (writes after)).bind ?_
  intro written
  cases written with
  | error e =>
      refine (restore_stays writes before).bind ?_
      intro restored
      exact giveUp_stays id d fix a _
  | ok done =>
      refine (Action.stays_ofDomain _).bind ?_
      intro applied
      refine (Action.stays_attempt reads).bind ?_
      intro reread
      refine (Action.stays_ofChecked _).bind ?_
      intro reason?
      split
      · refine (Action.stays_ofDomain _).bind ?_
        intro validated
        refine (Action.stays_ofDomain _).bind ?_
        intro ended
        exact ExceptT.stays_pure _
      · refine (restore_stays writes before).bind ?_
        intro restored
        exact giveUp_stays id d fix applied _

theorem apply_stays [Scalar α] {d : Diagnostic} (reads : Stays R (editor.read d.file))
    (writes : ∀ text, Stays R (editor.write d.file text)) (id : String) (fix : Fix α) :
    Stays R (fix.apply editor id d) := by
  have checked : Stays R (fix.ensureApplicable : Action m Unit) := by
    unfold ensureApplicable
    split
    · exact ExceptT.stays_throw _
    · exact ExceptT.stays_pure _
  refine checked.bind ?_
  intro applicable
  refine (Action.stays_ofDomain _).bind ?_
  intro valid
  refine reads.bind ?_
  intro before
  refine (Action.stays_ofDomain _).bind ?_
  intro a
  refine (Action.stays_ofChecked _).bind ?_
  intro failed?
  split
  · exact giveUp_stays id d fix a _
  · split
    · exact ExceptT.stays_throw _
    · exact giveUp_stays id d fix a _
    · exact writeAndCheck_stays reads writes id fix before _ a

theorem apply_named [Scalar α] (fix : Fix α) (files : FileView m) (id : String) (d : Diagnostic) (s : σ) :
    files.place ((fix.apply files.editor id d).runOn s).2 = files.place s := by
  have named : IsPreorder σ fun s t => files.place t = files.place s :=
    { refl := fun _ => rfl, trans := fun _ _ _ first second => second.trans first }
  exact apply_stays (R := fun s t => files.place t = files.place s) (files.place_read d.file)
    (files.place_write d.file) id fix s

end Staying

end Fix

end Remedy
