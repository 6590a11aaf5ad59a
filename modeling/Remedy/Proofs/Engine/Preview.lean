import Remedy.Engine
import Remedy.Proofs.Fix.Preview
import Remedy.Proofs.Suggest.Automatic

/-! What a preview by the engine says of an attempt in the same state. Main statement: what an attempt commits is the text
that was shown, and where there is nothing to show an attempt changes nothing, whichever steps of the editor fail. -/

namespace Remedy

variable {m : Type → Type} [Monad m] {σ : Type} [World m σ] {α : Type}

namespace Engine

/-- What a preview says of an attempt that starts in the same state. -/
structure Foretold (files : FileView m) (d : Diagnostic) (s : σ) (shown : Except Failure String × σ)
    (ended : Except Failure Outcome × σ) : Prop where
  /-- What is committed is the text that was shown. -/
  committed : ∀ o, ended.1 = .ok o → o.state = .committed → ∃ after : Buffer, shown.1 = .ok after.text ∧
    files.content ended.2 (files.place s d.file) = some (files.encode after)
  /-- Where no text was shown nothing is committed, and the files are as they were. -/
  refused : ∀ e, shown.1 = .error e →
    (∀ o, ended.1 = .ok o → o.state = .rolledBack ∧ o.success = false) ∧ files.Same s ended.2
  /-- Looking leaves the files as they were. -/
  looked : files.Same s shown.2

theorem runOn_preview {e : Engine m α} {editor : Editor m} (edits : e.editor? = some editor) (d : Diagnostic)
    (fix : Fix α) (s : σ) :
    (e.preview d fix).runOn s =
      (((fix.preview editor d).runOn s).1.map Buffer.text, ((fix.preview editor d).runOn s).2) := by
  unfold preview withEditor
  rw [edits, ExceptT.runOn_bind]
  rcases (fix.preview editor d).runOn s with ⟨result, t⟩
  cases result with
  | error e => rfl
  | ok after => exact ExceptT.runOn_pure _ t

/-- An attempt does what a preview in the same state says, whichever steps of the editor fail. -/
theorem preview_foretells [Scalar α] {e : Engine m α} {files : FileView m} (edits : e.editor? = some files.editor) (id : String)
    (d : Diagnostic) (fix : Fix α) (s : σ) :
    Foretold files d s ((e.preview d fix).runOn s) ((e.apply id d fix).runOn s) := by
  have applied : e.apply id d fix = fix.apply files.editor id d := by rw [apply, withEditor, edits]
  rw [runOn_preview edits, applied]
  refine ⟨?_, ?_, Fix.preview_stays (files.read_stays d.file) fix s⟩
  · intro o ok committed
    obtain ⟨before, after, -, -, shown, put, -⟩ := Fix.preview_of_commit ok committed
    exact ⟨after, by rw [shown]; rfl, put⟩
  · intro failure unshown
    cases shown : ((fix.preview files.editor d).runOn s).1 with
    | error e => exact Fix.apply_of_unshown files id shown
    | ok after => simp [shown, Except.map] at unshown

end Engine

section Removal

open Suggest

def removal : Fix Float where
  id := "drop"
  description := "Remove the declaration"
  autonomy := .automatic
  confidence := 0.9
  category := .genericError
  changes := [.delete ⟨0, 12⟩]
  checks := ⟨["edits within file bounds"], ["line count decreased"], [], false⟩
  rollbackPossible := true

def overlong : Fix Float := { removal with changes := [.delete ⟨0, 99⟩] }

def editing : Engine (StateM Bench) Float := ⟨Bench.store, .empty, some Bench.files.editor, .standard⟩

def faltering : Engine (StateT FaultScript (StateM Bench)) Float :=
  ⟨Bench.store.lifted StateT.lift, .empty, some Bench.files.faulty.editor, .standard⟩

def firstFails : FaultScript := fun n => if n = 0 then some (.internal "unreadable") else none

theorem removal_commits :
    ((editing.apply "attempt" unread removal).runOn bench).1.toOption.map Outcome.state = some .committed ∧
      ((editing.preview unread overlong).runOn bench).1.toOption = none ∧
      ((faltering.preview unread removal).runOn (firstFails, bench)).1.toOption = none := by
  decide +kernel

/-- The removal puts in place the text that was shown; the one that reaches too far shows nothing and does nothing, and
so does the removal where the file cannot be read. -/
theorem preview_foretells_removal :
    (∃ after : Buffer, ((editing.preview unread removal).runOn bench).1 = .ok after.text ∧
      ((editing.apply "attempt" unread removal).runOn bench).2.2.content? unread.file = some after) ∧
    ((editing.apply "attempt" unread overlong).runOn bench).2.2.content? unread.file = some twoLines ∧
    ((faltering.apply "attempt" unread removal).runOn (firstFails, bench)).2.2.2.content? unread.file = some twoLines := by
  have edits : editing.editor? = some Bench.files.editor := rfl
  obtain ⟨commits, unshown, unread'⟩ := removal_commits
  refine ⟨?_, ?_, ?_⟩
  · have foretold := Engine.preview_foretells edits "attempt" unread removal bench
    obtain ⟨o, ok, committed⟩ := Option.map_eq_some_iff.mp commits
    obtain ⟨after, shown, put⟩ := foretold.committed o (Except.toOption_eq_some_iff.mp ok) committed
    exact ⟨after, shown, (MemoryFiles.content?_eq _ _).trans put⟩
  · have foretold := Engine.preview_foretells edits "attempt" unread overlong bench
    cases shown : ((editing.preview unread overlong).runOn bench).1 with
    | ok text => simp [shown, Except.toOption] at unshown
    | error e =>
        have same := (foretold.refused e shown).2.2
        exact (MemoryFiles.content?_eq _ _).trans ((congrFun same _).trans twoLines_there)
  · have falters : faltering.editor? = some Bench.files.faulty.editor := rfl
    have foretold := Engine.preview_foretells falters "attempt" unread removal (firstFails, bench)
    cases shown : ((faltering.preview unread removal).runOn (firstFails, bench)).1 with
    | ok text => simp [shown, Except.toOption] at unread'
    | error e =>
        have same : Bench.files.content _ = Bench.files.content bench := (foretold.refused e shown).2.2
        exact (MemoryFiles.content?_eq _ _).trans ((congrFun same _).trans twoLines_there)

end Removal

end Remedy
