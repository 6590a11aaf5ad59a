import Remedy.Proofs.Files.Memory
import Remedy.Proofs.Fix.Preview

/-! Fixes that ask that what they import is not there yet. Main statement: once such a fix is committed, another attempt
at it is given up before anything is written. -/

namespace Remedy.Fix

variable {m : Type → Type} [Monad m] {σ : Type} [World m σ] {α : Type} {files : FileView m} {Ready : σ → Prop}
  {fix : Fix α} {d d' : Diagnostic} {before after : Buffer} {s s' : σ} {id : String} {o : Outcome}

/-- The fix asks that its imports are not there yet. -/
def Guarded (fix : Fix α) : Prop :=
  ∃ phrase ∈ fix.checks.preConditions, Condition.ofPhrase? phrase = some .importAbsent

/-- The imports of a text that the fix has made are there. -/
theorem Guarded.failedBefore? (guarded : fix.Guarded) (made : before.apply fix.changes = .ok after) (d : Diagnostic) :
    ∃ failed, fix.failedBefore? d after = .ok (some failed) := by
  rcases checked : fix.failedBefore? d after with p | _ | failed
  · obtain ⟨c, panicked⟩ := Condition.exists_panic_of_firstFailed? checked
    exact (Condition.reason?_answers_unedited (Buffer.apply_fits made).2 d c p panicked).elim
  · obtain ⟨phrase, listed, names⟩ := guarded
    obtain ⟨c, names', holds⟩ := (Condition.firstFailed?_eq_none_iff _ _).mp checked phrase listed
    cases names.symm.trans names'
    exact (Condition.not_importAbsent_of_apply made d none holds).elim
  · exact ⟨failed, rfl⟩

variable [Scalar α]

theorem Guarded.apply_made (guarded : fix.Guarded) (works : files.Works Ready) (ready : Ready s)
    (allowed : fix.refusal? = none) (valid : fix.validate = .ok ()) (made : before.apply fix.changes = .ok after)
    (there : files.content s (files.place s d.file) = some (files.encode after)) (id : String) :
    ∃ reason s', (fix.apply files.editor id d).runOn s = (.ok (.failed id fix d.file givenUp reason), s') ∧
      files.Same s s' := by
  have read := works.read d.file s after ready there
  have same := files.read_stays d.file s
  rw [runOn_apply, allowed, valid]
  rcases looked : (files.editor.read d.file).runOn s with ⟨result, t⟩
  rw [looked] at read same
  subst read
  obtain ⟨failed, checked⟩ := guarded.failedBefore? made d
  simp only [checked]
  exact ⟨failed.text, t, rfl, same⟩

/-- Once a fix that asks for absent imports is committed, a further attempt at the same file is given up after its
pre-conditions were checked, and leaves all files as they are. -/
theorem import_once (works : files.Works Ready) (ready : Ready s) (guarded : fix.Guarded)
    (ran : (fix.apply files.editor id d).runOn s = (.ok o, s')) (committed : o.state = .committed)
    (here : files.place s d'.file = files.place s d.file) (id' : String) :
    ∃ o' t, (fix.apply files.editor id' d').runOn s' = (.ok o', t) ∧ o'.state = .rolledBack ∧ o'.success = false ∧
      o'.trail = [.proposed, .preconditionChecked, .rolledBack] ∧ files.Same s' t := by
  -- What was committed is a text the fix has made, and that is all the second attempt needs to know of the first.
  have ok : ((fix.apply files.editor id d).runOn s).1 = .ok o := by rw [ran]
  obtain ⟨before, after, valid, -, shown, put, -⟩ := preview_of_commit ok committed
  obtain ⟨allowed, before', -, made⟩ := preview_eq_ok.mp shown
  have ready' := apply_ready works fix id d ready
  have named := apply_named fix files id d s
  rw [ran] at put ready' named
  have there : files.content s' (files.place s' d'.file) = some (files.encode after) := by rw [named, here, put]
  obtain ⟨reason, t, again, same⟩ := guarded.apply_made works ready' allowed valid (made_eq_ok.mp made).2 there id'
  exact ⟨_, t, again, rfl, rfl, rfl, same⟩

def importing : Fix Float where
  id := "import"
  description := "Import the name"
  autonomy := .automatic
  confidence := 0.9
  category := .importError
  changes := [⟨⟨4, 1⟩, "x"⟩, .insert 0 "import x from 'x';\n"]
  checks := ⟨["import not already present"], ["import statement present"], [], false⟩
  rollbackPossible := true

def unimported : MemoryFiles := .ofList [(⟨"a.ts"⟩, .ofString "log(X);")]

def unresolvedName : Diagnostic := ⟨⟨"a.ts"⟩, 1, 5, "Cannot find name 'X'.", 2304, .error, .importError⟩

theorem importing_made :
    (Buffer.ofString "log(X);").apply importing.changes = .ok (.ofString "import x from 'x';\nlog(x);") := by
  have order : Change.sorted importing.changes = [.insert 0 "import x from 'x';\n", ⟨⟨4, 1⟩, "x"⟩] := by
    simp [importing, Change.sorted, List.mergeSort, Change.insert, Span.at_, Span.le]
  rw [Buffer.apply, Buffer.check, order]
  decide +kernel

theorem importing_guarded : importing.Guarded :=
  ⟨"import not already present", by simp [importing], by decide +kernel⟩

/-- The import is put in by the first attempt, and the second leaves the file as it is. -/
theorem import_once_importing :
    ∃ o s' o' t, (importing.apply MemoryFiles.editor "first" unresolvedName).runOn unimported = (.ok o, s') ∧
      o.state = .committed ∧ s'.content? ⟨"a.ts"⟩ = some (.ofString "import x from 'x';\nlog(x);") ∧
      (importing.apply MemoryFiles.editor "second" unresolvedName).runOn s' = (.ok o', t) ∧ o'.state = .rolledBack ∧
      t.content? ⟨"a.ts"⟩ = some (.ofString "import x from 'x';\nlog(x);") := by
  have allowed : importing.refusal? = none := by decide +kernel
  have valid : importing.validate = .ok () := by decide +kernel
  have absent : ∀ phrase ∈ importing.checks.preConditions,
      Condition.Holds ⟨unresolvedName, importing.changes, .ofString "log(X);", none⟩ phrase := by
    rw [← Condition.firstFailed?_eq_none_iff]
    decide +kernel
  have present : ∀ phrase ∈ importing.checks.postConditions,
      Condition.Holds ⟨unresolvedName, importing.changes, .ofString "log(X);",
        some (.ofString "import x from 'x';\nlog(x);")⟩ phrase := by
    rw [← Condition.firstFailed?_eq_none_iff]
    decide +kernel
  obtain ⟨s', ran, put⟩ := apply_commits (s := unimported) MemoryFiles.view_works rfl rfl "first" allowed valid absent
    importing_made present
  have here : MemoryFiles.view.place unimported unresolvedName.file =
      MemoryFiles.view.place unimported unresolvedName.file := rfl
  obtain ⟨o', t, again, state, -, -, same⟩ := import_once MemoryFiles.view_works rfl importing_guarded ran rfl here
    "second"
  have kept := congrFun same.2 (Path.components ⟨"a.ts"⟩)
  refine ⟨_, s', o', t, ran, rfl, (MemoryFiles.content?_eq _ _).trans put, again, state, ?_⟩
  rw [MemoryFiles.content?_eq]
  exact kept.trans put

end Remedy.Fix
