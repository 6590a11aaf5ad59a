import Remedy.Proofs.Files.Tree
import Remedy.Proofs.Knowledge.File
import Remedy.Proofs.Knowledge.RoundTrip

/-! What the steps of a handle make of the document in a knowledge file. Main statement: a step either leaves
the document as it is, or leaves the text of a table that it has merged with the one that was there. -/

namespace Remedy

namespace Table

/-- What is read of the text of a table counts what the table counts. -/
def ReadsBack (t : Table Float) : Prop :=
  ∃ u, read t.toText = .ok u ∧ ∀ signature, u.observed signature = t.observed signature

theorem Legible.readsBack {t : Table Float} (legible : t.Legible) : t.ReadsBack := ⟨t, legible, fun _ => rfl⟩

end Table

namespace KnowledgeFile

open World (Stays)

variable {m : Type → Type} [Monad m] {σ : Type} [World m σ] {f : KnowledgeFile m}

def text (f : KnowledgeFile m) (s : σ) : Except DiskError String :=
  (World.step (f.disk.readText f.path) s).1

def SameText (f : KnowledgeFile m) (s t : σ) : Prop := f.text t = f.text s

instance (f : KnowledgeFile m) : IsPreorder σ f.SameText where
  refl _ := rfl
  trans _ _ _ first second := second.trans first

/-- A disk on which the file can be relied on: looking, making its directory and taking its lock do not
change it, and replacing it does so as a whole or not at all. -/
structure Lawful (f : KnowledgeFile m) : Prop where
  read_stays : Stays f.SameText (f.disk.readText f.path)
  parent_stays : Stays f.SameText (f.disk.makeParent f.path)
  lock_stays : Stays f.SameText (f.disk.touch (lockPath f.path))
  replace_puts : ∀ new s, (World.step (f.disk.replace f.path new) s).1 = .ok () →
    f.text (World.step (f.disk.replace f.path new) s).2 = .ok new
  replace_fails : ∀ new s e, (World.step (f.disk.replace f.path new) s).1 = .error e →
    f.text (World.step (f.disk.replace f.path new) s).2 = f.text s

def table (f : KnowledgeFile m) (s : σ) : Except Failure (Table Float) := (f.load.runOn s).1

theorem runOn_load_eq (s : σ) :
    f.load.runOn s = (decode f.path (f.text s), (World.step (f.disk.readText f.path) s).2) := by
  have unfolded : f.load.runOn s =
      (ExceptT.lift (f.disk.readText f.path) >>= fun r => Action.ofExcept (decode f.path r)).runOn s := rfl
  rw [unfolded, ExceptT.runOn_bind, ExceptT.runOn_lift, ExceptT.andThen_ok, Action.runOn_ofExcept]
  rfl

theorem table_eq (s : σ) : f.table s = decode f.path (f.text s) := congrArg Prod.fst (runOn_load_eq s)

theorem table_of_sameText {s t : σ} (same : f.SameText s t) : f.table t = f.table s := by
  rw [table_eq, table_eq, same]

theorem read_ordered {text : String} {t : Table Float} (read : Table.read text = .ok t) :
    Table.Ordered t.entries := by
  unfold Table.read at read
  split at read
  · cases read
    exact List.Pairwise.nil
  · split at read
    · cases read
    · split at read
      · cases read
        exact Table.ofList_ordered _
      · cases read

theorem table_ordered {s : σ} {t : Table Float} (there : f.table s = .ok t) : Table.Ordered t.entries := by
  rw [table_eq] at there
  unfold decode at there
  split at there
  · rename_i text _
    cases read : Table.read text with
    | error flaw => simp [read, Except.mapError] at there
    | ok u =>
        simp only [read, Except.mapError, Except.ok.injEq] at there
        rw [← there]
        exact read_ordered read
  · cases there
    exact List.Pairwise.nil
  · cases there

theorem table_of_text {s : σ} {t : Table Float} (written : f.text s = .ok t.toText) (legible : t.ReadsBack) :
    ∃ u, f.table s = .ok u ∧ ∀ signature, u.observed signature = t.observed signature := by
  obtain ⟨u, read, counted⟩ := legible
  refine ⟨u, ?_, counted⟩
  rw [table_eq, written]
  simp only [decode, read, Except.mapError]

theorem table_of_written {s : σ} (written : f.text s = .ok t.toText) (legible : t.Legible) :
    f.table s = .ok t := by
  rw [table_eq, written]
  unfold Table.Legible at legible
  simp only [decode, legible, Except.mapError]

theorem load_sameText (lawful : f.Lawful) : ExceptT.Stays f.SameText f.load := by
  refine (ExceptT.stays_lift lawful.read_stays).bind ?_
  intro result
  exact Action.stays_ofExcept _

theorem runOn_load (lawful : f.Lawful) {s : σ} {t : Table Float} (there : f.table s = .ok t) :
    ∃ s', f.load.runOn s = (.ok t, s') ∧ f.SameText s s' := by
  refine ⟨(f.load.runOn s).2, ?_, load_sameText lawful s⟩
  rw [← there]
  rfl

def Locks (f : KnowledgeFile m) (s s' : σ) : Prop :=
  ∃ made, World.step (f.disk.makeParent f.path) s = (.ok (), made) ∧
    World.step (f.disk.touch (lockPath f.path)) made = (.ok (), s')

/-- What an update can come to: a failure of the first step that fails, or the merged table once it is written. -/
inductive Ends (f : KnowledgeFile m) (merge : Table Float → Except Failure (Table Float)) (s : σ) :
    Except Failure (Table Float) → σ → Prop where
  | directory {e : DiskError} {s' : σ} (made : World.step (f.disk.makeParent f.path) s = (.error e, s')) :
      Ends f merge s (.error (failed f.path "create directory" e)) s'
  | lock {e : DiskError} {made s' : σ} (parent : World.step (f.disk.makeParent f.path) s = (.ok (), made))
      (opened : World.step (f.disk.touch (lockPath f.path)) made = (.error e, s')) :
      Ends f merge s (.error (failed (lockPath f.path) "open lock" e)) s'
  | load {e : Failure} {held s' : σ} (locks : f.Locks s held) (loaded : f.load.runOn held = (.error e, s')) :
      Ends f merge s (.error e) s'
  | merge {e : Failure} {held s' : σ} {t : Table Float} (locks : f.Locks s held)
      (loaded : f.load.runOn held = (.ok t, s')) (refused : merge t = .error e) : Ends f merge s (.error e) s'
  | replace {e : DiskError} {held read s' : σ} {t merged : Table Float} (locks : f.Locks s held)
      (loaded : f.load.runOn held = (.ok t, read)) (advanced : merge t = .ok merged)
      (replaced : World.step (f.disk.replace f.path merged.toText) read = (.error e, s')) :
      Ends f merge s (.error (failed f.path "write" e)) s'
  | written {held read s' : σ} {t merged : Table Float} (locks : f.Locks s held)
      (loaded : f.load.runOn held = (.ok t, read)) (advanced : merge t = .ok merged)
      (replaced : World.step (f.disk.replace f.path merged.toText) read = (.ok (), s')) :
      Ends f merge s (.ok merged) s'

theorem update_ends (f : KnowledgeFile m) (merge : Table Float → Except Failure (Table Float)) (s : σ) :
    Ends f merge s ((f.update merge).runOn s).1 ((f.update merge).runOn s).2 := by
  unfold update
  dsimp only
  rw [ExceptT.runOn_bind, Disk.runOn_step]
  rcases making : World.step (f.disk.makeParent f.path) s with ⟨_ | _, made⟩
  · exact .directory making
  simp only [Except.mapError, ExceptT.andThen_ok]
  rw [ExceptT.runOn_bind, Disk.runOn_step]
  rcases opening : World.step (f.disk.touch (lockPath f.path)) made with ⟨_ | _, held⟩
  · exact .lock making opening
  simp only [Except.mapError, ExceptT.andThen_ok]
  have locks : f.Locks s held := ⟨made, making, opening⟩
  rw [ExceptT.runOn_bind]
  rcases loading : f.load.runOn held with ⟨e | t, read⟩
  · exact .load locks loading
  rw [ExceptT.andThen_ok, ExceptT.runOn_bind, Action.runOn_ofExcept]
  cases advanced : merge t with
  | error e => exact .merge locks loading advanced
  | ok merged =>
      rw [ExceptT.andThen_ok, ExceptT.runOn_bind, Disk.runOn_step]
      rcases replacing : World.step (f.disk.replace f.path merged.toText) read with ⟨_ | _, s'⟩
      · exact .replace locks loading advanced replacing
      simp only [Except.mapError, ExceptT.andThen_ok, ExceptT.runOn_pure]
      exact .written locks loading advanced replacing

theorem Locks.sameText (lawful : f.Lawful) {s s' : σ} (locks : f.Locks s s') : f.SameText s s' := by
  obtain ⟨made, parent, opened⟩ := locks
  have first := lawful.parent_stays s
  have second := lawful.lock_stays made
  rw [parent] at first
  rw [opened] at second
  exact IsTrans.trans _ _ _ first second

/-- An update fails and leaves the document, or leaves the text of the merged table. -/
theorem update_cases (lawful : f.Lawful) {s : σ} {t : Table Float} (there : f.table s = .ok t)
    (merge : Table Float → Except Failure (Table Float)) :
    ∃ s', (∃ e, (f.update merge).runOn s = (.error e, s') ∧ f.SameText s s') ∨
      ∃ merged, merge t = .ok merged ∧ (f.update merge).runOn s = (.ok merged, s') ∧
        f.text s' = .ok merged.toText := by
  have ends := update_ends f merge s
  rcases ran : (f.update merge).runOn s with ⟨result, s'⟩
  rw [ran] at ends
  have loads : ∀ {held : σ}, f.Locks s held → ∃ read, f.load.runOn held = (.ok t, read) ∧ f.SameText s read := by
    intro held locks
    have same := locks.sameText lawful
    obtain ⟨read, loaded, seen⟩ := runOn_load lawful ((table_of_sameText same).trans there)
    exact ⟨read, loaded, IsTrans.trans _ _ _ same seen⟩
  refine ⟨s', ?_⟩
  cases ends with
  | directory made =>
      have parent := lawful.parent_stays s
      rw [made] at parent
      exact .inl ⟨_, rfl, parent⟩
  | @lock e made s' parent opened =>
      have first := lawful.parent_stays s
      have second := lawful.lock_stays made
      rw [parent] at first
      rw [opened] at second
      exact .inl ⟨_, rfl, IsTrans.trans _ _ _ first second⟩
  | load locks loaded =>
      obtain ⟨read, found, -⟩ := loads locks
      rw [loaded] at found
      cases found
  | merge locks loaded refused =>
      obtain ⟨read, found, same⟩ := loads locks
      rw [loaded] at found
      cases found
      exact .inl ⟨_, rfl, same⟩
  | replace locks loaded advanced replaced =>
      obtain ⟨read, found, same⟩ := loads locks
      rw [loaded] at found
      cases found
      have kept := lawful.replace_fails _ _ _ (congrArg Prod.fst replaced)
      rw [replaced] at kept
      exact .inl ⟨_, rfl, kept.trans same⟩
  | written locks loaded advanced replaced =>
      obtain ⟨read, found, -⟩ := loads locks
      rw [loaded] at found
      cases found
      have puts := lawful.replace_puts _ _ (congrArg Prod.fst replaced)
      rw [replaced] at puts
      exact .inr ⟨_, advanced, rfl, puts⟩

theorem runOn_update {s s₁ s₂ s₃ s₄ : σ} {t merged : Table Float} {merge : Table Float → Except Failure (Table Float)}
    (parent : World.step (f.disk.makeParent f.path) s = (.ok (), s₁))
    (locked : World.step (f.disk.touch (lockPath f.path)) s₁ = (.ok (), s₂))
    (loaded : f.load.runOn s₂ = (.ok t, s₃)) (advanced : merge t = .ok merged)
    (replaced : World.step (f.disk.replace f.path merged.toText) s₃ = (.ok (), s₄)) :
    (f.update merge).runOn s = (.ok merged, s₄) := by
  unfold update
  dsimp only
  rw [ExceptT.runOn_bind, Disk.runOn_step, parent]
  simp only [Except.mapError, ExceptT.andThen_ok]
  rw [ExceptT.runOn_bind, Disk.runOn_step, locked]
  simp only [Except.mapError, ExceptT.andThen_ok]
  rw [ExceptT.runOn_bind, loaded, ExceptT.andThen_ok, ExceptT.runOn_bind, Action.runOn_ofExcept, advanced,
    ExceptT.andThen_ok, ExceptT.runOn_bind, Disk.runOn_step, replaced]
  simp only [Except.mapError, ExceptT.andThen_ok, ExceptT.runOn_pure]

theorem runOn_update_refused {s s₁ s₂ s₃ : σ} {t : Table Float} {merge : Table Float → Except Failure (Table Float)}
    {reason : Failure} (parent : World.step (f.disk.makeParent f.path) s = (.ok (), s₁))
    (locked : World.step (f.disk.touch (lockPath f.path)) s₁ = (.ok (), s₂))
    (loaded : f.load.runOn s₂ = (.ok t, s₃)) (refused : merge t = .error reason) :
    (f.update merge).runOn s = (.error reason, s₃) := by
  unfold update
  dsimp only
  rw [ExceptT.runOn_bind, Disk.runOn_step, parent]
  simp only [Except.mapError, ExceptT.andThen_ok]
  rw [ExceptT.runOn_bind, Disk.runOn_step, locked]
  simp only [Except.mapError, ExceptT.andThen_ok]
  rw [ExceptT.runOn_bind, loaded, ExceptT.andThen_ok, ExceptT.runOn_bind, Action.runOn_ofExcept, refused,
    ExceptT.andThen_error]

theorem runOn_get (lawful : f.Lawful) {s : σ} {t : Table Float} (there : f.table s = .ok t)
    (signature : Signature) (seen : Table Float) :
    ∃ s', (f.get signature).runOn (seen, s) = (.ok (t.get? signature), (t, s')) ∧ f.SameText s s' := by
  obtain ⟨s', loaded, same⟩ := runOn_load lawful there
  refine ⟨s', ?_, same⟩
  rw [get, runOn_seeing, ExceptT.runOn_bind, loaded, ExceptT.andThen_ok, ExceptT.runOn_pure]

theorem runOn_entries (lawful : f.Lawful) {s : σ} {t : Table Float} (there : f.table s = .ok t)
    (seen : Table Float) :
    ∃ s', f.entries.runOn (seen, s) = (.ok t.entries, (t, s')) ∧ f.SameText s s' := by
  obtain ⟨s', loaded, same⟩ := runOn_load lawful there
  refine ⟨s', ?_, same⟩
  rw [entries, runOn_seeing, ExceptT.runOn_bind, loaded, ExceptT.andThen_ok, ExceptT.runOn_pure]

/-- Putting an entry fails and leaves the document, or advances the table in it. -/
theorem put_cases (lawful : f.Lawful) {s : σ} {t : Table Float} (there : f.table s = .ok t)
    (e : Entry Float) (seen : Table Float) :
    ∃ s', (∃ reason, (f.put e).runOn (seen, s) = (.error reason, (seen, s')) ∧ f.SameText s s') ∨
      ∃ merged, t.advance? e = some merged ∧ (f.put e).runOn (seen, s) = (.ok (), (merged, s')) ∧
        f.text s' = .ok merged.toText := by
  obtain ⟨s', ⟨reason, failed, same⟩ | ⟨merged, advanced, done, written⟩⟩ :=
    update_cases lawful there (advance e)
  · refine ⟨s', .inl ⟨reason, ?_, same⟩⟩
    rw [put, runOn_seeing, ExceptT.runOn_bind, failed, ExceptT.andThen_error]
  · refine ⟨s', .inr ⟨merged, ?_, ?_, written⟩⟩
    · unfold advance at advanced
      split at advanced
      · rename_i found
        cases advanced
        exact found
      · cases advanced
    · rw [put, runOn_seeing, ExceptT.runOn_bind, done, ExceptT.andThen_ok, ExceptT.runOn_pure]

theorem flush_eq (seen : Table Float) (s : σ) :
    f.flush.runOn (seen, s) = (seeing do return ((), ← f.update fun t => .ok (t.merge seen))).runOn (seen, s) := by
  rw [flush, ExceptT.runOn_bind, ExceptT.runOn_lift, World.step_get, ExceptT.andThen_ok]

/-- Flushing fails and leaves the document, or merges into it what the handle has seen. -/
theorem flush_cases (lawful : f.Lawful) {s : σ} {t : Table Float} (there : f.table s = .ok t)
    (seen : Table Float) :
    ∃ s', (∃ reason, f.flush.runOn (seen, s) = (.error reason, (seen, s')) ∧ f.SameText s s') ∨
      f.flush.runOn (seen, s) = (.ok (), (t.merge seen, s')) ∧ f.text s' = .ok (t.merge seen).toText := by
  rw [flush_eq]
  obtain ⟨s', ⟨reason, failed, same⟩ | ⟨merged, advanced, done, written⟩⟩ :=
    update_cases lawful there fun t => .ok (t.merge seen)
  · refine ⟨s', .inl ⟨reason, ?_, same⟩⟩
    rw [runOn_seeing, ExceptT.runOn_bind, failed, ExceptT.andThen_error]
  · cases advanced
    refine ⟨s', .inr ⟨?_, written⟩⟩
    rw [runOn_seeing, ExceptT.runOn_bind, done, ExceptT.andThen_ok, ExceptT.runOn_pure]

end KnowledgeFile

end Remedy
