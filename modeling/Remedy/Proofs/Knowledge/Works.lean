import Remedy.Proofs.Knowledge.Handles
import Remedy.Proofs.Knowledge.Lawful

/-! A knowledge file on a disk that does not fail, with one handle. Main statements: an entry that says something new is
taken, and flushing what was seen of the file leaves the table as it is. -/

namespace Remedy

namespace KnowledgeFile

variable {m : Type → Type} [Monad m] {σ : Type} [World m σ] {f : KnowledgeFile m} {Ready : σ → Prop}

/-- Every step that writes succeeds where the disk is ready, and every step leaves it ready. -/
structure Works (f : KnowledgeFile m) (Ready : σ → Prop) : Prop where
  parent : ∀ s, Ready s → (World.step (f.disk.makeParent f.path) s).1 = .ok ()
  lock : ∀ s, Ready s → (World.step (f.disk.touch (lockPath f.path)) s).1 = .ok ()
  replace : ∀ text s, Ready s → (World.step (f.disk.replace f.path text) s).1 = .ok ()
  read_ready : ∀ s, Ready s → Ready (World.step (f.disk.readText f.path) s).2
  parent_ready : ∀ s, Ready s → Ready (World.step (f.disk.makeParent f.path) s).2
  lock_ready : ∀ s, Ready s → Ready (World.step (f.disk.touch (lockPath f.path)) s).2
  replace_ready : ∀ text s, Ready s → Ready (World.step (f.disk.replace f.path text) s).2

structure Holds (f : KnowledgeFile m) (Ready : σ → Prop) (s : σ) (t : Table Float) : Prop where
  there : f.table s = .ok t
  ready : Ready s

variable {s : σ} {t merged : Table Float} {e : Entry Float}

theorem Holds.load (lawful : f.Lawful) (works : f.Works Ready) (holds : f.Holds Ready s t) :
    ∃ s', f.load.runOn s = (.ok t, s') ∧ f.Holds Ready s' t := by
  obtain ⟨s', loaded, same⟩ := runOn_load lawful holds.there
  have left : (World.step (f.disk.readText f.path) s).2 = s' := by
    rw [runOn_load_eq] at loaded
    exact congrArg Prod.snd loaded
  exact ⟨s', loaded, (table_of_sameText same).trans holds.there, left ▸ works.read_ready s holds.ready⟩

theorem Holds.update (lawful : f.Lawful) (works : f.Works Ready) (holds : f.Holds Ready s t)
    {merge : Table Float → Except Failure (Table Float)} (advanced : merge t = .ok merged) (legible : merged.Legible) :
    ∃ s', (f.update merge).runOn s = (.ok merged, s') ∧ f.Holds Ready s' merged := by
  have made := works.parent s holds.ready
  have made_ready := works.parent_ready s holds.ready
  have made_same := lawful.parent_stays s
  rcases parent : World.step (f.disk.makeParent f.path) s with ⟨result, s₁⟩
  rw [parent] at made made_ready made_same
  cases made
  have held := works.lock s₁ made_ready
  have held_ready := works.lock_ready s₁ made_ready
  have held_same := lawful.lock_stays s₁
  rcases locked : World.step (f.disk.touch (lockPath f.path)) s₁ with ⟨result, s₂⟩
  rw [locked] at held held_ready held_same
  cases held
  have there : f.table s₂ = .ok t := (table_of_sameText (IsTrans.trans _ _ _ made_same held_same)).trans holds.there
  obtain ⟨s₃, loaded, read⟩ := Holds.load lawful works ⟨there, held_ready⟩
  have written := works.replace merged.toText s₃ read.ready
  have written_ready := works.replace_ready merged.toText s₃ read.ready
  have puts := lawful.replace_puts merged.toText s₃
  rcases replaced : World.step (f.disk.replace f.path merged.toText) s₃ with ⟨result, s₄⟩
  rw [replaced] at written written_ready puts
  cases written
  exact ⟨s₄, runOn_update parent locked loaded advanced replaced, table_of_written (puts rfl) legible,
    written_ready⟩

theorem Holds.get (lawful : f.Lawful) (works : f.Works Ready) (holds : f.Holds Ready s t) (signature : Signature)
    (seen : Table Float) :
    ∃ s', (f.get signature).runOn (seen, s) = (.ok (t.get? signature), (t, s')) ∧ f.Holds Ready s' t := by
  obtain ⟨s', loaded, holds'⟩ := holds.load lawful works
  refine ⟨s', ?_, holds'⟩
  rw [KnowledgeFile.get, runOn_seeing, ExceptT.runOn_bind, loaded, ExceptT.andThen_ok, ExceptT.runOn_pure]

theorem Holds.entries (lawful : f.Lawful) (works : f.Works Ready) (holds : f.Holds Ready s t) (seen : Table Float) :
    ∃ s', f.entries.runOn (seen, s) = (.ok t.entries, (t, s')) ∧ f.Holds Ready s' t := by
  obtain ⟨s', loaded, holds'⟩ := holds.load lawful works
  refine ⟨s', ?_, holds'⟩
  rw [KnowledgeFile.entries, runOn_seeing, ExceptT.runOn_bind, loaded, ExceptT.andThen_ok, ExceptT.runOn_pure]

theorem Holds.put (lawful : f.Lawful) (works : f.Works Ready) (holds : f.Holds Ready s t)
    (newer : ∀ known, t.get? e.signature = some known → known.observed < e.observed) (legible : (t.insert e).Legible)
    (seen : Table Float) :
    ∃ s', (f.put e).runOn (seen, s) = (.ok (), (t.insert e, s')) ∧ f.Holds Ready s' (t.insert e) := by
  have fresh : t.isStale e = false := by
    unfold Table.isStale
    cases known : t.get? e.signature with
    | none => rfl
    | some k => simp [UInt64.not_le.mpr (newer k known)]
  have advanced : advance e t = .ok (t.insert e) := by simp [advance, Table.advance?_of_fresh fresh]
  obtain ⟨s', updated, holds'⟩ := holds.update lawful works advanced legible
  refine ⟨s', ?_, holds'⟩
  rw [KnowledgeFile.put, runOn_seeing, ExceptT.runOn_bind, updated, ExceptT.andThen_ok, ExceptT.runOn_pure]

theorem Holds.flush (lawful : f.Lawful) (works : f.Works Ready) (holds : f.Holds Ready s t) (legible : t.Legible) :
    ∃ s', f.flush.runOn (t, s) = (.ok (), (t, s')) ∧ f.Holds Ready s' t := by
  have same : t.merge t = t := Table.merge_of_kept (table_ordered holds.there) (.refl t)
  obtain ⟨s', updated, holds'⟩ : ∃ s', (f.update fun known => .ok (known.merge t)).runOn s = (.ok t, s') ∧
      f.Holds Ready s' t := holds.update lawful works (congrArg Except.ok same) legible
  refine ⟨s', ?_, holds'⟩
  rw [flush_eq, runOn_seeing, ExceptT.runOn_bind, updated, ExceptT.andThen_ok, ExceptT.runOn_pure]

end KnowledgeFile

namespace Tree

variable {p : Path} {t : Tree}

/-- Relative paths start in a directory, and no directory has the name there. -/
structure Leaves (t : Tree) (p : Path) : Prop where
  entered : t.enter t.home = .ok ()
  free : t.hasDirectory (t.namedPlace p) = false

theorem Leaves.insert_file (leaves : t.Leaves p) {place : Place} (inner : place ≠ []) (away : place ≠ t.home)
    (bytes : ByteArray) : (t.insert place (.file bytes)).Leaves p := by
  refine ⟨(enter_insert inner away _).trans leaves.entered, ?_⟩
  have free := leaves.free
  change (t.insert place (.file bytes)).hasDirectory (t.namedPlace p) = false
  unfold hasDirectory at free ⊢
  rw [node?_insert inner]
  by_cases here : t.namedPlace p = place
  · rw [if_pos here]
  · rw [if_neg here]
    exact free

theorem IsName.touch_eq (named : IsName p) (leaves : t.Leaves p) :
    t.touch p = .ok (if (t.node? (t.namedPlace p)).isSome then t else t.insert (t.namedPlace p) (.file .empty)) := by
  unfold Tree.touch writable
  rw [named.target, leaves.entered]
  simp only [Except.map, bind, Except.bind, leaves.free]
  rfl

theorem IsName.replace_eq (named : IsName p) (leaves : t.Leaves p) (text : String) :
    t.replace p text = .ok (t.insert (t.namedPlace p) (.file text.toUTF8)) := by
  unfold Tree.replace
  rw [named.target, leaves.entered]
  simp only [Except.map, bind, Except.bind, leaves.free]
  rfl

/-- A tree never fails a knowledge file that lies where relative paths start, if no directory is in its way or in the
way of its lock. -/
theorem works (named : IsName p) (locked : IsName (KnowledgeFile.lockPath p)) :
    (⟨disk, p⟩ : KnowledgeFile (StateM Tree)).Works fun t => t.Leaves p ∧ t.Leaves (KnowledgeFile.lockPath p) := by
  have kept : ∀ {t : Tree} {q : Path} (bytes : ByteArray), t.Leaves p ∧ t.Leaves (KnowledgeFile.lockPath p) →
      (t.insert (t.namedPlace q) (.file bytes)).Leaves p ∧
        (t.insert (t.namedPlace q) (.file bytes)).Leaves (KnowledgeFile.lockPath p) :=
    fun bytes ready => ⟨ready.1.insert_file namedPlace_ne_root namedPlace_ne_home bytes,
      ready.2.insert_file namedPlace_ne_root namedPlace_ne_home bytes⟩
  constructor
  case parent =>
    intro t ready
    rw [named.makeParent]
    rfl
  case lock =>
    intro t ready
    change (World.step (change (·.touch (KnowledgeFile.lockPath p))) t).1 = _
    rw [step_change, locked.touch_eq ready.2]
  case replace =>
    intro text t ready
    change (World.step (change (·.replace p text)) t).1 = _
    rw [step_change, named.replace_eq ready.1]
  case read_ready =>
    intro t ready
    rw [step_readText]
    exact ready
  case parent_ready =>
    intro t ready
    rw [named.makeParent]
    exact ready
  case lock_ready =>
    intro t ready
    have stepped : (World.step (disk.touch (KnowledgeFile.lockPath p)) t).2 =
        (World.step (change (·.touch (KnowledgeFile.lockPath p))) t).2 := rfl
    rw [stepped, step_change, locked.touch_eq ready.2]
    simp only
    split
    · exact ready
    · exact kept _ ready
  case replace_ready =>
    intro text t ready
    have stepped : (World.step (disk.replace p text) t).2 = (World.step (change (·.replace p text)) t).2 := rfl
    change _ ∧ _
    rw [stepped, step_change, named.replace_eq ready.1]
    exact kept _ ready

end Tree

end Remedy
