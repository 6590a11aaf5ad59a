import Remedy.Knowledge.File
import Remedy.Proofs.Files.Disk

/-! What a shared knowledge file does to the disk it is on. Main statement: its steps leave every file as it
is that is neither the knowledge file nor its lock. -/

namespace Remedy

open World (Stays)

variable {m : Type → Type} [Monad m] {σ : Type} [World m σ]

namespace Disk

variable {disk : Disk m} {R : σ → σ → Prop}

theorem step_stays {α : Type} (failed : DiskError → Failure) {run : m (Except DiskError α)} (stays : Stays R run) :
    ExceptT.Stays R (step failed run) := by
  intro s
  rw [runOn_step]
  exact stays s

variable [IsPreorder σ R]

theorem isDirectory_stays (kinds : ∀ p, Stays R (disk.kind? p)) (p : Path) : Stays R (disk.isDirectory p) := by
  refine (kinds p).bind ?_
  intro kind?
  exact World.stays_pure _

theorem ensureDirectory_stays (kinds : ∀ p, Stays R (disk.kind? p)) (makes : ∀ p, Stays R (disk.makeDirectory p))
    (p : Path) : Stays R (disk.ensureDirectory p) := by
  refine (makes p).bind ?_
  intro made
  cases made with
  | ok done => exact World.stays_pure _
  | error e =>
      refine (isDirectory_stays kinds p).bind ?_
      intro there
      cases there with
      | true => exact World.stays_pure _
      | false => exact World.stays_pure _

theorem makeDirectoriesUpTo_stays (kinds : ∀ p, Stays R (disk.kind? p))
    (makes : ∀ p, Stays R (disk.makeDirectory p)) (above : Nat) (p : Path) :
    Stays R (disk.makeDirectoriesUpTo above p) := by
  induction above generalizing p with
  | zero => exact World.stays_pure _
  | succ above ih =>
      unfold makeDirectoriesUpTo
      split
      · exact World.stays_pure _
      · refine (makes p).bind ?_
        intro made
        split
        · exact World.stays_pure _
        · split
          · exact World.stays_pure _
          · rename_i parent _
            refine (ih parent).bind ?_
            intro others
            cases others with
            | error e => exact World.stays_pure _
            | ok done => exact ensureDirectory_stays kinds makes p
        · refine (isDirectory_stays kinds p).bind ?_
          intro there
          cases there with
          | true => exact World.stays_pure _
          | false => exact World.stays_pure _

theorem makeParent_stays (kinds : ∀ p, Stays R (disk.kind? p)) (makes : ∀ p, Stays R (disk.makeDirectory p))
    (p : Path) : Stays R (disk.makeParent p) := by
  unfold makeParent
  split
  · exact makeDirectoriesUpTo_stays kinds makes _ _
  · exact World.stays_pure _

end Disk

namespace KnowledgeFile

theorem runOn_seeing {β : Type} (step : Action m (β × Table Float)) (t : Table Float) (s : σ) :
    (seeing step).runOn (t, s) =
      match step.runOn s with
      | (.ok (b, seen), s') => (.ok b, (seen, s'))
      | (.error e, s') => (.error e, (t, s')) := by
  unfold seeing
  have lifted : (step.lifted (fun run => (StateT.lift run : StateT (Table Float) m _))).runOn (t, s) =
      ((step.runOn s).1, (t, (step.runOn s).2)) := World.step_lift step.run t s
  rw [ExceptT.runOn_bind, lifted]
  rcases step.runOn s with ⟨result, s'⟩
  cases result with
  | error e => rfl
  | ok done =>
      obtain ⟨b, seen⟩ := done
      simp only [ExceptT.andThen_ok, ExceptT.runOn_bind, ExceptT.runOn_lift, World.step_set, ExceptT.runOn_pure]

theorem seeing_stays {β : Type} {R : σ → σ → Prop} {step : Action m (β × Table Float)}
    (stays : ExceptT.Stays R step) :
    ExceptT.Stays (fun v w : Table Float × σ => R v.2 w.2) (seeing step) := by
  intro w
  obtain ⟨t, s⟩ := w
  have moved := stays s
  rw [runOn_seeing]
  rcases ran : step.runOn s with ⟨result, s'⟩
  rw [ran] at moved
  cases result with
  | ok done => exact moved
  | error e => exact moved

variable {view : DiskView m}

theorem load_stays (path : Path) :
    ExceptT.Stays (SameView view.place view.bytes) (⟨view.disk, path⟩ : KnowledgeFile m).load := by
  refine (ExceptT.stays_lift (view.readText_stays path)).bind ?_
  intro result
  exact Action.stays_ofExcept _

theorem update_stays {path : Path} {names : Path → view.Place} {k : view.Place} (other : names path ≠ k)
    (unlocked : names (lockPath path) ≠ k) (merge : Table Float → Except Failure (Table Float)) :
    ExceptT.Stays (SameViewAt view.place view.bytes names k)
      ((⟨view.disk, path⟩ : KnowledgeFile m).update merge) := by
  have looks : ∀ {α : Type} {x : m α}, Stays (SameView view.place view.bytes) x →
      Stays (SameViewAt view.place view.bytes names k) x :=
    fun stays => stays.mono fun _ _ same => same.at names k
  refine (Disk.step_stays _ (Disk.makeParent_stays (fun p => looks (view.kind_stays p))
    (fun p => looks (view.makeDirectory_stays p)) path)).bind ?_
  intro made
  have touched : Stays (SameViewAt view.place view.bytes names k) (view.disk.touch (lockPath path)) := by
    intro s
    refine ⟨view.touch_stays_named _ s, ?_⟩
    intro named
    exact view.touch_elsewhere _ s k (by rw [named]; exact unlocked.symm)
  refine (Disk.step_stays _ touched).bind ?_
  intro locked
  refine ((load_stays path).mono fun _ _ same => same.at names k).bind ?_
  intro found
  refine (Action.stays_ofExcept _).bind ?_
  intro merged
  have replaced : Stays (SameViewAt view.place view.bytes names k) (view.disk.replace path merged.toText) := by
    intro s
    refine ⟨view.replace_isPut.stays_named _ _ s, ?_⟩
    intro named
    exact view.replace_isPut.elsewhere _ _ s k (by rw [named]; exact other.symm)
  refine (Disk.step_stays _ replaced).bind ?_
  intro done
  exact ExceptT.stays_pure _

theorem get_stays (path : Path) (signature : Signature) :
    ExceptT.Stays (view.beside (Table Float)).files.Same ((⟨view.disk, path⟩ : KnowledgeFile m).get signature) := by
  apply seeing_stays (R := SameView view.place view.bytes)
  refine (load_stays path).bind ?_
  intro t
  exact ExceptT.stays_pure _

/-- Putting an entry leaves every file as it is but the knowledge file and its lock. -/
theorem put_stays {path : Path} {names : Path → view.Place} {k : view.Place} (other : names path ≠ k)
    (unlocked : names (lockPath path) ≠ k) (e : Entry Float) :
    ExceptT.Stays ((view.beside (Table Float)).files.SameAt names k)
      ((⟨view.disk, path⟩ : KnowledgeFile m).put e) := by
  apply seeing_stays (R := SameViewAt view.place view.bytes names k)
  refine (update_stays other unlocked (advance e)).bind ?_
  intro t
  exact ExceptT.stays_pure _

end KnowledgeFile

end Remedy
