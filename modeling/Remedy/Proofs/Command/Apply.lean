import Remedy.Command.Apply
import Remedy.Proofs.Command.Plan
import Remedy.Proofs.Files.Tree
import Remedy.Proofs.Fix.Commit
import Remedy.Proofs.Knowledge.File
import Remedy.Proofs.Knowledge.Learn
import Remedy.Proofs.Suggest.Source

/-! Planned fixes meet the text they were planned for. Main statement: a plan names no file twice exactly if
no two chosen diagnostics spell one file differently, and then every planned fix fits the text that it is
applied to. -/

namespace Remedy

open ExceptT (Stays)

namespace Task

variable {m : Type → Type} [Monad m] {σ : Type} [World m σ] {α : Type}

theorem runOn_action (step : Action (StateT (Table Float) m) α) (session : Session) (s : σ) :
    (action step).runOn (session, s) =
      ((step.runOn (session.seen, s)).1.mapError .failed,
        ({ session with seen := (step.runOn (session.seen, s)).2.1 }, (step.runOn (session.seen, s)).2.2)) := by
  have ran : World.step ((ExceptT.run (action step)).run session) s =
      World.step (step.run.run session.seen >>= fun done =>
        pure (done.1.mapError CommandError.failed, { session with seen := done.2 })) s := rfl
  unfold ExceptT.runOn
  simp only [World.step]
  rw [ran, World.step_bind, World.step_pure]

end Task

/-- Reading an entry leaves all files as they are, and putting one leaves the file at a place as it is, as
long as names lead where they do. -/
structure Store.Spares {m : Type → Type} [Monad m] {σ : Type} [World m σ] {α : Type} (store : Store m α)
    (files : FileView m) (names : Path → files.Place) (k : files.Place) : Prop where
  get : ∀ signature, Stays files.Same (store.get signature)
  put : ∀ e, Stays (files.SameAt names k) (store.put e)

namespace Plan

variable {m : Type → Type} [Monad m] {σ : Type} [World m σ] {α : Type} [Scalar α]

theorem picks_stays {files : FileView m} {engine : Engine m α} (edits : engine.editor? = some files.editor)
    (reads : ∀ signature, Stays files.Same (engine.store.get signature))
    (requested? : Option String) (found : List Diagnostic) :
    Stays files.Same (picks engine requested? found) := by
  induction found with
  | nil => exact ExceptT.stays_pure _
  | cons d rest ih =>
      have suggested : Stays files.Same (engine.suggest d) := by
        unfold Engine.suggest
        exact Suggest.fixes_stays _ _ _ (files.reads_stay edits) reads
      refine suggested.bind ?_
      intro fixes
      refine ih.bind ?_
      intro later
      exact ExceptT.stays_pure _

/-- The changes of every chosen fix are made for the text that is there. -/
theorem picks_fit {files : FileView m} {engine : Engine m α} (edits : engine.editor? = some files.editor)
    (reads : ∀ signature, Stays files.Same (engine.store.get signature))
    {requested? : Option String} {found : List Diagnostic} {picked : List (PlannedFix α)} {s s' : σ}
    (ran : (picks engine requested? found).runOn s = (.ok picked, s')) {a : PlannedFix α} (member : a ∈ picked)
    {text : Buffer} (there : files.content s (files.place s a.file) = some (files.encode text)) :
    a.fix.Fits engine.book a.diagnostic.normalize text := by
  induction found generalizing s s' picked with
  | nil =>
      simp only [picks, ExceptT.runOn_pure, Prod.mk.injEq, Except.ok.injEq] at ran
      rw [← ran.1] at member
      cases member
  | cons d rest ih =>
      obtain ⟨fixes, t, suggested, afterwards⟩ := ExceptT.bind_ok.mp ran
      obtain ⟨later, t', chosen, gathered⟩ := ExceptT.bind_ok.mp afterwards
      simp only [ExceptT.runOn_pure, Prod.mk.injEq, Except.ok.injEq] at gathered
      rw [← gathered.1, List.mem_append] at member
      unfold Engine.suggest at suggested
      rcases member with first | others
      · obtain ⟨fix, choice, rfl⟩ : ∃ fix, choose requested? fixes = some fix ∧ a = ⟨d, fix⟩ := by
          cases choice : choose requested? fixes with
          | none => simp [choice] at first
          | some fix => exact ⟨fix, rfl, by simpa [choice] using first⟩
        have among : fix ∈ fixes := by
          unfold choose at choice
          cases requested? with
          | none => exact List.mem_of_find?_eq_some choice
          | some id => exact List.mem_of_find?_eq_some choice
        rw [edits] at suggested
        exact Suggest.fixes_fit suggested there among
      · have kept := Suggest.fixes_stays engine.book engine.settings.blend d (files.reads_stay edits) reads s
        rw [suggested] at kept
        apply ih chosen others
        rw [kept.1, kept.2]
        exact there

end Plan

namespace Command

variable {m : Type → Type} [Monad m] {σ : Type} [World m σ]

theorem applyStep_elsewhere {around : Surroundings m} {engine : CommandEngine m}
    {files : FileView (StateT (Table Float) m)} (edits : engine.editor? = some files.editor) {k : files.Place}
    {session session' : Session} {s s' : σ}
    (spared : engine.store.Spares files (files.place (session.seen, s)) k) {number : Nat}
    {a : PlannedFix Float} {outcome : Outcome} (other : files.place (session.seen, s) a.file ≠ k)
    (ran : (applyStep around engine number a).runOn (session, s) = (.ok outcome, (session', s'))) :
    files.place (session'.seen, s') = files.place (session.seen, s) ∧
      files.content (session'.seen, s') k = files.content (session.seen, s) k := by
  obtain ⟨done, ⟨session₁, s₁⟩, attempted, afterwards⟩ := ExceptT.bind_ok.mp ran
  obtain ⟨e, ⟨session₂, s₂⟩, learned, ended⟩ := ExceptT.bind_ok.mp afterwards
  simp only [ExceptT.runOn_pure, Prod.mk.injEq] at ended
  obtain ⟨-, rfl, rfl⟩ := ended
  rw [Task.runOn_action] at attempted learned
  simp only [Prod.mk.injEq] at attempted learned
  obtain ⟨-, rfl, rfl⟩ := attempted
  obtain ⟨-, rfl, rfl⟩ := learned
  simp only [Engine.apply, Engine.withEditor, edits]
  have accounted := a.fix.apply_accounted files (around.attemptName number) a.diagnostic (session.seen, s)
  have named := a.fix.apply_named files (around.attemptName number) a.diagnostic (session.seen, s)
  have reads : ∀ signature,
      Stays (files.SameAt (files.place (session.seen, s)) k) (engine.store.get signature) :=
    fun signature => (spared.get signature).mono fun _ _ same => same.at _ k
  have remembered := Store.learn_stays reads spared.put around.clock a.diagnostic
    (done.toResolution a.diagnostic a.fix)
    ((a.fix.apply files.editor (around.attemptName number) a.diagnostic).runOn (session.seen, s)).2
  constructor
  · exact remembered.1.trans named
  · exact (remembered.2 named).trans (accounted.elsewhere k (Ne.symm other))

theorem applySteps_elsewhere {around : Surroundings m} {engine : CommandEngine m}
    {files : FileView (StateT (Table Float) m)} (edits : engine.editor? = some files.editor) {k : files.Place}
    {session session' : Session} {s s' : σ}
    (spared : engine.store.Spares files (files.place (session.seen, s)) k) {number : Nat}
    {done : List (PlannedFix Float)} {outcomes : List Outcome}
    (others : ∀ a ∈ done, files.place (session.seen, s) a.file ≠ k)
    (ran : (applySteps around engine number done).runOn (session, s) = (.ok outcomes, (session', s'))) :
    files.place (session'.seen, s') = files.place (session.seen, s) ∧
      files.content (session'.seen, s') k = files.content (session.seen, s) k := by
  induction done generalizing number session s outcomes with
  | nil =>
      simp only [applySteps, ExceptT.runOn_pure, Prod.mk.injEq] at ran
      obtain ⟨-, rfl, rfl⟩ := ran
      exact ⟨rfl, rfl⟩
  | cons a rest ih =>
      obtain ⟨outcome, ⟨session₁, s₁⟩, first, afterwards⟩ := ExceptT.bind_ok.mp ran
      obtain ⟨later, ⟨session₂, s₂⟩, remaining, ended⟩ := ExceptT.bind_ok.mp afterwards
      simp only [ExceptT.runOn_pure, Prod.mk.injEq] at ended
      obtain ⟨-, rfl, rfl⟩ := ended
      have once := applyStep_elsewhere edits spared (others a List.mem_cons_self) first
      rw [← once.1] at spared
      have apart : ∀ b ∈ rest, files.place (session₁.seen, s₁) b.file ≠ k := by
        intro b member
        rw [once.1]
        exact others b (List.mem_cons_of_mem a member)
      have twice := ih spared apart remaining
      exact ⟨twice.1.trans once.1, twice.2.trans once.2⟩

/-- In a plan that names no file twice, the changes of every fix are made for the text that is read when its
turn comes. -/
theorem planned_fits {around : Surroundings m} {engine : CommandEngine m}
    {files : FileView (StateT (Table Float) m)} {home : List Path.Component} {requested? : Option String}
    {found : List Diagnostic} {picked : List (PlannedFix Float)} {session planned session' : Session}
    {s t t' : σ} (edits : engine.editor? = some files.editor)
    (lexical : ∀ p q, files.place (session.seen, s) p = files.place (session.seen, s) q →
      p.canonical home = q.canonical home)
    (reads : ∀ signature, Stays files.Same (engine.store.get signature))
    (chosen : (Plan.picks engine requested? found).runOn (session.seen, s) = (.ok picked, (planned.seen, t)))
    (apart : (Plan.gather .empty picked).OneFixPerFile home) {done rest : List (PlannedFix Float)}
    {a : PlannedFix Float} (split : (Plan.gather .empty picked).steps = done ++ a :: rest)
    (spared : engine.store.Spares files (files.place (planned.seen, t)) (files.place (planned.seen, t) a.file))
    {number : Nat} {outcomes : List Outcome}
    (applied : (applySteps around engine number done).runOn (planned, t) = (.ok outcomes, (session', t')))
    {text : Buffer} (shown : ((files.editor.read a.file).runOn (session'.seen, t')).1 = .ok text) :
    a.fix.Fits engine.book a.diagnostic.normalize text := by
  have member : a ∈ (Plan.gather .empty picked).steps := by
    rw [split]
    simp
  have among := (Plan.mem_gather member).resolve_left (by simp [Plan.empty])
  have kept := Plan.picks_stays edits reads requested? found (session.seen, s)
  rw [chosen] at kept
  have others : ∀ b ∈ done, files.place (planned.seen, t) b.file ≠ files.place (planned.seen, t) a.file := by
    intro b earlier same
    rw [kept.1] at same
    rw [Plan.OneFixPerFile, split, List.pairwise_append] at apart
    exact apart.2.2 b earlier a List.mem_cons_self (lexical _ _ same)
  have later := applySteps_elsewhere edits spared others applied
  have there := files.read_shows a.file (session'.seen, t') text shown
  rw [later.1, later.2] at there
  refine Plan.picks_fit edits reads chosen among ?_
  rw [← kept.1, ← kept.2]
  exact there

def diskEngine (disk : Disk m) (knowledge : Path) (book : RuleBook Float) (settings : Settings Float) :
    CommandEngine m :=
  ⟨(⟨disk, knowledge⟩ : KnowledgeFile m).store, book, some (disk.lifted StateT.lift).editor, settings⟩

/-- Planning names no file twice by its components. It names no file twice at all exactly if no two chosen
diagnostics spell one file differently; and then the changes of every planned fix are made for the text that
is read when its turn comes, as long as it is not for the knowledge file itself. -/
theorem plan_oneFixPerFile_iff (around : Surroundings m) {view : DiskView m} {knowledge : Path}
    {book : RuleBook Float} {settings : Settings Float} {home : List Path.Component}
    {requested? : Option String} {found : List Diagnostic} {plan : Plan Float} {session planned : Session}
    {s t : σ}
    (lexical : ∀ p q, view.place s p = view.place s q → p.canonical home = q.canonical home)
    (ran : (Task.action
        (Plan.extend (diskEngine view.disk knowledge book settings) requested? .empty found)).runOn
          (session, s) = (.ok plan, (planned, t))) :
    (plan.steps.Pairwise fun a b => a.file.same b.file = false) ∧
      ∃ picked,
        ((Plan.picks (diskEngine view.disk knowledge book settings) requested? found).runOn
          (session.seen, s)).1 = .ok picked ∧
        (plan.OneFixPerFile home ↔ Plan.SpelledAlike home picked) ∧
        (plan.OneFixPerFile home →
          ∀ done a rest number outcomes session' t' text,
            plan.steps = done ++ a :: rest →
            view.place t knowledge ≠ view.place t a.file →
            view.place t (KnowledgeFile.lockPath knowledge) ≠ view.place t a.file →
            (applySteps around (diskEngine view.disk knowledge book settings) number done).runOn (planned, t) =
              (.ok outcomes, (session', t')) →
            (((view.beside (Table Float)).disk.editor.read a.file).runOn (session'.seen, t')).1 = .ok text →
            a.fix.Fits book a.diagnostic.normalize text) := by
  rw [Task.runOn_action, Plan.runOn_extend] at ran
  simp only [Prod.mk.injEq] at ran
  obtain ⟨chosen, rfl, rfl⟩ := ran
  rcases choosing : (Plan.picks (diskEngine view.disk knowledge book settings) requested? found).runOn
    (session.seen, s) with ⟨result, w⟩
  rw [choosing] at chosen
  cases result with
  | error e => simp [Except.map, Except.mapError] at chosen
  | ok picked =>
      simp only [Except.map, Except.mapError, Except.ok.injEq] at chosen
      subst chosen
      refine ⟨Plan.gather_distinct picked List.Pairwise.nil, picked, rfl,
        Plan.gather_oneFixPerFile_iff home picked, ?_⟩
      intro apart done a rest number outcomes session' t' text split unknown unlocked applied shown
      have spared : (diskEngine view.disk knowledge book settings).store.Spares
          (view.beside (Table Float)).files (view.place w.2) (view.place w.2 a.file) :=
        ⟨KnowledgeFile.get_stays knowledge, KnowledgeFile.put_stays unknown unlocked⟩
      have edits : (diskEngine view.disk knowledge book settings).editor? =
          some (view.beside (Table Float)).files.editor := rfl
      exact planned_fits edits lexical (KnowledgeFile.get_stays knowledge) choosing apart split spared applied
        shown

namespace Spelling

def tree : Tree :=
  ⟨[(["w"], .directory), (["w", "a.ts"], .file "let a;\nlet b;\nlet c;\n".toUTF8),
    (["w", "b.ts"], .file "let d;\nlet e;\n".toUTF8)], ["w"]⟩

def book : RuleBook Float :=
  (RuleBook.empty.extend (Catalog.rules.filter (·.id == "remove-unused-declaration"))).1

def engine : CommandEngine (StateM Tree) := diskEngine Tree.disk ⟨"kb.json"⟩ book .standard

def unused (file : String) (line : UInt32) : Diagnostic :=
  ⟨⟨file⟩, line, 5, "declared but never read", 6196, .warning, .genericError⟩

def plan (found : List Diagnostic) : Action (StateT (Table Float) (StateM Tree)) (Plan Float) :=
  Plan.extend engine none .empty found

def attempts (found : List Diagnostic) : Action (StateT (Table Float) (StateM Tree)) (List Outcome) := do
  (← plan found).steps.mapM fun a => engine.apply "" a.diagnostic a.fix

end Spelling

open Spelling in
theorem plan_oneFixPerFile_iff_two_files :
    ∃ session t found, (Task.action (plan [unused "a.ts" 1, unused "b.ts" 1])).runOn (⟨.empty, []⟩, tree) =
        (.ok found, (session, t)) ∧
      found.steps.map PlannedFix.file = [⟨"a.ts"⟩, ⟨"b.ts"⟩] ∧
      found.steps.Pairwise fun a b => a.file.same b.file = false := by
  have planned : (((Task.action (plan [unused "a.ts" 1, unused "b.ts" 1])).runOn
      (⟨.empty, []⟩, tree)).1.toOption.map fun found => found.steps.map PlannedFix.file) =
        some [⟨"a.ts"⟩, ⟨"b.ts"⟩] := by
    decide +kernel
  rcases ran : (Task.action (plan [unused "a.ts" 1, unused "b.ts" 1])).runOn (⟨.empty, []⟩, tree) with
    ⟨result, session, t⟩
  rw [ran] at planned
  obtain ⟨found, isFound, files⟩ := Option.map_eq_some_iff.mp planned
  cases Except.toOption_eq_some_iff.mp isFound
  have lexical : ∀ p q : Path, Tree.view.place tree p = Tree.view.place tree q →
      p.canonical [.root, .name "w"] = q.canonical [.root, .name "w"] := fun _ _ same => same
  have spec := plan_oneFixPerFile_iff ⟨Tree.disk, fun _ => default, fun _ => ""⟩ lexical ran
  exact ⟨session, t, found, ran, files, spec.1⟩

open Spelling in
/-- Two spellings of one file are two files to the plan; the second edit then takes away a line that nobody
reported. -/
theorem two_spellings_planned_twice :
    (∃ found session, (plan [unused "a.ts" 1, unused "./a.ts" 2]).runOn (.empty, tree) = (.ok found, session) ∧
        ¬ found.OneFixPerFile [.root, .name "w"]) ∧
      ((attempts [unused "a.ts" 1, unused "./a.ts" 2]).runOn (.empty, tree)).1.toOption.map
        (·.map (·.success)) = some [true, true] ∧
      (((attempts [unused "a.ts" 1, unused "./a.ts" 2]).runOn (.empty, tree)).2.2.read ⟨"a.ts"⟩).toOption =
        some "let b;\n".toUTF8 := by
  have planned : (((plan [unused "a.ts" 1, unused "./a.ts" 2]).runOn (.empty, tree)).1.toOption.map
      fun found => found.steps.map PlannedFix.file) = some [⟨"a.ts"⟩, ⟨"./a.ts"⟩] := by
    decide +kernel
  refine ⟨?_, by decide +kernel, by decide +kernel⟩
  rcases ran : (plan [unused "a.ts" 1, unused "./a.ts" 2]).runOn (.empty, tree) with ⟨result, session⟩
  rw [ran] at planned
  obtain ⟨found, isFound, files⟩ := Option.map_eq_some_iff.mp planned
  cases Except.toOption_eq_some_iff.mp isFound
  refine ⟨found, session, ran, ?_⟩
  intro apart
  have distinct : (found.steps.map PlannedFix.file).Pairwise fun a b =>
      a.canonical [.root, .name "w"] ≠ b.canonical [.root, .name "w"] := List.pairwise_map.mpr apart
  rw [files] at distinct
  revert distinct
  decide

end Command

end Remedy
