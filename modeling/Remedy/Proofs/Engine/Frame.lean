import Remedy.Engine
import Remedy.Proofs.Engine.Preview
import Remedy.Proofs.Knowledge.Taught

/-! What the calls of an engine leave alone. Main statement: in any run of calls over memory, learning changes no more
than the entry of its diagnostic, applying no more than the file of its diagnostic, and everything else nothing. -/

namespace Remedy

namespace Engine

open ExceptT (Stays)

section Staying

variable {m : Type → Type} [Monad m] {σ : Type} [World m σ] {α : Type} [Scalar α] {R : σ → σ → Prop} [IsPreorder σ R]
  {e : Engine m α}

omit [Scalar α] in
theorem withEditor_stays {β : Type} {step : Editor m → Action m β} (steps : ∀ editor ∈ e.editor?, Stays R (step editor)) :
    Stays R (e.withEditor step) := by
  unfold withEditor
  cases edits : e.editor? with
  | none => exact ExceptT.stays_throw _
  | some editor => exact steps editor edits

theorem analyze_stays (gets : ∀ signature, Stays R (e.store.get signature)) (d : Diagnostic) (batch : List Diagnostic) :
    Stays R (e.analyze d batch) := by
  refine (Action.stays_ofDomain _).bind fun valid => ?_
  refine (gets _).bind fun past? => ?_
  exact ExceptT.stays_pure _

omit [Scalar α] in
theorem similar_stays (lists : Stays R e.store.entries) (signature : Signature) : Stays R (e.similar signature) :=
  lists.bind fun _ => ExceptT.stays_pure _

theorem statistics_stays (lists : Stays R e.store.entries) : Stays R e.statistics :=
  lists.bind fun _ => ExceptT.stays_pure _

omit [Scalar α] in
theorem entries_stays (lists : Stays R e.store.entries) : Stays R e.entries :=
  lists.bind fun _ => ExceptT.stays_pure _

omit [Scalar α] in
theorem preview_stays (reads : ∀ editor ∈ e.editor?, ∀ path, Stays R (editor.read path)) (d : Diagnostic) (fix : Fix α) :
    Stays R (e.preview d fix) :=
  (withEditor_stays fun editor own => Fix.preview_stays (reads editor own d.file) fix).bind fun _ =>
    ExceptT.stays_pure _

theorem comprehensive_stays (gets : ∀ signature, Stays R (e.store.get signature)) (lists : Stays R e.store.entries)
    (reads : ∀ editor ∈ e.editor?, ∀ path, Stays R (editor.read path)) (d : Diagnostic) (batch : List Diagnostic) :
    Stays R (e.comprehensive d batch) := by
  refine (analyze_stays gets d batch).bind fun analysis => ?_
  refine (Suggest.fixes_stays e.book e.settings.blend d reads gets).bind fun fixes => ?_
  refine (similar_stays lists _).bind fun similar => ?_
  exact ExceptT.stays_pure _

end Staying

inductive Call where
  | classify (d : Diagnostic)
  | analyze (d : Diagnostic) (batch : List Diagnostic)
  | suggest (d : Diagnostic)
  | comprehensive (d : Diagnostic) (batch : List Diagnostic)
  | preview (d : Diagnostic) (fix : Fix Float)
  | entry (signature : Signature)
  | entries
  | similar (signature : Signature)
  | statistics
  | flush
  | learn (clock : Nat → Instant) (d : Diagnostic) (r : Resolution)
  | recordOutcome (clock : Nat → Instant) (d : Diagnostic) (fix : Fix Float) (o : Outcome)
  | apply (id : String) (d : Diagnostic) (fix : Fix Float)

namespace Call

variable {m : Type → Type} [Monad m]

def forget {β : Type} (step : Action m β) : Action m Unit := (fun _ => ()) <$> step

theorem runOn_forget {σ : Type} [World m σ] {β : Type} (step : Action m β) (s : σ) :
    ((forget step).runOn s).2 = (step.runOn s).2 := by
  rw [forget, ExceptT.runOn_map]

def run (e : Engine m Float) : Call → Action m Unit
  | .classify d => forget (pure (e.classify d))
  | .analyze d batch => forget (e.analyze d batch)
  | .suggest d => forget (e.suggest d)
  | .comprehensive d batch => forget (e.comprehensive d batch)
  | .preview d fix => forget (e.preview d fix)
  | .entry signature => forget (e.entry signature)
  | .entries => forget e.entries
  | .similar signature => forget (e.similar signature)
  | .statistics => forget e.statistics
  | .flush => e.flush
  | .learn clock d r => forget (e.learn clock d r)
  | .recordOutcome clock d fix o => forget (e.recordOutcome clock d fix o)
  | .apply id d fix => forget (e.apply id d fix)

def signatures : Call → List Signature
  | .learn _ d _ | .recordOutcome _ d _ _ => [d.normalize.signature]
  | _ => []

def paths : Call → List Path
  | .apply _ d _ => [d.file]
  | _ => []

end Call

def session {m : Type → Type} [Monad m] {σ : Type} [World m σ] (e : Engine m Float) (s : σ) (calls : List Call) : σ :=
  calls.foldl (fun s call => ((call.run e).runOn s).2) s

end Engine

namespace Table

variable {α : Type} {signatures : List Signature} {t t' t'' : Table α}

/-- Entries of other signatures are the same, in the same order. -/
def SameBut (signatures : List Signature) (t t' : Table α) : Prop :=
  (t'.entries.filter fun e => !signatures.contains e.signature) =
    t.entries.filter fun e => !signatures.contains e.signature

theorem SameBut.refl : SameBut signatures t t := Eq.refl _

theorem SameBut.trans (first : SameBut signatures t t') (second : SameBut signatures t' t'') :
    SameBut signatures t t'' := Eq.trans second first

theorem SameBut.mono (same : SameBut signatures t t') {more : List Signature} (within : signatures ⊆ more) :
    SameBut more t t' := by
  have narrowed : ∀ entries : List (Entry α), (entries.filter fun e => !more.contains e.signature) =
      (entries.filter fun e => !signatures.contains e.signature).filter fun e => !more.contains e.signature := by
    intro entries
    rw [List.filter_filter]
    refine List.filter_congr fun e _ => ?_
    by_cases own : e.signature ∈ signatures
    · simp [own, within own]
    · simp [own]
  unfold SameBut at same ⊢
  rw [narrowed, same, ← narrowed]

theorem SameBut.get? (same : SameBut signatures t t') {signature : Signature} (other : signature ∉ signatures) :
    t'.get? signature = t.get? signature := by
  have found : ∀ entries : List (Entry α), entries.find? (·.signature == signature) =
      (entries.filter fun e => !signatures.contains e.signature).find? (·.signature == signature) := by
    intro entries
    rw [List.find?_filter]
    refine congrArg (fun p => entries.find? p) (funext fun e => ?_)
    by_cases own : e.signature = signature
    · simp [own, other]
    · simp [own]
  rw [Table.get?, Table.get?, found, same, ← found]

theorem insertInto_sameBut {e : Entry α} {entries : List (Entry α)} (own : e.signature ∈ signatures) :
    SameBut signatures ⟨entries⟩ ⟨insertInto e entries⟩ := by
  unfold SameBut
  simp only
  induction entries with
  | nil => simp [insertInto, own]
  | cons f rest ih =>
      unfold insertInto
      cases order : e.signature.compare f.signature with
      | lt => simp [own]
      | eq =>
          have same := (Signature.compare_eq_eq_iff _ _).mp order
          simp [own, ← same]
      | gt => simp only [List.filter_cons, ih]

end Table

namespace MemoryFiles

variable {paths : List Path} {files files' files'' : MemoryFiles}

def SameBut (paths : List Path) (files files' : MemoryFiles) : Prop :=
  ∀ path, (∀ own ∈ paths, own.same path = false) → files'.content? path = files.content? path

theorem SameBut.refl : SameBut paths files files := fun _ _ => rfl

theorem SameBut.trans (first : SameBut paths files files') (second : SameBut paths files' files'') :
    SameBut paths files files'' :=
  fun path other => (second path other).trans (first path other)

theorem SameBut.mono (same : SameBut paths files files') {more : List Path} (within : paths ⊆ more) :
    SameBut more files files' :=
  fun path other => same path fun own listed => other own (within listed)

theorem write_sameBut (path : Path) (text : Buffer) (files : MemoryFiles) :
    SameBut [path] files ((editor.write path text).runOn files).2 := by
  intro other apart
  have elsewhere : other.components ≠ path.components := by
    have distinct := apart path List.mem_cons_self
    intro same
    rw [Path.same, same, beq_self_eq_true] at distinct
    cases distinct
  rw [content?_eq, content?_eq]
  exact view.write_elsewhere path text files other.components elsewhere

end MemoryFiles

namespace Suggest.Bench

open ExceptT (Stays Matches)

def engine (book : RuleBook Float) (settings : Settings Float) (editing : Bool) : Engine (StateM Bench) Float :=
  ⟨store, book, if editing then some files.editor else none, settings⟩

theorem get_stays (signature : Signature) : Stays Eq (store.get signature) := fun _ => rfl

theorem entries_stays : Stays Eq store.entries := fun _ => rfl

theorem read_stays (path : Path) : Stays Eq (files.editor.read path) := by
  intro w
  have kept : ((MemoryFiles.editor.read path).runOn w.2).2 = w.2 := by rw [MemoryFiles.runOn_read]
  exact Prod.ext rfl kept.symm

theorem reads_stay {book : RuleBook Float} {settings : Settings Float} {editing : Bool} :
    ∀ editor ∈ (engine book settings editing).editor?, ∀ path, Stays Eq (editor.read path) := by
  intro editor own path
  cases editing with
  | true =>
      cases own
      exact read_stays path
  | false => cases own

theorem learn_runOn (clock : Nat → Instant) (d : Diagnostic) (r : Resolution) (w : Bench) :
    (store.learn clock d r).runOn w =
      (((MemoryKnowledge.store.learn clock d r).runOn w.1).1,
        (((MemoryKnowledge.store.learn clock d r).runOn w.1).2, w.2)) := by
  have beside : ∀ {β : Type} (step : Action (StateM (MemoryKnowledge Float)) β),
      Matches (fun (v : Bench) kb => v.1 = kb ∧ v.2 = w.2) Eq (step.lifted onKnowledge) step := by
    rintro β step v _ ⟨rfl, kept⟩
    rw [runOn_onKnowledge]
    exact ⟨Except.alike_eq_iff.mpr rfl, rfl, kept⟩
  have alike : Matches (fun (v : Bench) kb => v.1 = kb ∧ v.2 = w.2) Eq (store.learn clock d r)
      (MemoryKnowledge.store.learn clock d r) :=
    Store.learn_matches (fun signature => beside (MemoryKnowledge.store.get signature))
      (fun e => beside (MemoryKnowledge.store.put e)) clock d r
  obtain ⟨result, knowledge, rest⟩ := alike w w.1 ⟨rfl, rfl⟩
  exact Prod.ext (Except.alike_eq_iff.mp result) (Prod.ext knowledge rest)

theorem learn_framed (clock : Nat → Instant) (d : Diagnostic) (r : Resolution) (w : Bench) :
    w.1.table.SameBut [d.normalize.signature] ((store.learn clock d r).runOn w).2.1.table ∧
      ((store.learn clock d r).runOn w).2.2 = w.2 := by
  rw [learn_runOn]
  refine ⟨?_, rfl⟩
  rcases ran : (MemoryKnowledge.store.learn clock d r).runOn w.1 with ⟨result, kb⟩
  have recorded := MemoryKnowledge.learn_recorded ran
  cases result with
  | ok e =>
      obtain ⟨now, table, -⟩ := recorded
      rw [table]
      exact Table.insertInto_sameBut (List.mem_singleton.mpr (Table.signature_recorded _ _ _ _))
  | error failure =>
      have kept : kb.table = w.1.table := recorded
      rw [kept]
      exact .refl

def KeptBut (path : Path) (w w' : Bench) : Prop := w'.1 = w.1 ∧ w.2.SameBut [path] w'.2

instance (path : Path) : IsPreorder Bench (KeptBut path) where
  refl _ := ⟨rfl, .refl⟩
  trans _ _ _ first second := ⟨second.1.trans first.1, first.2.trans second.2⟩

theorem apply_framed (fix : Fix Float) (id : String) (d : Diagnostic) :
    Stays (KeptBut d.file) (fix.apply files.editor id d) := by
  have reads : Stays (KeptBut d.file) (files.editor.read d.file) :=
    (read_stays d.file).mono fun _ _ same => same ▸ Std.Refl.refl _
  exact Fix.apply_stays reads (fun text w => ⟨rfl, MemoryFiles.write_sameBut d.file text w.2⟩) id fix

end Suggest.Bench

namespace Engine

open Suggest (Bench)
open ExceptT (Stays)

/-- What a call leaves alone: learning all files and all entries but one, applying all entries and all files but one,
and any other call everything. -/
def Call.Framed (w w' : Bench) : Call → Prop
  | .learn _ d _ | .recordOutcome _ d _ _ => w'.2 = w.2 ∧ w.1.table.SameBut [d.normalize.signature] w'.1.table
  | .apply _ d _ => Bench.KeptBut d.file w w'
  | _ => w' = w

/-- Whatever state a call is made in, and whether it succeeds or fails, it leaves alone what it has to. -/
theorem run_framed (book : RuleBook Float) (settings : Settings Float) (editing : Bool) (call : Call) (w : Bench) :
    call.Framed w ((call.run (Bench.engine book settings editing)).runOn w).2 := by
  have idle : ∀ {β : Type} {step : Action (StateM Bench) β}, Stays Eq step →
      ((Call.forget step).runOn w).2 = w := by
    intro β step stays
    rw [Call.runOn_forget]
    exact (stays w).symm
  cases call with
  | classify d => exact idle (ExceptT.stays_pure _)
  | analyze d batch => exact idle (analyze_stays Bench.get_stays d batch)
  | suggest d => exact idle (Suggest.fixes_stays book settings.blend d Bench.reads_stay Bench.get_stays)
  | comprehensive d batch =>
      exact idle (comprehensive_stays Bench.get_stays Bench.entries_stays Bench.reads_stay d batch)
  | preview d fix => exact idle (preview_stays Bench.reads_stay d fix)
  | entry signature => exact idle (Bench.get_stays signature)
  | entries => exact idle (entries_stays Bench.entries_stays)
  | similar signature => exact idle (similar_stays Bench.entries_stays signature)
  | statistics => exact idle (statistics_stays Bench.entries_stays)
  | flush => rfl
  | learn clock d r =>
      obtain ⟨entries, files⟩ := Bench.learn_framed clock d r w
      rw [Call.run, Call.runOn_forget]
      exact ⟨files, entries⟩
  | recordOutcome clock d fix o =>
      obtain ⟨entries, files⟩ := Bench.learn_framed clock d (o.toResolution d fix) w
      rw [Call.run, Call.runOn_forget]
      exact ⟨files, entries⟩
  | apply id d fix =>
      rw [Call.run, Call.runOn_forget]
      cases editing with
      | true => exact Bench.apply_framed fix id d w
      | false => exact ⟨rfl, .refl⟩

theorem Call.Framed.sameBut {call : Call} {w w' : Bench} (framed : call.Framed w w') :
    w.1.table.SameBut call.signatures w'.1.table ∧ w.2.SameBut call.paths w'.2 := by
  have idle : w' = w → w.1.table.SameBut [] w'.1.table ∧ w.2.SameBut [] w'.2 := by
    rintro rfl
    exact ⟨.refl, .refl⟩
  cases call with
  | learn clock d r | recordOutcome clock d fix o =>
      obtain ⟨files, entries⟩ := framed
      exact ⟨entries, files ▸ .refl⟩
  | apply id d fix =>
      obtain ⟨knowledge, files⟩ := framed
      exact ⟨knowledge ▸ .refl, files⟩
  | _ => exact idle framed

/-- Each call of a run leaves alone what it has to, in the state it is made in. -/
def EachFramed (e : Engine (StateM Bench) Float) (w : Bench) : List Call → Prop
  | [] => True
  | call :: rest => call.Framed w ((call.run e).runOn w).2 ∧ EachFramed e ((call.run e).runOn w).2 rest

/-- In every run of calls over memory, whether they succeed or fail, each call leaves alone what it has to, and what no
call was about is in the end as it was. -/
theorem session_framed (book : RuleBook Float) (settings : Settings Float) (editing : Bool) (calls : List Call)
    (w : Bench) :
    EachFramed (Bench.engine book settings editing) w calls ∧
      w.1.table.SameBut (calls.flatMap Call.signatures) (session (Bench.engine book settings editing) w calls).1.table ∧
      w.2.SameBut (calls.flatMap Call.paths) (session (Bench.engine book settings editing) w calls).2 := by
  induction calls generalizing w with
  | nil => exact ⟨trivial, .refl, .refl⟩
  | cons call rest ih =>
      have framed := run_framed book settings editing call w
      obtain ⟨entries, files⟩ := framed.sameBut
      obtain ⟨each, entries', files'⟩ := ih ((call.run (Bench.engine book settings editing)).runOn w).2
      rw [List.flatMap_cons, List.flatMap_cons]
      exact ⟨⟨framed, each⟩,
        (entries.mono (List.subset_append_left _ _)).trans (entries'.mono (List.subset_append_right _ _)),
        (files.mono (List.subset_append_left _ _)).trans (files'.mono (List.subset_append_right _ _))⟩

end Engine

end Remedy
