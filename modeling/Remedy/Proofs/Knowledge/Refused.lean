import Remedy.Proofs.Knowledge.Handles

/-! Knowledge files whose bytes can be looked at. Main statement: no step of a handle touches a file that is no
document, and a put that fails leaves the bytes of any file. -/

namespace Remedy

open World (Stays)

variable {m : Type → Type} [Monad m] {σ : Type} [World m σ]

namespace KnowledgeFile

/-- Bytes that are no document: no text, or a text that is neither blank nor a record of a version and entries, or a
record of another version. -/
inductive Rejected (bytes : ByteArray) : Prop
  | undecodable (none : String.fromUTF8? bytes = none)
  | shapeless {text : String} (decoded : String.fromUTF8? bytes = some text) (written : Text.isAllBlank text = false)
      (unshaped : (Json.scan? text).bind Table.fields? = none)
  | otherVersion {text : String} {version : UInt32} {entries : List (Entry Float)}
      (decoded : String.fromUTF8? bytes = some text) (written : Text.isAllBlank text = false)
      (shaped : (Json.scan? text).bind Table.fields? = some (version, entries)) (other : version ≠ Table.version)

def Keeps (bytes : σ → Option ByteArray) (s t : σ) : Prop := ∀ b, bytes s = some b → bytes t = some b

instance (bytes : σ → Option ByteArray) : IsPreorder σ (Keeps bytes) where
  refl _ _ there := there
  trans _ _ _ first second b there := second b (first b there)

/-- A disk on which one sees what the file holds. Any step may fail. The file that is there is not missed when it is
read, and only a replacement that succeeds changes what it holds. -/
structure Guards (f : KnowledgeFile m) (bytes : σ → Option ByteArray) : Prop where
  reads : ∀ s b, bytes s = some b → (World.step (f.disk.read f.path) s).1 = .ok b ∨
    ∃ e, e ≠ .missing ∧ (World.step (f.disk.read f.path) s).1 = .error e
  read_keeps : Stays (Keeps bytes) (f.disk.read f.path)
  kind_keeps : ∀ p, Stays (Keeps bytes) (f.disk.kind? p)
  directory_keeps : ∀ p, Stays (Keeps bytes) (f.disk.makeDirectory p)
  lock_keeps : Stays (Keeps bytes) (f.disk.touch (lockPath f.path))
  replace_fails : ∀ text s e, (World.step (f.disk.replace f.path text) s).1 = .error e →
    Keeps bytes s (World.step (f.disk.replace f.path text) s).2

/-- A step has been refused as one about the file or its lock. -/
def IsPersistence {β : Type} (result : Except Failure β) : Prop := ∃ path reason, result = .error (persistence path reason)

/-- The bytes that are rejected are those that no table can be read of. -/
theorem rejected_iff (path : Path) (bytes : ByteArray) :
    Rejected bytes ↔ IsPersistence (decode path (match String.fromUTF8? bytes with
      | some text => .ok text
      | none => .error .undecodable)) := by
  constructor
  · intro rejected
    cases rejected with
    | undecodable none =>
        rw [none]
        exact ⟨path, _, rfl⟩
    | shapeless decoded written unshaped =>
        rw [decoded]
        simp only [decode, Table.read, written, unshaped]
        exact ⟨path, _, rfl⟩
    | otherVersion decoded written shaped other =>
        rw [decoded]
        simp only [decode, Table.read, written, shaped, if_neg other]
        exact ⟨path, _, rfl⟩
  · rintro ⟨path', reason, refused⟩
    cases decoded : String.fromUTF8? bytes with
    | none => exact .undecodable decoded
    | some text =>
        rw [decoded] at refused
        simp only [decode, Table.read] at refused
        cases written : Text.isAllBlank text with
        | true => simp [written] at refused
        | false =>
            cases shaped : (Json.scan? text).bind Table.fields? with
            | none => exact .shapeless decoded written shaped
            | some found =>
                obtain ⟨version, entries⟩ := found
                by_cases other : version = Table.version
                · simp [written, shaped, other] at refused
                · exact .otherVersion decoded written shaped other

variable {f : KnowledgeFile m} {bytes : σ → Option ByteArray} {s : σ} {b : ByteArray}

theorem readText_cases (guards : f.Guards bytes) (there : bytes s = some b) :
    f.text s = (match String.fromUTF8? b with
      | some text => .ok text
      | none => .error .undecodable) ∨ ∃ e, e ≠ .missing ∧ f.text s = .error e := by
  unfold text Disk.readText
  rw [World.step_bind]
  rcases guards.reads s b there with read | ⟨e, unmissed, read⟩
  · left
    simp only [read]
    cases String.fromUTF8? b with
    | some text => simp only [World.step_pure]
    | none => simp only [World.step_pure]
  · right
    simp only [read, World.step_pure]
    exact ⟨e, unmissed, rfl⟩

theorem load_refuses (guards : f.Guards bytes) (there : bytes s = some b) (rejected : Rejected b) :
    IsPersistence (f.load.runOn s).1 := by
  rw [runOn_load_eq]
  rcases readText_cases guards there with read | ⟨e, unmissed, read⟩
  · rw [read]
    exact (rejected_iff f.path b).mp rejected
  · rw [read]
    cases e with
    | missing => exact absurd rfl unmissed
    | _ => exact ⟨f.path, _, rfl⟩

theorem load_keeps (guards : f.Guards bytes) : ExceptT.Stays (Keeps bytes) f.load := by
  refine (ExceptT.stays_lift (Disk.readText_stays guards.read_keeps)).bind ?_
  intro result
  exact Action.stays_ofExcept _

theorem parent_keeps (guards : f.Guards bytes) : World.Stays (Keeps bytes) (f.disk.makeParent f.path) :=
  Disk.makeParent_stays guards.kind_keeps guards.directory_keeps f.path

theorem Locks.keeps (guards : f.Guards bytes) {s' : σ} (locks : f.Locks s s') : Keeps bytes s s' := by
  obtain ⟨made, parent, opened⟩ := locks
  have first := parent_keeps guards s
  have second := guards.lock_keeps made
  rw [parent] at first
  rw [opened] at second
  exact IsTrans.trans _ _ _ first second

/-- An update that fails leaves the bytes, and one of bytes that are no document fails. -/
theorem update_keeps (guards : f.Guards bytes) (there : bytes s = some b)
    (merge : Table Float → Except Failure (Table Float)) :
    (Rejected b → IsPersistence ((f.update merge).runOn s).1) ∧
      ∀ e, ((f.update merge).runOn s).1 = .error e → bytes ((f.update merge).runOn s).2 = some b := by
  have ends := update_ends f merge s
  rcases ran : (f.update merge).runOn s with ⟨result, s'⟩
  rw [ran] at ends
  have loads : ∀ {held read : σ} {found : Except Failure (Table Float)}, f.Locks s held →
      f.load.runOn held = (found, read) → (Rejected b → IsPersistence found) ∧ bytes read = some b := by
    intro held read found locks loaded
    have kept := locks.keeps guards b there
    have refuses := load_refuses guards kept
    have still := load_keeps guards held b kept
    rw [loaded] at refuses still
    exact ⟨refuses, still⟩
  have accepted : ∀ {held read : σ} {t : Table Float}, f.Locks s held → f.load.runOn held = (.ok t, read) →
      ¬Rejected b := by
    intro held read t locks loaded rejected
    obtain ⟨path, reason, same⟩ := (loads locks loaded).1 rejected
    cases same
  cases ends with
  | directory made =>
      have parent := parent_keeps guards s b there
      rw [made] at parent
      exact ⟨fun _ => ⟨f.path, _, rfl⟩, fun _ _ => parent⟩
  | @lock e made s' parent opened =>
      have first := parent_keeps guards s b there
      rw [parent] at first
      have second := guards.lock_keeps made b first
      rw [opened] at second
      exact ⟨fun _ => ⟨lockPath f.path, _, rfl⟩, fun _ _ => second⟩
  | load locks loaded => exact ⟨(loads locks loaded).1, fun _ _ => (loads locks loaded).2⟩
  | merge locks loaded refused =>
      exact ⟨fun rejected => absurd rejected (accepted locks loaded), fun _ _ => (loads locks loaded).2⟩
  | replace locks loaded advanced replaced =>
      refine ⟨fun rejected => absurd rejected (accepted locks loaded), fun _ _ => ?_⟩
      have kept := guards.replace_fails _ _ _ (congrArg Prod.fst replaced) b (loads locks loaded).2
      rw [replaced] at kept
      exact kept
  | written locks loaded advanced replaced =>
      refine ⟨fun rejected => absurd rejected (accepted locks loaded), ?_⟩
      intro e failed
      cases failed

/-- A step of a handle that saw some table was refused as one about the file or its lock; the file holds what it held,
and the handle has seen nothing new. -/
structure Refused {β : Type} (bytes : σ → Option ByteArray) (b : ByteArray) (seen : Table Float)
    (ended : Except Failure β × (Table Float × σ)) : Prop where
  failed : IsPersistence ended.1
  kept : bytes ended.2.2 = some b
  unseen : ended.2.1 = seen

theorem Refused.of_seeing {β : Type} {step : Action m (β × Table Float)} {seen : Table Float}
    (failed : IsPersistence (step.runOn s).1) (kept : bytes (step.runOn s).2 = some b) :
    Refused bytes b seen ((seeing step).runOn (seen, s)) := by
  rw [runOn_seeing]
  rcases ran : step.runOn s with ⟨result, t⟩
  rw [ran] at failed kept
  obtain ⟨path, reason, same⟩ := failed
  cases same
  exact ⟨⟨path, reason, rfl⟩, kept, rfl⟩

theorem IsPersistence.bind {α β : Type} {step : Action m α} (failed : IsPersistence (step.runOn s).1)
    (next : α → Action m β) :
    IsPersistence ((step >>= next).runOn s).1 ∧ ((step >>= next).runOn s).2 = (step.runOn s).2 := by
  rw [ExceptT.runOn_bind]
  rcases ran : step.runOn s with ⟨result, t⟩
  rw [ran] at failed
  obtain ⟨path, reason, same⟩ := failed
  cases same
  exact ⟨⟨path, reason, rfl⟩, rfl⟩

/-- A step of a handle that ends in any error leaves what the file holds and what the handle has seen. -/
def Spared {β : Type} (bytes : σ → Option ByteArray) (b : ByteArray) (seen : Table Float)
    (ended : Except Failure β × (Table Float × σ)) : Prop :=
  ∀ failure, ended.1 = .error failure → bytes ended.2.2 = some b ∧ ended.2.1 = seen

theorem Spared.of_seeing {β : Type} {step : Action m (β × Table Float)} {seen : Table Float}
    (kept : ∀ e, (step.runOn s).1 = .error e → bytes (step.runOn s).2 = some b) :
    Spared bytes b seen ((seeing step).runOn (seen, s)) := by
  intro failure ended
  rw [runOn_seeing] at ended ⊢
  rcases ran : step.runOn s with ⟨result, t⟩
  rw [ran] at kept ended
  cases result with
  | ok done => simp at ended
  | error e => exact ⟨kept e rfl, rfl⟩

theorem seeing_update (guards : f.Guards bytes) (there : bytes s = some b) (seen : Table Float)
    (merge : Table Float → Except Failure (Table Float)) :
    (Rejected b → Refused bytes b seen ((seeing do return ((), ← f.update merge)).runOn (seen, s))) ∧
      Spared bytes b seen ((seeing do return ((), ← f.update merge)).runOn (seen, s)) := by
  obtain ⟨refuses, kept⟩ := update_keeps guards there merge
  have paired : ((do return ((), ← f.update merge)) : Action m (Unit × Table Float)).runOn s =
      (((f.update merge).runOn s).1.map fun t => ((), t), ((f.update merge).runOn s).2) := by
    rw [ExceptT.runOn_bind]
    rcases (f.update merge).runOn s with ⟨result, t⟩
    cases result with
    | ok merged => exact ExceptT.runOn_pure _ t
    | error e => rfl
  constructor
  · intro rejected
    obtain ⟨path, reason, refused⟩ := refuses rejected
    refine .of_seeing ?_ ?_
    · rw [paired, refused]
      exact ⟨path, reason, rfl⟩
    · rw [paired]
      exact kept _ refused
  · refine .of_seeing ?_
    rw [paired]
    intro e failed
    cases ended : ((f.update merge).runOn s).1 with
    | ok merged => simp [ended, Except.map] at failed
    | error e' => exact kept e' ended

/-- Of a file that is no document, opening it and every step of a handle is refused and leaves its bytes, whatever the
handle has seen before; and a step of a handle that fails on any file leaves its bytes. -/
theorem rejected_kept (guards : f.Guards bytes) (there : bytes s = some b) (seen : Table Float) (e : Entry Float) :
    (Rejected b →
      (IsPersistence (f.load.runOn s).1 ∧ bytes (f.load.runOn s).2 = some b) ∧
      (∀ signature, Refused bytes b seen ((f.get signature).runOn (seen, s))) ∧
      Refused bytes b seen (f.entries.runOn (seen, s)) ∧
      Refused bytes b seen ((f.put e).runOn (seen, s)) ∧
      Refused bytes b seen (f.flush.runOn (seen, s))) ∧
    Spared bytes b seen ((f.put e).runOn (seen, s)) ∧ Spared bytes b seen (f.flush.runOn (seen, s)) := by
  obtain ⟨putRefused, putSpared⟩ := seeing_update guards there seen (advance e)
  obtain ⟨flushRefused, flushSpared⟩ := seeing_update guards there seen fun t => .ok (t.merge seen)
  rw [flush_eq]
  refine ⟨?_, putSpared, flushSpared⟩
  intro rejected
  have failed := load_refuses guards there rejected
  have kept := load_keeps guards s b there
  refine ⟨⟨failed, kept⟩, ?_, ?_, putRefused rejected, flushRefused rejected⟩
  · intro signature
    obtain ⟨refused, same⟩ := failed.bind fun t => pure (t.get? signature, t)
    exact .of_seeing refused (same ▸ kept)
  · obtain ⟨refused, same⟩ := failed.bind fun t => pure (t.entries, t)
    exact .of_seeing refused (same ▸ kept)

end KnowledgeFile

namespace Tree

variable {t : Tree} {place q : Place} {p : Path} {bytes : ByteArray}

theorem follow_insert (free : t.node? place = none) (inner : place ≠ []) (n : Node) {base : Place}
    {pieces : List (List Char)} (found : t.follow base pieces = .ok q) :
    (t.insert place n).follow base pieces = .ok q := by
  induction pieces generalizing base with
  | nil => exact found
  | cons piece rest ih =>
      unfold follow at found ⊢
      obtain ⟨done, entered, found⟩ := Except.bind_eq_ok.mp found
      have apart : base ≠ place := by
        rintro rfl
        simp [enter, free] at entered
      have still : (t.insert place n).enter base = .ok done := by
        rw [← entered, enter, enter, node?_insert inner, if_neg apart]
      rw [still]
      simp only [bind, Except.bind]
      revert found
      split
      · exact ih
      · exact ih
      · exact ih
      · exact ih

theorem read_insert_free (free : t.node? place = none) (inner : place ≠ []) (n : Node) (read : t.read p = .ok bytes) :
    (t.insert place n).read p = .ok bytes := by
  obtain ⟨q, found, there⟩ := Except.bind_eq_ok.mp read
  have located : (t.insert place n).locate p = .ok q := by
    unfold locate at found ⊢
    cases named : p.isEmpty with
    | true => simp [named] at found
    | false =>
        simp only [named, Bool.false_eq_true, ↓reduceIte] at found ⊢
        exact follow_insert free inner n found
  have apart : q ≠ place := by
    rintro rfl
    rw [free] at there
    cases there
  rw [Tree.read, located]
  simp only [bind, Except.bind, node?_insert inner, if_neg apart]
  exact there

theorem guards (p : Path) : (⟨disk, p⟩ : KnowledgeFile (StateM Tree)).Guards fun t => (t.read p).toOption := by
  have kept : ∀ {t t' : Tree}, (∀ bytes, t.read p = .ok bytes → t'.read p = .ok bytes) →
      KnowledgeFile.Keeps (fun t => (t.read p).toOption) t t' := by
    intro t t' still b there
    exact Except.toOption_eq_some_iff.mpr (still b (Except.toOption_eq_some_iff.mp there))
  constructor
  case reads =>
    intro t b there
    exact .inl (by rw [← Except.toOption_eq_some_iff.mp there]; rfl)
  case read_keeps => exact fun t => kept fun _ read => read
  case kind_keeps => exact fun _ t => kept fun _ read => read
  case directory_keeps =>
    intro dir t
    change KnowledgeFile.Keeps _ t (World.step (change (·.makeDirectory dir)) t).2
    rw [step_change]
    cases made : t.makeDirectory dir with
    | error e => exact kept fun _ read => read
    | ok t' =>
        obtain ⟨place, inner, free, rfl⟩ := makeDirectory_ok made
        exact kept fun _ read => read_insert_free free inner _ read
  case lock_keeps =>
    intro t
    change KnowledgeFile.Keeps _ t (World.step (change (·.touch _)) t).2
    rw [step_change]
    cases touched : t.touch (KnowledgeFile.lockPath p) with
    | error e => exact kept fun _ read => read
    | ok t' =>
        obtain ⟨place, found, made⟩ := Except.bind_eq_ok.mp touched
        obtain ⟨inner, -⟩ := writable_ok found
        cases made
        cases free : t.node? place with
        | some n => exact kept fun _ read => read
        | none => exact kept fun _ read => read_insert_free free inner _ read
  case replace_fails =>
    intro text t e failed
    change (World.step (change (·.replace p text)) t).1 = _ at failed
    change KnowledgeFile.Keeps _ t (World.step (change (·.replace p text)) t).2
    rw [step_change] at failed ⊢
    cases replaced : t.replace p text with
    | error e => exact kept fun _ read => read
    | ok t' => simp [replaced] at failed

end Tree

section Samples

open KnowledgeFile (Rejected Refused)
open Sharing (kept holding learnt one kept_lawful)

def garbage : String := "not json"

def later : String := "\x7b\"version\": 7, \"entries\": []\x7d"

theorem garbage_rejected : Rejected garbage.toUTF8 :=
  .shapeless (Tree.fromUTF8?_toUTF8 _) rfl (Option.isNone_iff_eq_none.mp rfl)

theorem later_rejected : Rejected later.toUTF8 := by
  have shaped : (Json.scan? later).bind Table.fields? = some (7, []) := rfl
  exact .otherVersion (Tree.fromUTF8?_toUTF8 _) rfl shaped (by decide)

def missed : Entry Float := { learnt with observed := 0 }

theorem missed_conflicts (seen : Table Float) :
    ∃ failure, ((kept.put missed).runOn (seen, holding one.toText)).1 = .error failure := by
  have there : kept.table (holding one.toText) = .ok one := by
    rw [KnowledgeFile.table, Sharing.load_holding Sharing.one_legible]
  obtain ⟨s', ⟨reason, failed, -⟩ | ⟨merged, advanced, -⟩⟩ :=
    KnowledgeFile.put_cases kept_lawful there missed seen
  · exact ⟨reason, by rw [failed]⟩
  · have stale : one.advance? missed = none := rfl
    simp [stale] at advanced

/-- Neither a flush nor a put touches what is no document, and a stale put leaves the one that is there. -/
theorem rejected_kept_samples :
    Refused (fun t : Tree => (t.read kept.path).toOption) garbage.toUTF8 one (kept.flush.runOn (one, holding garbage)) ∧
    Refused (fun t : Tree => (t.read kept.path).toOption) later.toUTF8 .empty
      ((kept.put learnt).runOn (.empty, holding later)) ∧
    ∃ failure, ((kept.put missed).runOn (one, holding one.toText)).1 = .error failure ∧
      (((kept.put missed).runOn (one, holding one.toText)).2.2.read kept.path).toOption = some one.toText.toUTF8 := by
  have guards := Tree.guards kept.path
  obtain ⟨-, -, -, -, flushed⟩ :=
    (KnowledgeFile.rejected_kept guards (s := holding garbage) rfl one learnt).1 garbage_rejected
  obtain ⟨-, -, -, put, -⟩ :=
    (KnowledgeFile.rejected_kept guards (s := holding later) rfl .empty learnt).1 later_rejected
  obtain ⟨failure, failed⟩ := missed_conflicts one
  have spared := (KnowledgeFile.rejected_kept guards (s := holding one.toText) (b := one.toText.toUTF8) rfl one missed).2.1
  exact ⟨flushed, put, failure, failed, (spared failure failed).1⟩

end Samples

end Remedy
