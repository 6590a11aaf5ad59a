import Remedy.Proofs.Diagnostic.Classify
import Remedy.Proofs.Engine.Frame

/-! The entry that belongs to a diagnostic. Main statement: a diagnostic and the one with its category resolved share
one entry, which is all that is read and all that is written for either of them. -/

namespace Remedy

namespace Resolution

theorem validateFor_normalize {d : Diagnostic} (valid : d.validate = .ok ()) (r : Resolution) :
    validateFor d.normalize r = validateFor d r := by
  unfold validateFor
  rw [valid, Diagnostic.validate_normalize valid]
  rfl

end Resolution

namespace Store

section Agreeing

variable {m : Type → Type} [Monad m] {σ : Type} [World m σ] {α : Type} [Scalar α] {signature : Signature}
  {store other : Store m α}

structure AgreeAt (signature : Signature) (store other : Store m α) : Prop where
  get : store.get signature = other.get signature
  put : ∀ e, e.signature = signature → store.put e = other.put e
  own : ∀ s e s', (store.get signature).runOn s = (.ok (some e), s') → e.signature = signature

theorem AgreeAt.own_record (agree : AgreeAt signature store other) {s s' : σ} {found? : Option (Entry α)}
    (got : (store.get signature).runOn s = (.ok found?, s')) (r : Resolution) (now : Instant) :
    ((found?.getD (Entry.new signature now)).record r now).signature = signature := by
  refine signature_renewed ?_ r now
  rintro e rfl
  exact agree.own s e s' got

theorem learnRound_agree (agree : AgreeAt signature store other) (r : Resolution) (now : Instant) (s : σ) :
    (store.learnRound signature r now).runOn s = (other.learnRound signature r now).runOn s := by
  unfold learnRound
  rw [ExceptT.runOn_bind, ExceptT.runOn_bind, ← agree.get]
  rcases got : (store.get signature).runOn s with ⟨found, s'⟩
  cases found with
  | error e => rfl
  | ok found? =>
      rw [ExceptT.andThen_ok, ExceptT.andThen_ok]
      dsimp only
      rw [agree.put _ (agree.own_record got r now)]

theorem learnFrom_agree (agree : AgreeAt signature store other) (r : Resolution) (clock : Nat → Instant)
    (left round : Nat) (s : σ) : (store.learnFrom signature r clock left round).runOn s =
      (other.learnFrom signature r clock left round).runOn s := by
  induction left generalizing round s with
  | zero => exact learnRound_agree agree r (clock round) s
  | succ left ih =>
      unfold learnFrom
      rw [ExceptT.runOn_bind, ExceptT.runOn_bind, ← agree.get]
      rcases got : (store.get signature).runOn s with ⟨found, s'⟩
      cases found with
      | error e => rfl
      | ok found? =>
          rw [ExceptT.andThen_ok, ExceptT.andThen_ok]
          dsimp only
          rw [← agree.put _ (agree.own_record got r (clock round)), ExceptT.runOn_bind, ExceptT.runOn_bind,
            Action.runOn_attempt, ExceptT.andThen_ok, ExceptT.andThen_ok]
          split
          · exact ih (round + 1) _
          · rfl

theorem learn_agree {d : Diagnostic} (agree : AgreeAt d.normalize.signature store other) (clock : Nat → Instant)
    (r : Resolution) (s : σ) : (store.learn clock d r).runOn s = (other.learn clock d r).runOn s := by
  unfold learn
  rw [ExceptT.runOn_bind, ExceptT.runOn_bind]
  cases Resolution.validateFor d r with
  | error e => simp
  | ok _ => simpa using learnFrom_agree agree r clock _ 0 s

end Agreeing

def showing {m : Type → Type} [Monad m] {α : Type} (known : Entry α) : Store m α where
  get _ := pure (some known)
  put _ := pure ()
  entries := pure [known]
  flush := pure ()

end Store

/-- All that is read of a store for suggestions is one entry. -/
theorem Suggest.fixes_showing {m : Type → Type} [Monad m] {σ : Type} [World m σ] {α : Type} [Scalar α]
    {store : Store m α} {book : RuleBook α} {editor? : Option (Editor m)} {policy : BlendPolicy α} {d : Diagnostic}
    {s : σ} {known : Entry α} (still : ExceptT.Stays Eq (sourceFor book editor? d.normalize))
    (got : (store.get d.normalize.signature).runOn s = (.ok (some known), s)) :
    (fixes store book editor? policy d).runOn s = (fixes (.showing known) book editor? policy d).runOn s := by
  unfold fixes
  rw [ExceptT.runOn_bind, ExceptT.runOn_bind]
  cases d.validate with
  | error flaw => simp
  | ok _ =>
      rw [Action.runOn_ofDomain_ok, ExceptT.andThen_ok, ExceptT.andThen_ok]
      dsimp only
      rw [ExceptT.runOn_bind, ExceptT.runOn_bind]
      have same := still s
      rcases looked : (sourceFor book editor? d.normalize).runOn s with ⟨source?, s'⟩
      rw [looked] at same
      subst same
      cases source? with
      | error e => rfl
      | ok source? =>
          rw [ExceptT.andThen_ok, ExceptT.andThen_ok, ExceptT.runOn_bind, ExceptT.runOn_bind]
          cases book.matchingFixes d.normalize source? with
          | error e => simp
          | ok ruleFixes =>
              have shown : ((Store.showing known).get d.normalize.signature : Action m _).runOn s =
                  (.ok (some known), s) := ExceptT.runOn_pure _ _
              rw [Action.runOn_ofDomain_ok, ExceptT.andThen_ok, ExceptT.andThen_ok, ExceptT.runOn_bind,
                ExceptT.runOn_bind, got, shown]

namespace Engine

open Suggest (Bench)

def withStore {m : Type → Type} {α : Type} (e : Engine m α) (other : Store m α) : Engine m α :=
  { e with store := other }

/-- Where two stores agree on one entry, an engine over one does for a diagnostic what it does over the other. -/
structure KeptAt (signature : Signature) (d : Diagnostic) : Prop where
  analyze : ∀ {m : Type → Type} [Monad m] {σ : Type} [World m σ] {α : Type} [Scalar α] (e : Engine m α)
    (other : Store m α), Store.AgreeAt signature e.store other → ∀ (batch : List Diagnostic),
    (e.withStore other).analyze d batch = e.analyze d batch
  suggest : ∀ {m : Type → Type} [Monad m] {σ : Type} [World m σ] {α : Type} [Scalar α] (e : Engine m α)
    (other : Store m α), Store.AgreeAt signature e.store other → (e.withStore other).suggest d = e.suggest d
  learn : ∀ {m : Type → Type} [Monad m] {σ : Type} [World m σ] {α : Type} [Scalar α] (e : Engine m α)
    (other : Store m α), Store.AgreeAt signature e.store other → ∀ (clock : Nat → Instant) (r : Resolution) (s : σ),
    ((e.withStore other).learn clock d r).runOn s = (e.learn clock d r).runOn s

theorem keptAt (d : Diagnostic) : KeptAt d.normalize.signature d where
  analyze e other agree batch := by
    unfold Engine.analyze Store.analyze withStore
    rw [agree.get]
  suggest e other agree := by
    unfold Engine.suggest Suggest.fixes withStore
    dsimp only
    rw [agree.get]
  learn e other agree clock r s := (Store.learn_agree agree clock r s).symm

structure Alike (d twin : Diagnostic) : Prop where
  suggest : ∀ {m : Type → Type} [Monad m] {α : Type} [Scalar α] (e : Engine m α), e.suggest twin = e.suggest d
  learn : ∀ {m : Type → Type} [Monad m] {α : Type} [Scalar α] (e : Engine m α) (clock : Nat → Instant) (r : Resolution),
    e.learn clock twin r = e.learn clock d r

theorem alike_normalize {d : Diagnostic} (valid : d.validate = .ok ()) : Alike d d.normalize where
  suggest e := by
    unfold Engine.suggest Suggest.fixes
    rw [valid, Diagnostic.validate_normalize valid, Diagnostic.normalize_normalize]
  learn e clock r := by
    unfold Engine.learn Store.learn
    rw [Resolution.validateFor_normalize valid, Diagnostic.normalize_normalize]

section Benches

variable {book : RuleBook Float} {settings : Settings Float} {editing : Bool} {w w' : Bench} {d : Diagnostic}
  {known : Entry Float}

/-- What an engine makes of a diagnostic for which it has learned this entry. -/
structure Recalls (e : Engine (StateM Bench) Float) (w : Bench) (d : Diagnostic) (known : Entry Float) : Prop where
  analyze : ∀ batch, (e.analyze d batch).runOn w =
    (.ok (Analysis.ofDiagnostic e.settings.relatedLineWindow d batch (some known)), w)
  suggest : (e.suggest d).runOn w = ((e.withStore (.showing known)).suggest d).runOn w
  learn : ∀ clock r later w', (e.learn clock d r).runOn w = (.ok later, w') → ∃ now, later = known.record r now

/-- What learning changes: one entry, which has the report in it now. -/
structure Updates (signature : Signature) (r : Resolution) (w : Bench) (entry : Entry Float) (w' : Bench) : Prop where
  recorded : ∃ now, entry = ((w.1.table.get? signature).getD (Entry.new signature now)).record r now
  there : w'.1.table.get? signature = some entry
  others : ∀ other ≠ signature, w'.1.table.get? other = w.1.table.get? other
  files : w'.2 = w.2

theorem get_runOn (reached : w.1.broken = false) (signature : Signature) :
    (Bench.store.get signature).runOn w = (.ok (w.1.table.get? signature), w) := by
  obtain ⟨kb, files⟩ := w
  change ((if kb.broken then _ else _), (kb, files)) = _
  rw [reached]
  rfl

theorem learn_updates {clock : Nat → Instant} {r : Resolution} {entry : Entry Float}
    (ran : (Bench.store.learn clock d r).runOn w = (.ok entry, w')) :
    Updates d.normalize.signature r w entry w' ∧ w'.1.broken = false := by
  rw [Bench.learn_runOn] at ran
  rcases learned : (MemoryKnowledge.store.learn clock d r).runOn w.1 with ⟨result, kb⟩
  rw [learned] at ran
  cases ran
  obtain ⟨now, table, there⟩ := MemoryKnowledge.learn_recorded learned
  refine ⟨⟨⟨now, ?_⟩, there, fun other apart => ?_, rfl⟩, MemoryKnowledge.reached_of_learn learned⟩
  · rw [table, Table.get?_record] at there
    exact (Option.some.inj there).symm
  · have own := Table.signature_recorded w.1.table d.normalize.signature r now
    exact table ▸ (Table.get?_insert _ _ other).trans (if_neg fun same => apart (same.symm.trans own))

theorem recalls (valid : d.validate = .ok ()) (reached : w.1.broken = false)
    (found : w.1.table.get? d.normalize.signature = some known) :
    Recalls (Bench.engine book settings editing) w d known where
  analyze batch := by
    unfold Engine.analyze Store.analyze
    have got : ((Bench.engine book settings editing).store.get d.normalize.signature).runOn w = (.ok (some known), w) :=
      found ▸ get_runOn reached d.normalize.signature
    rw [ExceptT.runOn_bind, valid, Action.runOn_ofDomain_ok, ExceptT.andThen_ok, ExceptT.runOn_bind, got]
    exact ExceptT.runOn_pure _ _
  suggest :=
    Suggest.fixes_showing (Suggest.sourceFor_stays book d.normalize Bench.reads_stay) (found ▸ get_runOn reached _)
  learn clock r later w' ran := by
    obtain ⟨now, recorded⟩ := (learn_updates ran).1.recorded
    rw [found] at recorded
    exact ⟨now, recorded⟩

theorem learn_takes {clock : Nat → Instant} {r : Resolution} (accepted : Resolution.validateFor d r = .ok ())
    (reached : w.1.broken = false) (quiet : w.1.conflicts = 0) :
    ∃ entry w', (Bench.store.learn clock d r).runOn w = (.ok entry, w') := by
  obtain ⟨⟨table, conflicts, broken⟩, files⟩ := w
  cases reached
  cases quiet
  rw [Bench.learn_runOn, MemoryKnowledge.learn_reached accepted]
  exact ⟨_, _, rfl⟩

/-- A resolved category stays as it is, and nothing else is changed with it. So a valid diagnostic and the one with its
category resolved have one entry between them: whichever is learned from, that entry is updated, and whichever is asked
about, that entry is read. -/
theorem entry_shared (d : Diagnostic) :
    d.normalize.normalize = d.normalize ∧ (∃ c, d.normalize = { d with category := c }) ∧
      (d.classify = .unusedCode → d.severity = .warning) ∧
      (d.validate = .ok () → d.normalize.validate = .ok () ∧
        ∀ twin ∈ [d, d.normalize], Alike d twin ∧ KeptAt d.normalize.signature twin ∧
          ∀ (book : RuleBook Float) (settings : Settings Float) (editing : Bool) (clock : Nat → Instant)
            (r : Resolution) (w : Bench),
            let learned := ((Bench.engine book settings editing).learn clock twin r).runOn w
            (Resolution.validateFor d r = .ok () → w.1.broken = false → w.1.conflicts = 0 →
                ∃ entry w', learned = (.ok entry, w')) ∧
              ∀ entry w', learned = (.ok entry, w') → Updates d.normalize.signature r w entry w' ∧
                ∀ asked ∈ [d, d.normalize], Recalls (Bench.engine book settings editing) w' asked entry) := by
  refine ⟨d.normalize_normalize, d.normalize_eq, Diagnostic.warning_of_classify, fun valid => ?_⟩
  have resolved := Diagnostic.validate_normalize valid
  have key : ∀ twin ∈ [d, d.normalize], twin.normalize = d.normalize := by
    simp [Diagnostic.normalize_normalize]
  have sound : ∀ twin ∈ [d, d.normalize], twin.validate = .ok () := by
    simp [valid, resolved]
  have alike : ∀ twin ∈ [d, d.normalize], Alike d twin :=
    List.forall_mem_cons.mpr ⟨⟨fun _ => rfl, fun _ _ _ => rfl⟩, List.forall_mem_singleton.mpr (alike_normalize valid)⟩
  refine ⟨resolved, fun twin member => ⟨alike twin member, key twin member ▸ keptAt twin, ?_⟩⟩
  intro book settings editing clock r w
  dsimp only
  rw [(alike twin member).learn]
  refine ⟨learn_takes, fun entry w' ran => ?_⟩
  obtain ⟨updates, reached⟩ := learn_updates ran
  refine ⟨updates, fun asked among => recalls (sound asked among) reached ?_⟩
  rw [key asked among]
  exact updates.there

open Suggest (bench unread)

def removed : Resolution := ⟨6133, "'a' is declared but its value is never read.", "Remove it", true, 1, none⟩

/-- Learned with the category resolved, and asked about as the checker reports it. -/
theorem entry_shared_unread : ∃ entry w',
    ((Bench.engine .empty .standard false).learn (fun _ => ⟨0, 0⟩) unread.normalize removed).runOn bench =
        (.ok entry, w') ∧
      unread.category = .genericError ∧ Updates ⟨6133, .strictModeError⟩ removed bench entry w' ∧
      Recalls (Bench.engine .empty .standard false) w' unread entry := by
  have shared := ((entry_shared unread).2.2.2 (by decide +kernel)).2 unread.normalize (by simp)
  obtain ⟨taken, known⟩ := shared.2.2 .empty .standard false (fun _ => ⟨0, 0⟩) removed bench
  obtain ⟨entry, w', ran⟩ := taken (by decide +kernel) rfl rfl
  obtain ⟨updates, recalls⟩ := known entry w' ran
  exact ⟨entry, w', ran, rfl, updates, recalls unread (by simp)⟩

end Benches

end Engine

end Remedy
