import Mathlib.Logic.Function.Basic
import Remedy.Proofs.Knowledge.Lawful
import Remedy.Proofs.Knowledge.Learner

/-! Learners that share a knowledge file, each through its handle, one call at a time in any order. Main
statement: the document counts every resolution that was learned but for those whose put met the very entry
it was to write. -/

namespace Remedy.Sharing

/-- A report that is being learned: the handle it goes through, and the calls that are left of it. -/
structure Learner (η : Type) where
  handle : η
  signature : Signature
  left : Calls (Except Failure (Entry Float))

structure State (η σ : Type) where
  world : σ
  seen : η → Table Float
  learners : List (Learner η)

inductive Event (η : Type) where
  | learn (handle : η) (clock : Nat → Instant) (d : Diagnostic) (r : Resolution)
  /-- A learner makes the next of its calls. -/
  | proceed (learner : Nat)
  | get (handle : η) (signature : Signature)
  /-- A handle that is opened reads the document likewise. -/
  | entries (handle : η)
  | flush (handle : η)

variable {η σ : Type}

def State.fresh (t : Table Float) (s : σ) : State η σ := ⟨s, fun _ => t, []⟩

def Learner.isDone (l : Learner η) (signature : Signature) : Bool :=
  l.signature == signature && l.left.isLearned

def State.learned (w : State η σ) (signature : Signature) : Nat := w.learners.countP (·.isDone signature)

variable {t : Table Float} {w : State η σ}

def Going (t : Table Float) (w : State η σ) : Prop :=
  ∀ l ∈ w.learners, l.left.Learns l.signature (t.observed l.signature)

theorem Going.of_learners {t' : Table Float} {w' : State η σ} (going : Going t w)
    (same : w'.learners = w.learners) (more : ∀ signature, t.observed signature ≤ t'.observed signature) :
    Going t' w' := by
  intro l member
  rw [same] at member
  exact (going l member).mono (more l.signature)

theorem Going.proceed {t' : Table Float} (going : Going t w) {i : Nat} {l : Learner η}
    {left : Calls (Except Failure (Entry Float))} {w' : State η σ}
    (replaced : w'.learners = w.learners.set i { l with left := left })
    (more : ∀ signature, t.observed signature ≤ t'.observed signature)
    (learns : left.Learns l.signature (t'.observed l.signature)) : Going t' w' := by
  intro l' member
  rw [replaced] at member
  rcases List.mem_or_eq_of_mem_set member with other | rfl
  · exact (going l' other).mono (more l'.signature)
  · exact learns

theorem learned_of_learners {w' : State η σ} (same : w'.learners = w.learners) (signature : Signature) :
    w'.learned signature = w.learned signature := by
  unfold State.learned
  rw [same]

theorem learned_proceed {i : Nat} {l l' : Learner η} (found : w.learners[i]? = some l) {w' : State η σ}
    (replaced : w'.learners = w.learners.set i l') (signature : Signature) :
    w'.learned signature + (l.isDone signature).toNat = w.learned signature + (l'.isDone signature).toNat := by
  obtain ⟨inside, here⟩ := List.getElem?_eq_some_iff.mp found
  have counted := List.boole_getElem_le_countP (p := (·.isDone signature)) inside
  unfold State.learned
  rw [replaced, List.countP_set inside]
  rw [here] at counted ⊢
  cases before : l.isDone signature with
  | true =>
      simp only [before, ↓reduceIte] at counted
      cases l'.isDone signature with
      | true =>
          simp only [↓reduceIte, Bool.toNat_true]
          omega
      | false =>
          simp only [↓reduceIte, Bool.false_eq_true, Bool.toNat_true, Bool.toNat_false]
          omega
  | false => cases l'.isDone signature <;> simp

variable {m : Type → Type} [Monad m] [World m σ] [DecidableEq η] (f : KnowledgeFile m)

def call {β : Type} (h : η) (x : Calls β) (w : State η σ) : Calls β × State η σ :=
  let (rest, seen, world) := World.step (x.forward f.store) (w.seen h, w.world)
  (rest, { w with world := world, seen := Function.update w.seen h seen })

def step (w : State η σ) : Event η → State η σ
  | .learn h clock d r =>
    { w with learners := w.learners ++ [⟨h, d.normalize.signature, Calls.learn clock d r⟩] }
  | .proceed i =>
    match w.learners[i]? with
    | none => w
    | some l =>
      let (rest, w') := call f l.handle l.left w
      { w' with learners := w.learners.set i { l with left := rest } }
  | .get h signature => (call f h (.get signature .done) w).2
  | .entries h => (call f h (.entries .done) w).2
  | .flush h => (call f h (.flush .done) w).2

def run (w : State η σ) (events : List (Event η)) : State η σ := events.foldl (step f) w

/-- Whether a call is a put that succeeds although the document holds its entry already. -/
def repeats {β : Type} (h : η) (w : State η σ) (signature : Signature) : Calls β → Bool
  | .put e _ =>
    match f.table w.world, (f.put e).runOn (w.seen h, w.world) with
    | .ok t, (.ok _, _) => e.signature == signature && (t.get? signature).any (·.same e)
    | _, _ => false
  | _ => false

def repeated (w : State η σ) (signature : Signature) : Event η → Nat
  | .proceed i => (w.learners[i]?).elim 0 fun l => (repeats f l.handle w signature l.left).toNat
  | _ => 0

def repeatedIn (signature : Signature) (w : State η σ) : List (Event η) → Nat
  | [] => 0
  | event :: rest => repeated f w signature event + repeatedIn signature (step f w event) rest

variable {f}

/-- A table is in the document, and no handle has seen more of any signature. -/
structure Tracks (f : KnowledgeFile m) (t : Table Float) (w : State η σ) : Prop where
  there : f.table w.world = .ok t
  ordered : ∀ h, Table.Ordered (w.seen h).entries
  behind : ∀ h signature, (w.seen h).observed signature ≤ t.observed signature

variable {β : Type}

theorem Tracks.seeing (tracks : Tracks f t w) (h : η) {s : σ} {t' seen : Table Float}
    (there : f.table s = .ok t') (more : ∀ signature, t.observed signature ≤ t'.observed signature)
    (ordered : Table.Ordered seen.entries)
    (behind : ∀ signature, seen.observed signature ≤ t'.observed signature) :
    Tracks f t' { w with world := s, seen := Function.update w.seen h seen } := by
  refine ⟨there, ?_, ?_⟩
  · intro h'
    by_cases same : h' = h
    · rw [same]
      simpa only [Function.update_self] using ordered
    · simpa only [Function.update_of_ne same] using tracks.ordered h'
  · intro h' signature
    by_cases same : h' = h
    · rw [same]
      simpa only [Function.update_self] using behind signature
    · simpa only [Function.update_of_ne same] using Nat.le_trans (tracks.behind h' signature) (more signature)

theorem Tracks.reading (tracks : Tracks f t w) (h : η) {s : σ} (same : f.SameText w.world s) :
    Tracks f t { w with world := s, seen := Function.update w.seen h t } :=
  tracks.seeing h ((f.table_of_sameText same).trans tracks.there) (fun _ => Nat.le_refl _)
    (KnowledgeFile.table_ordered tracks.there) fun _ => Nat.le_refl _

theorem Tracks.failing (tracks : Tracks f t w) (h : η) {s : σ} (same : f.SameText w.world s) :
    Tracks f t { w with world := s, seen := Function.update w.seen h (w.seen h) } :=
  tracks.seeing h ((f.table_of_sameText same).trans tracks.there) (fun _ => Nat.le_refl _)
    (tracks.ordered h) (tracks.behind h)

theorem forward_map {α : Type} {x : Action (StateT (Table Float) m) α} (next : Except Failure α → Calls β)
    {seen seen' : Table Float} {s s' : σ} {result : Except Failure α}
    (ran : x.runOn (seen, s) = (result, (seen', s'))) :
    World.step (next <$> x.run) (seen, s) = (next result, (seen', s')) := by
  have stepped : World.step x.run (seen, s) = (result, (seen', s')) := ran
  rw [World.step_map, stepped]

theorem call_get (lawful : f.Lawful) (tracks : Tracks f t w) (h : η) (signature : Signature)
    (next : Except Failure (Option (Entry Float)) → Calls β) :
    ∃ w', call f h (.get signature next) w = (next (.ok (t.get? signature)), w') ∧ Tracks f t w' ∧
      w'.learners = w.learners := by
  obtain ⟨s', ran, same⟩ := KnowledgeFile.runOn_get lawful tracks.there signature (w.seen h)
  refine ⟨_, ?_, tracks.reading h same, rfl⟩
  unfold call
  rw [Calls.forward, KnowledgeFile.store, forward_map _ ran]

theorem call_entries (lawful : f.Lawful) (tracks : Tracks f t w) (h : η)
    (next : Except Failure (List (Entry Float)) → Calls β) :
    ∃ w', call f h (.entries next) w = (next (.ok t.entries), w') ∧ Tracks f t w' ∧ w'.learners = w.learners := by
  obtain ⟨s', ran, same⟩ := KnowledgeFile.runOn_entries lawful tracks.there (w.seen h)
  refine ⟨_, ?_, tracks.reading h same, rfl⟩
  unfold call
  rw [Calls.forward, KnowledgeFile.store, forward_map _ ran]

theorem call_flush (lawful : f.Lawful) (tracks : Tracks f t w) (h : η)
    (next : Except Failure Unit → Calls β)
    (legible : ((call f h (.flush next) w).2.seen h).ReadsBack) :
    ∃ t', Tracks f t' (call f h (.flush next) w).2 ∧
      (∀ signature, t'.observed signature = t.observed signature) ∧
      (call f h (.flush next) w).2.learners = w.learners := by
  unfold call at legible ⊢
  obtain ⟨s', ⟨reason, ran, same⟩ | ⟨ran, written⟩⟩ := KnowledgeFile.flush_cases lawful tracks.there (w.seen h)
  · rw [Calls.forward, KnowledgeFile.store, forward_map _ ran]
    exact ⟨t, tracks.failing h same, fun _ => rfl, rfl⟩
  · rw [Calls.forward, KnowledgeFile.store, forward_map _ ran] at legible ⊢
    simp only [Function.update_self] at legible
    have counts : ∀ signature, (t.merge (w.seen h)).observed signature = t.observed signature := by
      intro signature
      rw [Table.observed_merge t (tracks.ordered h)]
      exact Nat.max_eq_left (tracks.behind h signature)
    obtain ⟨t', there, same⟩ := KnowledgeFile.table_of_text written legible
    refine ⟨t', ?_, fun signature => (same signature).trans (counts signature), rfl⟩
    refine tracks.seeing h there ?_ ?_ ?_
    · intro signature
      exact Nat.le_of_eq ((same signature).trans (counts signature)).symm
    · exact Table.merge_ordered (KnowledgeFile.table_ordered tracks.there) (w.seen h)
    · intro signature
      exact Nat.le_of_eq (same signature).symm

/-- A put fails and changes nothing, or brings an entry into the document that is there already or counts
more than the one there. -/
theorem call_put (lawful : f.Lawful) (tracks : Tracks f t w) (h : η) (e : Entry Float)
    (next : Except Failure Unit → Calls β)
    (legible : ((call f h (.put e next) w).2.seen h).ReadsBack) :
    ∃ w', w'.learners = w.learners ∧
      ((∃ reason, call f h (.put e next) w = (next (.error reason), w') ∧ Tracks f t w' ∧
          ∀ signature, repeats f h w signature (.put e next) = false) ∨
        ∃ t', call f h (.put e next) w = (next (.ok ()), w') ∧ Tracks f t' w' ∧
          (∀ signature, t'.observed signature = (t.insert e).observed signature) ∧
          (∀ known, t.get? e.signature = some known → known.same e = true ∨ known.observed < e.observed) ∧
          ∀ signature, repeats f h w signature (.put e next) =
            (e.signature == signature && (t.get? signature).any (·.same e))) := by
  unfold call at legible ⊢
  obtain ⟨s', ⟨reason, ran, same⟩ | ⟨merged, advanced, ran, written⟩⟩ :=
    KnowledgeFile.put_cases lawful tracks.there e (w.seen h)
  · rw [Calls.forward, KnowledgeFile.store, forward_map _ ran]
    refine ⟨{ w with world := s', seen := Function.update w.seen h (w.seen h) }, rfl,
      .inl ⟨reason, rfl, tracks.failing h same, ?_⟩⟩
    intro signature
    simp only [repeats, tracks.there, ran]
  · rw [Calls.forward, KnowledgeFile.store, forward_map _ ran] at legible ⊢
    simp only [Function.update_self] at legible
    obtain ⟨rfl, fresh⟩ := Table.advance?_eq_some advanced
    obtain ⟨t', there, same⟩ := KnowledgeFile.table_of_text written legible
    refine ⟨{ w with world := s', seen := Function.update w.seen h (t.insert e) }, rfl,
      .inr ⟨t', rfl, tracks.seeing h there ?_ ?_ ?_, same, fresh, ?_⟩⟩
    · intro signature
      rw [same]
      exact Table.observed_le_insert fresh signature
    · exact Table.insertInto_ordered e (KnowledgeFile.table_ordered tracks.there)
    · intro signature
      exact Nat.le_of_eq (same signature).symm
    · intro signature
      simp only [repeats, tracks.there, ran]

/-- What one call of a learner does to the counts: the document counts one more exactly if an entry was learned
that the document did not hold. -/
theorem call_learns (lawful : f.Lawful) (tracks : Tracks f t w) (h : η) {own : Signature}
    {x : Calls (Except Failure (Entry Float))} (learns : x.Learns own (t.observed own))
    (legible : ((call f h x w).2.seen h).ReadsBack) :
    ∃ t', Tracks f t' (call f h x w).2 ∧ (call f h x w).2.learners = w.learners ∧
      (∀ signature, t.observed signature ≤ t'.observed signature) ∧
      (call f h x w).1.Learns own (t'.observed own) ∧
      ∀ signature, t'.observed signature + (repeats f h w signature x).toNat +
          (own == signature && x.isLearned).toNat =
        t.observed signature + (own == signature && (call f h x w).1.isLearned).toNat := by
  cases x with
  | done result =>
      have still : call f h (.done result) w = (.done result, { w with seen := Function.update w.seen h (w.seen h) }) := by
        unfold call
        rw [Calls.forward, World.step_pure]
      rw [still]
      refine ⟨t, tracks.failing h rfl, rfl, fun _ => Nat.le_refl _, learns, ?_⟩
      intro signature
      rfl
  | get asked next =>
      obtain ⟨rfl, going⟩ := learns
      obtain ⟨w', ran, tracks', same⟩ := call_get lawful tracks h asked next
      have found := going (t.get? asked) fun e found => Table.signature_of_get? found
      rw [ran]
      refine ⟨t, tracks', same, fun _ => Nat.le_refl _, found.2, ?_⟩
      intro signature
      simp only [found.1]
      rfl
  | put e next =>
      obtain ⟨rfl, isNext, learned, failing⟩ := learns
      obtain ⟨w', same, ⟨reason, ran, tracks', fails⟩ | ⟨t', ran, tracks', counts, fresh, hits⟩⟩ :=
        call_put lawful tracks h e next legible
      · rw [ran]
        refine ⟨t, tracks', same, fun _ => Nat.le_refl _, (failing reason).2, ?_⟩
        intro signature
        simp only [fails, (failing reason).1]
        rfl
      · rw [ran]
        refine ⟨t', tracks', same, ?_, Calls.learns_of_isLearned learned _, ?_⟩
        · intro signature
          rw [counts]
          exact Table.observed_le_insert fresh signature
        · intro signature
          rw [counts, Table.observed_insert, hits]
          by_cases here : e.signature = signature
          · subst here
            rw [if_pos rfl]
            have accounted := Calls.observed_of_isNext isNext fresh
            simp only [learned, beq_self_eq_true, Bool.true_and]
            exact accounted
          · have elsewhere : (e.signature == signature) = false := beq_eq_false_iff_ne.mpr here
            rw [if_neg here, elsewhere]
            rfl
  | entries next => exact learns.elim
  | flush next => exact learns.elim

theorem forall_run_cons {P : State η σ → Prop} {event : Event η} {rest : List (Event η)} (now : P w)
    (afterwards : ∀ before, before <+: rest → P (run f (step f w event) before)) :
    ∀ before, before <+: event :: rest → P (run f w before) := by
  intro before early
  rcases List.prefix_cons_iff.mp early with rfl | ⟨others, rfl, within⟩
  · exact now
  · exact afterwards others within

theorem forall_run_append {P : State η σ → Prop} {first rest : List (Event η)}
    (now : ∀ before, before <+: first → P (run f w before))
    (afterwards : ∀ before, before <+: rest → P (run f (run f w first) before)) :
    ∀ before, before <+: first ++ rest → P (run f w before) := by
  induction first generalizing w with
  | nil => exact afterwards
  | cons event first ih =>
      refine forall_run_cons (now [] (List.nil_prefix)) (ih ?_ afterwards)
      intro before early
      exact now (event :: before) (List.cons_prefix_cons.mpr ⟨rfl, early⟩)

theorem run_nil (w : State η σ) : run f w [] = w := rfl

theorem run_cons (w : State η σ) (event : Event η) (rest : List (Event η)) :
    run f w (event :: rest) = run f (step f w event) rest := rfl

theorem run_append (w : State η σ) (events later : List (Event η)) :
    run f w (events ++ later) = run f (run f w events) later := List.foldl_append

theorem step_accounted (lawful : f.Lawful) (tracks : Tracks f t w) (going : Going t w) (event : Event η)
    (legible : ∀ h, ((step f w event).seen h).ReadsBack) :
    ∃ t', Tracks f t' (step f w event) ∧ Going t' (step f w event) ∧
      ∀ signature, t'.observed signature + repeated f w signature event + w.learned signature =
        t.observed signature + (step f w event).learned signature := by
  cases event with
  | learn h clock d r =>
      have fresh := Calls.learns_learn clock d r (t.observed d.normalize.signature)
      refine ⟨t, ⟨tracks.there, tracks.ordered, tracks.behind⟩, ?_, ?_⟩
      · intro l member
        rcases List.mem_append.mp member with before | last
        · exact going l before
        · rw [List.mem_singleton.mp last]
          exact fresh.1
      · intro signature
        simp [step, repeated, State.learned, Learner.isDone, fresh.2]
  | proceed i =>
      cases found : w.learners[i]? with
      | none =>
          have still : step f w (.proceed i) = w := by simp only [step, found]
          rw [still]
          refine ⟨t, tracks, going, ?_⟩
          intro signature
          simp [repeated, found]
      | some l =>
          have made : step f w (.proceed i) = { (call f l.handle l.left w).2 with
              learners := w.learners.set i { l with left := (call f l.handle l.left w).1 } } := by
            simp only [step, found]
          rw [made] at legible ⊢
          have learns := going l (List.mem_of_getElem? found)
          obtain ⟨t', tracks', same, more, after, counts⟩ :=
            call_learns lawful tracks l.handle learns (legible l.handle)
          refine ⟨t', ⟨tracks'.there, tracks'.ordered, tracks'.behind⟩, going.proceed rfl more after, ?_⟩
          intro signature
          have done := learned_proceed found (congrArg State.learners made) signature
          have counted := counts signature
          rw [made] at done
          simp only [Learner.isDone] at done
          simp only [repeated, found, Option.elim_some]
          omega
  | get h signature =>
      obtain ⟨w', ran, tracks', same⟩ := call_get lawful tracks h signature Calls.done
      have made : step f w (.get h signature) = w' := congrArg Prod.snd ran
      rw [made]
      refine ⟨t, tracks', going.of_learners same fun _ => Nat.le_refl _, ?_⟩
      intro other
      rw [learned_of_learners same]
      rfl
  | entries h =>
      obtain ⟨w', ran, tracks', same⟩ := call_entries lawful tracks h Calls.done
      have made : step f w (.entries h) = w' := congrArg Prod.snd ran
      rw [made]
      refine ⟨t, tracks', going.of_learners same fun _ => Nat.le_refl _, ?_⟩
      intro other
      rw [learned_of_learners same]
      rfl
  | flush h =>
      obtain ⟨t', tracks', counts, same⟩ := call_flush lawful tracks h Calls.done (legible h)
      refine ⟨t', tracks', going.of_learners same fun signature => Nat.le_of_eq (counts signature).symm, ?_⟩
      intro other
      have learned : (step f w (.flush h)).learned other = w.learned other := learned_of_learners same other
      rw [learned, counts]
      rfl

theorem run_accounted (lawful : f.Lawful) (tracks : Tracks f t w) (going : Going t w) (events : List (Event η))
    (legible : ∀ before, before <+: events → ∀ h, ((run f w before).seen h).ReadsBack) :
    ∃ t', f.table (run f w events).world = .ok t' ∧
      ∀ signature, t'.observed signature + repeatedIn f signature w events + w.learned signature =
        t.observed signature + (run f w events).learned signature := by
  induction events generalizing t w with
  | nil => exact ⟨t, tracks.there, fun signature => rfl⟩
  | cons event rest ih =>
      obtain ⟨t₁, tracks₁, going₁, first⟩ :=
        step_accounted lawful tracks going event (legible [event] ⟨rest, rfl⟩)
      obtain ⟨t₂, there, later⟩ := ih tracks₁ going₁ fun before early h =>
        legible (event :: before) (List.cons_prefix_cons.mpr ⟨rfl, early⟩) h
      refine ⟨t₂, there, ?_⟩
      intro signature
      have one := first signature
      have others := later signature
      have summed : repeatedIn f signature w (event :: rest) =
        repeated f w signature event + repeatedIn f signature (step f w event) rest := rfl
      rw [run_cons, summed]
      omega

theorem step_proceed {i : Nat} {l : Learner η} (found : w.learners[i]? = some l)
    {rest : Calls (Except Failure (Entry Float))} {seen : Table Float} {s : σ}
    (made : World.step (l.left.forward f.store) (w.seen l.handle, w.world) = (rest, (seen, s))) :
    step f w (.proceed i) =
      ⟨s, Function.update w.seen l.handle seen, w.learners.set i { l with left := rest }⟩ := by
  simp only [step, found, call, made]

section Alone

variable [LawfulMonad m] {i : Nat} {l : Learner η}

/-- The state once a learner has made all that is left of its calls, with no other call in between. -/
def finished (f : KnowledgeFile m) (w : State η σ) (i : Nat) (l : Learner η) : State η σ :=
  let (result, seen, world) := World.step (l.left.make f.store) (w.seen l.handle, w.world)
  ⟨world, Function.update w.seen l.handle seen, w.learners.set i { l with left := .done result }⟩

theorem finished_proceed (found : w.learners[i]? = some l) :
    ∃ l', (step f w (.proceed i)).learners[i]? = some l' ∧
      l'.left = (World.step (l.left.forward f.store) (w.seen l.handle, w.world)).1 ∧
      finished f (step f w (.proceed i)) i l' = finished f w i l := by
  obtain ⟨inside, -⟩ := List.getElem?_eq_some_iff.mp found
  rcases made : World.step (l.left.forward f.store) (w.seen l.handle, w.world) with ⟨rest, seen, s⟩
  rw [step_proceed found made]
  refine ⟨{ l with left := rest }, List.getElem?_set_self inside, rfl, ?_⟩
  unfold finished
  rw [← Calls.make_forward l.left, World.step_bind, made]
  simp only [Function.update_self, Function.update_idem, List.set_set]

omit [LawfulMonad m] in
theorem finished_of_rest {l' : Learner η} (same : finished f (step f w (.proceed i)) i l' = finished f w i l)
    (rest : ∃ n, run f (step f w (.proceed i)) (List.replicate n (.proceed i)) =
      finished f (step f w (.proceed i)) i l') :
    ∃ n, run f w (List.replicate n (.proceed i)) = finished f w i l := by
  obtain ⟨n, ended⟩ := rest
  exact ⟨n + 1, ended.trans same⟩

theorem proceed_alone (found : w.learners[i]? = some l) :
    ∃ n, run f w (List.replicate n (.proceed i)) = finished f w i l := by
  obtain ⟨left, isLeft⟩ : ∃ left, l.left = left := ⟨_, rfl⟩
  induction left generalizing w l with
  | done result =>
      refine ⟨0, ?_⟩
      obtain ⟨inside, rfl⟩ := List.getElem?_eq_some_iff.mp found
      have same : w.learners.set i { w.learners[i] with left := .done result } = w.learners := by
        rw [← isLeft]
        exact List.set_getElem_self inside
      unfold finished
      rw [isLeft, Calls.make, World.step_pure]
      dsimp only
      rw [same, Function.update_eq_self]
      rfl
  | get signature next ih =>
      obtain ⟨l', found', left', same⟩ := finished_proceed (f := f) found
      rw [isLeft, Calls.forward, World.step_map] at left'
      exact finished_of_rest same (ih _ found' left')
  | put e next ih =>
      obtain ⟨l', found', left', same⟩ := finished_proceed (f := f) found
      rw [isLeft, Calls.forward, World.step_map] at left'
      exact finished_of_rest same (ih _ found' left')
  | entries next ih =>
      obtain ⟨l', found', left', same⟩ := finished_proceed (f := f) found
      rw [isLeft, Calls.forward, World.step_map] at left'
      exact finished_of_rest same (ih _ found' left')
  | flush next ih =>
      obtain ⟨l', found', left', same⟩ := finished_proceed (f := f) found
      rw [isLeft, Calls.forward, World.step_map] at left'
      exact finished_of_rest same (ih _ found' left')

/-- Once a learner has made all its calls, with no other in between, it has done what learning does. -/
theorem learn_alone (w : State η σ) (h : η) (clock : Nat → Instant) (d : Diagnostic) (r : Resolution) :
    ∃ n, run f w (.learn h clock d r :: List.replicate n (.proceed w.learners.length)) =
      let (result, seen, world) := (f.store.learn clock d r).runOn (w.seen h, w.world)
      ⟨world, Function.update w.seen h seen, w.learners ++ [⟨h, d.normalize.signature, .done result⟩]⟩ := by
  have found : (step f w (.learn h clock d r)).learners[w.learners.length]? =
      some ⟨h, d.normalize.signature, .learn clock d r⟩ := List.getElem?_concat_length
  obtain ⟨n, ended⟩ := proceed_alone (f := f) found
  refine ⟨n, ended.trans ?_⟩
  have appended : ∀ left, (step f w (.learn h clock d r)).learners.set w.learners.length
      ⟨h, d.normalize.signature, left⟩ = w.learners ++ [⟨h, d.normalize.signature, left⟩] := by
    intro left
    simp [step]
  unfold finished
  rw [Calls.make_learn]
  simp only [appended]
  rfl

end Alone

omit [DecidableEq η] in
theorem tracks_fresh {s : σ} (there : f.table s = .ok t) : Tracks f t (State.fresh t s : State η σ) :=
  ⟨there, fun _ => KnowledgeFile.table_ordered there, fun _ _ => Nat.le_refl _⟩

/-- From handles opened on a document, in whatever order their calls are made: the document counts every
resolution that was learned but for the puts that repeated what it held. So no update is lost exactly when no
put does. -/
theorem observed_accounted (lawful : f.Lawful) {s : σ} (there : f.table s = .ok t) (events : List (Event η))
    (legible : ∀ before, before <+: events → ∀ h, ((run f (State.fresh t s) before).seen h).ReadsBack)
    (signature : Signature) :
    ∃ t', f.table (run f (State.fresh t s) events).world = .ok t' ∧
      t'.observed signature + repeatedIn f signature (State.fresh t s) events =
        t.observed signature + (run f (State.fresh t s) events).learned signature ∧
      (t'.observed signature = t.observed signature + (run f (State.fresh t s) events).learned signature ↔
        repeatedIn f signature (State.fresh t s) events = 0) := by
  have idle : Going t (State.fresh t s : State η σ) := by
    intro l member
    cases member
  obtain ⟨t', there', counts⟩ := run_accounted lawful (tracks_fresh there) idle events legible
  have counted := counts signature
  have none_learned : (State.fresh t s : State η σ).learned signature = 0 := rfl
  rw [none_learned] at counted
  refine ⟨t', there', counted, ?_⟩
  omega

def kept : KnowledgeFile (StateM Tree) := ⟨Tree.disk, ⟨"kb.json"⟩⟩

def bare : Tree := ⟨[], []⟩

def holding (document : String) : Tree :=
  ⟨[(["kb.json.lock"], .file .empty), (["kb.json"], .file document.toUTF8)], []⟩

def unused : Diagnostic := ⟨⟨"a.ts"⟩, 1, 1, "m", 1, .error, .genericError⟩

def solved : Resolution := ⟨1, "m", "s", true, 1, none⟩

def own : Signature := unused.normalize.signature

def still (_ : Nat) : Instant := ⟨0, 0⟩

def ahead (_ : Nat) : Instant := ⟨1, 0⟩

def learnt : Entry Float := (Entry.new unused.normalize.signature (still 0)).record solved (still 0)

def one : Table Float := ⟨[learnt]⟩

def late : Entry Float := (Entry.new own (ahead 0)).record solved (ahead 0)

def both : Entry Float := learnt.record solved (ahead 1)

def two : Table Float := ⟨[both]⟩

theorem kept_lawful : kept.Lawful := Tree.lawful (by decide) (by decide) (by decide)

theorem kept_bare : kept.table bare = .ok .empty := rfl

theorem load_holding {document : String} (read : Table.read document = .ok t) :
    kept.load.runOn (holding document) = (.ok t, holding document) := by
  have bytes : (holding document).read kept.path = .ok document.toUTF8 := rfl
  have shown := Tree.step_readText kept.path (holding document)
  rw [bytes] at shown
  simp only [Except.bind, Tree.fromUTF8?_toUTF8] at shown
  have text : kept.text (holding document) = .ok document := congrArg Prod.fst shown
  rw [KnowledgeFile.runOn_load_eq, text]
  simp only [KnowledgeFile.decode, read, Except.mapError]
  exact congrArg (Prod.mk _) (congrArg Prod.snd shown)

theorem made_holding (document : String) :
    World.step (kept.disk.makeParent kept.path) (holding document) = (.ok (), holding document) := rfl

theorem locked_holding (document : String) :
    World.step (kept.disk.touch (KnowledgeFile.lockPath kept.path)) (holding document) =
      (.ok (), holding document) := rfl

theorem table_holding {document : String} (read : Table.read document = .ok t) :
    kept.table (holding document) = .ok t := by
  rw [KnowledgeFile.table, load_holding read]

theorem get_holding {document : String} (read : Table.read document = .ok t) (signature : Signature)
    (seen : Table Float) :
    (kept.get signature).runOn (seen, holding document) = (.ok (t.get? signature), (t, holding document)) := by
  rw [KnowledgeFile.get, KnowledgeFile.runOn_seeing, ExceptT.runOn_bind, load_holding read, ExceptT.andThen_ok,
    ExceptT.runOn_pure]

theorem put_holding {document : String} {t' : Table Float} {e : Entry Float}
    (read : Table.read document = .ok t) (advanced : t.advance? e = some t') (seen : Table Float) :
    (kept.put e).runOn (seen, holding document) = (.ok (), (t', holding t'.toText)) := by
  have merged : KnowledgeFile.advance e t = .ok t' := by simp only [KnowledgeFile.advance, advanced]
  have updated := KnowledgeFile.runOn_update (made_holding document) (locked_holding document) (load_holding read)
    merged (rfl : _ = (_, holding t'.toText))
  rw [KnowledgeFile.put, KnowledgeFile.runOn_seeing, ExceptT.runOn_bind, updated, ExceptT.andThen_ok,
    ExceptT.runOn_pure]

theorem put_holding_stale {document : String} {e : Entry Float} (read : Table.read document = .ok t)
    (stale : t.advance? e = none) (seen : Table Float) :
    (kept.put e).runOn (seen, holding document) =
      (.error (.service (.storeConflict e.signature)), (seen, holding document)) := by
  have refused : KnowledgeFile.advance e t = .error (.service (.storeConflict e.signature)) := by
    simp only [KnowledgeFile.advance, stale]
  have updated := KnowledgeFile.runOn_update_refused (made_holding document) (locked_holding document)
    (load_holding read) refused
  rw [KnowledgeFile.put, KnowledgeFile.runOn_seeing, ExceptT.runOn_bind, updated, ExceptT.andThen_error]

theorem minute_readsBack : Json.ReadsBack 1 := by
  unfold Json.ReadsBack
  rfl

theorem raised_readsBack : Json.ReadsBack 0.15 := by
  unfold Json.ReadsBack
  rfl

theorem learnt_readsBack : learnt.ReadsBack := by
  have average : learnt.averageTime = 1 := by decide +kernel
  have adjusted : learnt.adjustment = 0.15 := by decide +kernel
  exact ⟨average ▸ minute_readsBack, adjusted ▸ raised_readsBack, rfl⟩

theorem one_legible : one.Legible :=
  Table.legible_of_readsBack (List.pairwise_singleton _ _) (List.forall_mem_singleton.mpr learnt_readsBack)

theorem both_readsBack : both.ReadsBack := by
  have average : both.averageTime = 1 := by decide +kernel
  have adjusted : both.adjustment = 0.255 := by decide +kernel
  refine ⟨average ▸ minute_readsBack, ?_, rfl⟩
  rw [adjusted]
  unfold Json.ReadsBack
  rfl

theorem two_legible : two.Legible :=
  Table.legible_of_readsBack (List.pairwise_singleton _ _) (List.forall_mem_singleton.mpr both_readsBack)

theorem empty_legible : (Table.empty : Table Float).Legible :=
  Table.legible_of_readsBack List.Pairwise.nil fun _ member => by cases member

theorem advance_one : one.advance? learnt = some one := Table.advance?_of_fresh (by decide +kernel)

theorem advance_late : one.advance? late = none := Table.advance?_of_stale (by decide +kernel)

theorem advance_both : one.advance? both = some two := Table.advance?_of_fresh (by decide +kernel)

theorem proceed_second {w : State Bool Tree} {first : Learner Bool} {signature : Signature}
    {left rest : Calls (Except Failure (Entry Float))} {seen : Table Float} {s : Tree}
    (learners : w.learners = [first, ⟨true, signature, left⟩])
    (made : World.step (left.forward kept.store) (w.seen true, w.world) = (rest, (seen, s))) :
    step kept w (.proceed 1) = ⟨s, Function.update w.seen true seen, [first, ⟨true, signature, rest⟩]⟩ := by
  have found : w.learners[1]? = some ⟨true, signature, left⟩ := by
    rw [learners]
    rfl
  rw [step_proceed found made, learners]
  rfl

theorem proceed_get {w : State Bool Tree} {document : String} {first : Learner Bool} {signature : Signature}
    {next : Except Failure (Option (Entry Float)) → Calls (Except Failure (Entry Float))}
    (world : w.world = holding document) (learners : w.learners = [first, ⟨true, signature, .get signature next⟩])
    (read : Table.read document = .ok t) :
    step kept w (.proceed 1) = ⟨holding document, Function.update w.seen true t,
      [first, ⟨true, signature, next (.ok (t.get? signature))⟩]⟩ := by
  refine proceed_second learners ?_
  rw [Calls.forward, KnowledgeFile.store, world, forward_map next (get_holding read signature (w.seen true))]

section Puts

variable {w : State Bool Tree} {document : String} {e : Entry Float} {first : Learner Bool} {signature : Signature}
  {next : Except Failure Unit → Calls (Except Failure (Entry Float))} (world : w.world = holding document)
  (learners : w.learners = [first, ⟨true, signature, .put e next⟩]) (read : Table.read document = .ok t)
include world learners read

theorem proceed_put {t' : Table Float} (advanced : t.advance? e = some t') :
    step kept w (.proceed 1) =
      ⟨holding t'.toText, Function.update w.seen true t', [first, ⟨true, signature, next (.ok ())⟩]⟩ := by
  refine proceed_second learners ?_
  rw [Calls.forward, KnowledgeFile.store, world, forward_map next (put_holding read advanced (w.seen true))]

theorem proceed_stale (stale : t.advance? e = none) :
    step kept w (.proceed 1) = ⟨holding document, Function.update w.seen true (w.seen true),
      [first, ⟨true, signature, next (.error (.service (.storeConflict e.signature)))⟩]⟩ := by
  refine proceed_second learners ?_
  rw [Calls.forward, KnowledgeFile.store, world, forward_map next (put_holding_stale read stale (w.seen true))]

end Puts

/-- Two learners, the second with a clock of its own, have read the document, and the first has put its entry. -/
def overtaken : List (Event Bool) :=
  [.learn false still unused solved, .learn true ahead unused solved, .proceed 0, .proceed 1, .proceed 0]

theorem overtaken_world : (run kept (State.fresh .empty bare) overtaken).world = holding one.toText := rfl

theorem overtaken_learners :
    ∃ next again last, (run kept (State.fresh .empty bare) overtaken).learners =
        [⟨false, own, .done (.ok learnt)⟩, ⟨true, own, .put late next⟩] ∧
      next (.error (.service (.storeConflict own))) = .get own again ∧
      again (.ok (some learnt)) = .put both last ∧ last (.ok ()) = .done (.ok both) :=
  ⟨_, _, _, rfl, rfl, rfl, rfl⟩

theorem overtaken_resumes :
    ∃ w₁ w₂ w₃ : State Bool Tree, step kept (run kept (State.fresh .empty bare) overtaken) (.proceed 1) = w₁ ∧
      step kept w₁ (.proceed 1) = w₂ ∧ step kept w₂ (.proceed 1) = w₃ ∧ w₁.seen = (run kept (State.fresh .empty bare) overtaken).seen ∧
      w₂.seen = Function.update w₁.seen true one ∧ w₃.seen = Function.update w₂.seen true two ∧
      w₃.world = holding two.toText ∧ w₃.learned own = 2 := by
  obtain ⟨next, again, last, learners, refused, found, done⟩ := overtaken_learners
  have conflict : late.signature = own := rfl
  have known : one.get? own = some learnt := rfl
  have first := proceed_stale overtaken_world learners one_legible advance_late
  rw [conflict, refused] at first
  have second := proceed_get (congrArg State.world first) (congrArg State.learners first) one_legible
  rw [known, found] at second
  have third := proceed_put (congrArg State.world second) (congrArg State.learners second) one_legible advance_both
  rw [done] at third
  have unseen := (congrArg State.seen first).trans (Function.update_eq_self true _)
  refine ⟨_, _, _, rfl, rfl, rfl, unseen, congrArg State.seen second, congrArg State.seen third,
    congrArg State.world third, ?_⟩
  rw [third]
  rfl

/-- The put of the second is refused, so it reads again and puts once more. -/
def overtaking : List (Event Bool) := overtaken ++ [.proceed 1, .proceed 1, .proceed 1]

def Shown (w : State Bool Tree) : Prop := ∀ h, (w.seen h).ReadsBack

theorem shown_update {seen : Bool → Table Float} (shown : ∀ h, (seen h).ReadsBack) (back : t.ReadsBack) :
    ∀ h, (Function.update seen true t h).ReadsBack :=
  (Function.forall_update_iff seen fun _ t => t.ReadsBack).mpr ⟨back, fun h _ => shown h⟩

theorem overtaken_shown : ∀ before, before <+: overtaken → Shown (run kept (State.fresh .empty bare) before) := by
  have blank := empty_legible.readsBack
  refine forall_run_cons (fun _ => blank) (forall_run_cons (fun _ => blank) (forall_run_cons (fun _ => blank) ?_))
  refine forall_run_cons (fun h => ?_) (forall_run_cons (fun h => ?_) ?_)
  · cases h <;> exact blank
  · cases h <;> exact blank
  · intro before early h
    rw [List.prefix_nil.mp early]
    cases h with
    | false => exact one_legible.readsBack
    | true => exact blank

theorem overtaking_shown : ∀ before, before <+: overtaking → Shown (run kept (State.fresh .empty bare) before) := by
  obtain ⟨w₁, w₂, w₃, first, second, third, seen₁, seen₂, seen₃, -⟩ := overtaken_resumes
  have opening := overtaken_shown overtaken (List.prefix_refl _)
  have shown₁ : Shown w₁ := by
    unfold Shown
    rw [seen₁]
    exact opening
  have shown₂ : Shown w₂ := by
    unfold Shown
    rw [seen₂]
    exact shown_update shown₁ one_legible.readsBack
  have shown₃ : Shown w₃ := by
    unfold Shown
    rw [seen₃]
    exact shown_update shown₂ two_legible.readsBack
  refine forall_run_append overtaken_shown (forall_run_cons opening ?_)
  rw [first]
  refine forall_run_cons shown₁ ?_
  rw [second]
  refine forall_run_cons shown₂ ?_
  rw [third]
  intro before early
  rw [List.prefix_nil.mp early]
  exact shown₃

/-- Both reports are counted, for no put repeats what the document holds. -/
theorem observed_accounted_overtaking :
    kept.Lawful ∧ kept.table bare = .ok .empty ∧
      (run kept (State.fresh .empty bare) overtaking).learned own = 2 ∧
      ∃ t, kept.table (run kept (State.fresh .empty bare) overtaking).world = .ok t ∧ t.observed own = 2 ∧
        repeatedIn kept own (State.fresh .empty bare) overtaking = 0 := by
  obtain ⟨w₁, w₂, w₃, first, second, third, -, -, -, world, learned⟩ := overtaken_resumes
  have resumed : run kept (State.fresh .empty bare) overtaking = w₃ := by
    rw [overtaking, run_append, run_cons, first, run_cons, second, run_cons, third, run_nil]
  obtain ⟨t, there, counted, -⟩ := observed_accounted kept_lawful kept_bare overtaking overtaking_shown own
  have table := table_holding two_legible
  rw [← world, ← resumed, there] at table
  cases table
  rw [resumed, learned] at counted
  have start : (Table.empty : Table Float).observed own = 0 := rfl
  have final : two.observed own = 2 := rfl
  refine ⟨kept_lawful, kept_bare, resumed ▸ learned, two, there, final, ?_⟩
  omega

/-- Two learners have read the document and the clock, and the first has put its entry. -/
def race : List (Event Bool) :=
  [.learn false still unused solved, .learn true still unused solved, .proceed 0, .proceed 1, .proceed 0]

theorem race_world : (run kept (State.fresh .empty bare) race).world = holding one.toText := rfl

theorem race_learners :
    ∃ next, (run kept (State.fresh .empty bare) race).learners =
        [⟨false, own, .done (.ok learnt)⟩,
          ⟨true, own, .put learnt next⟩] ∧
      next (.ok ()) = .done (.ok learnt) := ⟨_, rfl, rfl⟩

/-- When the second puts the same entry, it is told that it has learned, and the document counts one. -/
theorem race_counts_one :
    (run kept (State.fresh .empty bare) (race ++ [.proceed 1])).learned unused.normalize.signature = 2 ∧
      ∃ t, kept.table (run kept (State.fresh .empty bare) (race ++ [.proceed 1])).world = .ok t ∧
        t.observed unused.normalize.signature = 1 := by
  obtain ⟨next, learners, done⟩ := race_learners
  have put := proceed_put race_world learners one_legible advance_one
  rw [run_append, run_cons, put, run_nil, State.learned, done, table_holding one_legible]
  exact ⟨rfl, one, rfl, rfl⟩

end Remedy.Sharing
