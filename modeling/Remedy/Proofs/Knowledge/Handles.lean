import Mathlib.Logic.Function.Basic
import Remedy.Proofs.Binary64.Float
import Remedy.Proofs.Knowledge.Sharing

/-! Handles on one knowledge file, opened at any time, whose calls are made in any order. Main statement: what the
document knows it never forgets, and every handle is shown what was put or something newer. -/

namespace Remedy

namespace Entry

theorem sameScalar_trans {x y z : Float} (first : sameScalar x y = true) (second : sameScalar y z = true) :
    sameScalar x z = true := by
  have both : ∀ {a b : Float}, sameScalar a b = true ↔ a ≤ b ∧ b ≤ a := by
    intro a b
    exact (Bool.and_eq_true _ _).to_iff.trans (and_congr decide_eq_true_iff decide_eq_true_iff)
  obtain ⟨above, below⟩ := both.mp first
  obtain ⟨above', below'⟩ := both.mp second
  exact both.mpr ⟨Binary64.alike_trans above below above' below', Binary64.alike_trans below' above' below above⟩

theorem same_trans {d e f : Entry Float} (first : d.same e = true) (second : e.same f = true) :
    d.same f = true := by
  simp only [same, Bool.and_eq_true, beq_iff_eq] at first second ⊢
  obtain ⟨⟨⟨⟨⟨⟨signature, observed⟩, successes⟩, time⟩, adjustment⟩, solutions⟩, updated⟩ := first
  obtain ⟨⟨⟨⟨⟨⟨signature', observed'⟩, successes'⟩, time'⟩, adjustment'⟩, solutions'⟩, updated'⟩ := second
  exact ⟨⟨⟨⟨⟨⟨signature.trans signature', observed.trans observed'⟩, successes.trans successes'⟩,
    sameScalar_trans time time'⟩, sameScalar_trans adjustment adjustment'⟩, solutions.trans solutions'⟩,
    updated.trans updated'⟩

/-- An entry that may take the place of another one: it repeats it, or has been observed more often. -/
def Precedes (e f : Entry Float) : Prop := f = e ∨ e.same f = true ∨ e.observed < f.observed

variable {d e f : Entry Float}

theorem Precedes.observed_le (precedes : e.Precedes f) : e.observed ≤ f.observed := by
  rcases precedes with rfl | same | more
  · exact UInt64.le_refl _
  · rw [Table.observed_of_same same]
    exact UInt64.le_refl _
  · exact UInt64.le_of_lt more

theorem Precedes.trans (first : d.Precedes e) (second : e.Precedes f) : d.Precedes f := by
  have between := first.observed_le
  rcases second with rfl | same | more
  · exact first
  · rcases first with rfl | same' | more'
    · exact .inr (.inl same)
    · exact .inr (.inl (same_trans same' same))
    · rw [Table.observed_of_same same] at more'
      exact .inr (.inr more')
  · exact .inr (.inr (UInt64.lt_of_le_of_lt between more))

end Entry

namespace Table

/-- Every entry is still in the other table, or one that may take its place. -/
def Kept (t t' : Table Float) : Prop :=
  ∀ signature e, t.get? signature = some e → ∃ f, t'.get? signature = some f ∧ e.Precedes f

variable {t t' t'' seen : Table Float} {e known : Entry Float}

theorem Kept.refl (t : Table Float) : t.Kept t := fun _ e found => ⟨e, found, .inl rfl⟩

theorem Kept.trans (first : t.Kept t') (second : t'.Kept t'') : t.Kept t'' := by
  intro signature e found
  obtain ⟨f, there, earlier⟩ := first signature e found
  obtain ⟨g, there', later⟩ := second signature f there
  exact ⟨g, there', earlier.trans later⟩

theorem kept_of_advance? (advanced : t.advance? e = some t') : t.Kept t' ∧ t'.get? e.signature = some e := by
  obtain ⟨rfl, fresh⟩ := advance?_eq_some advanced
  constructor
  · intro signature known found
    rw [get?_insert]
    by_cases here : e.signature = signature
    · subst here
      rw [if_pos rfl]
      exact ⟨e, rfl, .inr (fresh known found)⟩
    · rw [if_neg here]
      exact ⟨known, found, .inl rfl⟩
  · rw [get?_insert, if_pos rfl]

theorem get?_of_mem {entries : List (Entry Float)} (ordered : Ordered entries) (member : e ∈ entries) :
    (⟨entries⟩ : Table Float).get? e.signature = some e := by
  induction entries with
  | nil => cases member
  | cons first rest ih =>
      obtain ⟨before, later⟩ := List.pairwise_cons.mp ordered
      unfold get? at ih ⊢
      rcases List.mem_cons.mp member with rfl | behind
      · simp
      · have other : first.signature ≠ e.signature := by
          intro same
          have less := before e behind
          rw [same] at less
          exact Signature.compare_lt_irrefl _ less
        simpa [List.find?_cons, other] using ih later behind

theorem raise_of_known (found : t.get? e.signature = some known) (enough : e.observed ≤ known.observed) :
    t.raise e = t := by
  have late : ¬known.observed < e.observed := UInt64.not_lt.mpr enough
  unfold raise
  simp only [found, if_neg late]

/-- A table knows all that one knew that came before. -/
theorem merge_of_kept (ordered : Ordered seen.entries) (kept : seen.Kept t) : t.merge seen = t := by
  have known : ∀ e ∈ seen.entries, t.raise e = t := by
    intro e member
    obtain ⟨f, found, earlier⟩ := kept e.signature e (get?_of_mem ordered member)
    exact raise_of_known found earlier.observed_le
  unfold merge
  generalize seen.entries = entries at known
  induction entries with
  | nil => rfl
  | cons e rest ih =>
      rw [List.foldl_cons, known e List.mem_cons_self]
      exact ih fun f later => known f (List.mem_cons_of_mem e later)

end Table

namespace Handles

inductive Event (η : Type) where
  | opens (handle : η)
  | get (handle : η) (signature : Signature)
  | put (handle : η) (e : Entry Float)
  | entries (handle : η)
  | flush (handle : η)

@[ext] structure State (η σ : Type) where
  world : σ
  seen : η → Option (Table Float)

variable {η σ : Type}

def State.closed (s : σ) : State η σ := ⟨s, fun _ => none⟩

variable {m : Type → Type} [Monad m] [World m σ] [DecidableEq η] (f : KnowledgeFile m)

def opened (h : η) (w : State η σ) : State η σ :=
  match f.load.runOn w.world with
  | (.ok t, s) => ⟨s, Function.update w.seen h (some t)⟩
  | (.error _, s) => ⟨s, w.seen⟩

def call {β : Type} (h : η) (x : Action (StateT (Table Float) m) β) (w : State η σ) :
    Option (Except Failure β) × State η σ :=
  match w.seen h with
  | none => (none, w)
  | some seen =>
    let (answer, seen', s) := x.runOn (seen, w.world)
    (some answer, ⟨s, Function.update w.seen h (some seen')⟩)

def step (w : State η σ) : Event η → State η σ
  | .opens h => opened f h w
  | .get h signature => (call h (f.get signature) w).2
  | .put h e => (call h (f.put e) w).2
  | .entries h => (call h f.entries w).2
  | .flush h => (call h f.flush w).2

def run (w : State η σ) (events : List (Event η)) : State η σ := events.foldl (step f) w

/-- The document holds a table that comes after all that the handles have seen. -/
structure Follows (t : Table Float) (w : State η σ) : Prop where
  there : f.table w.world = .ok t
  seen : ∀ h seen, w.seen h = some seen → Table.Ordered seen.entries ∧ seen.Kept t

variable {f} {t t' : Table Float} {w : State η σ} {h : η}

theorem Follows.showing (follows : Follows f t w) (h : η) {s : σ} {seen : Table Float}
    (there : f.table s = .ok t') (kept : t.Kept t') (ordered : Table.Ordered seen.entries) (before : seen.Kept t') :
    Follows f t' ⟨s, Function.update w.seen h (some seen)⟩ := by
  refine ⟨there, ?_⟩
  intro h' seen' looked
  by_cases same : h' = h
  · subst same
    simp only [Function.update_self, Option.some.injEq] at looked
    subst looked
    exact ⟨ordered, before⟩
  · simp only [Function.update_of_ne same] at looked
    obtain ⟨ordered', before'⟩ := follows.seen h' seen' looked
    exact ⟨ordered', before'.trans kept⟩

theorem Follows.reading (follows : Follows f t w) (h : η) {s : σ} (same : f.SameText w.world s) :
    Follows f t ⟨s, Function.update w.seen h (some t)⟩ :=
  follows.showing h ((KnowledgeFile.table_of_sameText same).trans follows.there) (.refl t)
    (KnowledgeFile.table_ordered follows.there) (.refl t)

theorem Follows.failing (follows : Follows f t w) {s : σ} {seen : Table Float} (isOpen : w.seen h = some seen)
    (same : f.SameText w.world s) : Follows f t ⟨s, Function.update w.seen h (some seen)⟩ := by
  obtain ⟨ordered, before⟩ := follows.seen h seen isOpen
  exact follows.showing h ((KnowledgeFile.table_of_sameText same).trans follows.there) (.refl t) ordered before

theorem opened_of_load {s : σ} (loaded : f.load.runOn w.world = (.ok t, s)) :
    opened f h w = ⟨s, Function.update w.seen h (some t)⟩ := by
  unfold opened
  rw [loaded]

theorem Follows.opened (lawful : f.Lawful) (follows : Follows f t w) (h : η) :
    Follows f t (opened f h w) := by
  obtain ⟨s, loaded, same⟩ := KnowledgeFile.runOn_load lawful follows.there
  rw [opened_of_load loaded]
  exact follows.reading h same

theorem call_get (lawful : f.Lawful) (follows : Follows f t w) {seen : Table Float} (isOpen : w.seen h = some seen)
    (signature : Signature) :
    (call h (f.get signature) w).1 = some (.ok (t.get? signature)) ∧
      Follows f t (call h (f.get signature) w).2 := by
  obtain ⟨s, ran, same⟩ := KnowledgeFile.runOn_get lawful follows.there signature seen
  unfold call
  simp only [isOpen, ran]
  exact ⟨trivial, follows.reading h same⟩

theorem call_closed {β : Type} {x : Action (StateT (Table Float) m) β} (shut : w.seen h = none) :
    call h x w = (none, w) := by
  unfold call
  rw [shut]

theorem call_entries (lawful : f.Lawful) (follows : Follows f t w) (h : η) :
    Follows f t (call h f.entries w).2 := by
  cases known : w.seen h with
  | none =>
      rw [call_closed known]
      exact follows
  | some seen =>
      obtain ⟨s, ran, same⟩ := KnowledgeFile.runOn_entries lawful follows.there seen
      unfold call
      simp only [known, ran]
      exact follows.reading h same

theorem call_put (lawful : f.Lawful) (follows : Follows f t w) (h : η) (e : Entry Float)
    (legible : ∀ seen, (call h (f.put e) w).2.seen h = some seen → seen.Legible) :
    ∃ t', Follows f t' (call h (f.put e) w).2 ∧ t.Kept t' ∧
      ((call h (f.put e) w).1 = some (.ok ()) → t'.get? e.signature = some e) := by
  cases known : w.seen h with
  | none =>
      rw [call_closed known]
      exact ⟨t, follows, .refl t, fun absent => by cases absent⟩
  | some seen =>
      unfold call at legible ⊢
      simp only [known] at legible ⊢
      obtain ⟨s, ⟨reason, ran, same⟩ | ⟨merged, advanced, ran, written⟩⟩ :=
        KnowledgeFile.put_cases lawful follows.there e seen
      · rw [ran]
        exact ⟨t, follows.failing known same, .refl t, fun refused => by cases refused⟩
      · rw [ran] at legible ⊢
        obtain ⟨kept, taken⟩ := Table.kept_of_advance? advanced
        have there := KnowledgeFile.table_of_written written (legible merged (Function.update_self ..))
        exact ⟨merged, follows.showing h there kept (KnowledgeFile.table_ordered there) (.refl merged), kept,
          fun _ => taken⟩

theorem call_flush (lawful : f.Lawful) (follows : Follows f t w) (h : η)
    (legible : ∀ seen, (call h f.flush w).2.seen h = some seen → seen.Legible) :
    Follows f t (call h f.flush w).2 := by
  cases known : w.seen h with
  | none =>
      rw [call_closed known]
      exact follows
  | some seen =>
      obtain ⟨ordered, before⟩ := follows.seen h seen known
      unfold call at legible ⊢
      simp only [known] at legible ⊢
      obtain ⟨s, ⟨reason, ran, same⟩ | ⟨ran, written⟩⟩ := KnowledgeFile.flush_cases lawful follows.there seen
      · rw [ran]
        exact follows.failing known same
      · rw [ran] at legible ⊢
        rw [Table.merge_of_kept ordered before] at written legible ⊢
        have there := KnowledgeFile.table_of_written written (legible t (Function.update_self ..))
        exact follows.showing h there (.refl t) (KnowledgeFile.table_ordered there) (.refl t)

/-- Whatever the event, the document then holds a table that comes after the one before. -/
theorem step_follows (lawful : f.Lawful) (follows : Follows f t w) (event : Event η)
    (legible : ∀ h seen, (step f w event).seen h = some seen → seen.Legible) :
    ∃ t', Follows f t' (step f w event) ∧ t.Kept t' := by
  cases event with
  | opens h => exact ⟨t, follows.opened lawful h, .refl t⟩
  | get h signature =>
      refine ⟨t, ?_, .refl t⟩
      cases known : w.seen h with
      | none =>
          have still : step f w (.get h signature) = w := congrArg Prod.snd (call_closed known)
          rw [still]
          exact follows
      | some seen => exact (call_get lawful follows known signature).2
  | put h e =>
      obtain ⟨t', follows', kept, -⟩ := call_put lawful follows h e (legible h)
      exact ⟨t', follows', kept⟩
  | entries h => exact ⟨t, call_entries lawful follows h, .refl t⟩
  | flush h => exact ⟨t, call_flush lawful follows h (legible h), .refl t⟩

/-- Whatever the events, the document then holds a table that comes after the one before. -/
theorem run_follows (lawful : f.Lawful) (follows : Follows f t w) (events : List (Event η))
    (legible : ∀ before, before <+: events → ∀ h seen, (run f w before).seen h = some seen → seen.Legible) :
    ∃ t', Follows f t' (run f w events) ∧ t.Kept t' := by
  induction events generalizing t w with
  | nil => exact ⟨t, follows, .refl t⟩
  | cons event rest ih =>
      obtain ⟨t₁, follows₁, kept₁⟩ := step_follows lawful follows event (legible [event] ⟨rest, rfl⟩)
      obtain ⟨t₂, follows₂, kept₂⟩ := ih follows₁ fun before early =>
        legible (event :: before) (List.cons_prefix_cons.mpr ⟨rfl, early⟩)
      exact ⟨t₂, follows₂, kept₁.trans kept₂⟩

omit [DecidableEq η] in
theorem follows_closed {s : σ} (there : f.table s = .ok t) : Follows f t (State.closed s : State η σ) :=
  ⟨there, fun _ _ shut => by cases shut⟩

theorem run_concat (w : State η σ) (events : List (Event η)) (event : Event η) :
    run f w (events ++ [event]) = step f (run f w events) event := by
  rw [run, run, List.foldl_append]
  rfl

/-- A document that cannot be read lets no handle be opened, and stays as it is. -/
theorem run_unread (lawful : f.Lawful) {s : σ} {failure : Failure} (unread : f.table s = .error failure)
    (events : List (Event η)) :
    (∀ h, (run f (.closed s) events).seen h = none) ∧ f.SameText s (run f (.closed s) events).world := by
  induction events using List.reverseRecOn with
  | nil => exact ⟨fun _ => rfl, refl s⟩
  | append_singleton before event ih =>
      obtain ⟨shut, same⟩ := ih
      rw [run_concat]
      cases event with
      | opens h =>
          have loaded := KnowledgeFile.load_sameText lawful (run f (.closed s : State η σ) before).world
          have failed : (f.load.runOn (run f (.closed s : State η σ) before).world).1 = .error failure :=
            (KnowledgeFile.table_of_sameText same).trans unread
          simp only [step, opened]
          rcases ran : f.load.runOn (run f (.closed s : State η σ) before).world with ⟨result, s'⟩
          rw [ran] at failed loaded
          cases failed
          exact ⟨shut, IsTrans.trans _ _ _ same loaded⟩
      | get h signature =>
          rw [step, call_closed (shut h)]
          exact ⟨shut, same⟩
      | put h e =>
          rw [step, call_closed (shut h)]
          exact ⟨shut, same⟩
      | entries h =>
          rw [step, call_closed (shut h)]
          exact ⟨shut, same⟩
      | flush h =>
          rw [step, call_closed (shut h)]
          exact ⟨shut, same⟩

theorem run_append (w : State η σ) (before later : List (Event η)) :
    run f w (before ++ later) = run f (run f w before) later := List.foldl_append

/-- In a run from closed handles, all that is seen of the document is read back as it is when it is written. -/
def Legible (f : KnowledgeFile m) (s : σ) (events : List (Event η)) : Prop :=
  ∀ before, before <+: events → ∀ h seen, (run f (.closed s) before).seen h = some seen → seen.Legible

variable {s : σ} {events before later : List (Event η)}

theorem Legible.upTo (legible : Legible f s events) (early : before <+: events) : Legible f s before :=
  fun earlier further => legible earlier (further.trans early)

theorem follows_run (lawful : f.Lawful) (legible : Legible f s events)
    (there : f.table (run f (.closed s) events).world = .ok t) : Follows f t (run f (.closed s) events) := by
  cases start : f.table s with
  | error failure =>
      have unread := KnowledgeFile.table_of_sameText (run_unread lawful start events).2
      rw [there, start] at unread
      cases unread
  | ok t₀ =>
      obtain ⟨t₁, follows, -⟩ := run_follows lawful (follows_closed start) events legible
      rw [follows.there] at there
      cases there
      exact follows

theorem follows_of_open (lawful : f.Lawful) (legible : Legible f s events) {seen : Table Float}
    (isOpen : (run f (.closed s) events).seen h = some seen) : ∃ t, Follows f t (run f (.closed s) events) := by
  cases start : f.table s with
  | error failure =>
      rw [(run_unread lawful start events).1 h] at isOpen
      cases isOpen
  | ok t₀ =>
      obtain ⟨t, follows, -⟩ := run_follows lawful (follows_closed start) events legible
      exact ⟨t, follows⟩

theorem follows_later (lawful : f.Lawful) (legible : Legible f s (before ++ later))
    (follows : Follows f t (run f (.closed s) before)) :
    ∃ t', Follows f t' (run f (.closed s) (before ++ later)) ∧ t.Kept t' := by
  rw [run_append]
  refine run_follows lawful follows later ?_
  intro more early
  rw [← run_append]
  exact legible (before ++ more) ((List.prefix_append_right_inj before).mpr early)

theorem open_of_answer {β : Type} {x : Action (StateT (Table Float) m) β} {answer : Except Failure β}
    (answered : (call h x w).1 = some answer) : ∃ seen, w.seen h = some seen := by
  cases known : w.seen h with
  | none =>
      rw [call_closed known] at answered
      cases answered
  | some seen => exact ⟨seen, rfl⟩

/-- What was put stays, or gives way to what comes after it. -/
theorem put_lasts (lawful : f.Lawful) {e : Entry Float} (legible : Legible f s (before ++ .put h e :: later))
    (taken : (call h (f.put e) (run f (.closed s) before)).1 = some (.ok ())) :
    ∃ t, Follows f t (run f (.closed s) (before ++ .put h e :: later)) ∧
      ∃ k, t.get? e.signature = some k ∧ e.Precedes k := by
  have split : before ++ .put h e :: later = (before ++ [.put h e]) ++ later := by simp
  rw [split] at legible ⊢
  have first : Legible f s (before ++ [.put h e]) := legible.upTo ⟨later, rfl⟩
  obtain ⟨seen, isOpen⟩ := open_of_answer taken
  obtain ⟨t, follows⟩ := follows_of_open lawful (first.upTo ⟨_, rfl⟩) isOpen
  have put : run f (.closed s) (before ++ [.put h e]) = (call h (f.put e) (run f (.closed s) before)).2 :=
    run_append (.closed s) before [.put h e]
  obtain ⟨t₁, follows₁, -, there⟩ := call_put lawful follows h e fun seen looked =>
    first _ (List.prefix_refl _) h seen (put ▸ looked)
  rw [← put] at follows₁
  obtain ⟨t₂, follows₂, kept⟩ := follows_later lawful legible follows₁
  exact ⟨t₂, follows₂, kept e.signature e (there taken)⟩

/-- From a document, through handles opened on it at any time: if it cannot be read it stays as it is. Otherwise no
signature ever disappears from it and no count decreases, and once an entry was put, every handle is shown that entry
or one with a higher count. -/
theorem document_kept (lawful : f.Lawful) (s : σ) (events : List (Event η)) (legible : Legible f s events) :
    (∀ failure, f.table s = .error failure → f.text (run f (.closed s) events).world = f.text s) ∧
    (∀ before later, before ++ later = events → ∀ t, f.table (run f (.closed s) before).world = .ok t →
      ∃ t', f.table (run f (.closed s) events).world = .ok t' ∧ ∀ signature e, t.get? signature = some e →
        ∃ e', t'.get? signature = some e' ∧ e.observed ≤ e'.observed) ∧
    ∀ before h e later, before ++ .put h e :: later = events →
      (call h (f.put e) (run f (.closed s) before)).1 = some (.ok ()) →
      ∀ h' answer, (call h' (f.get e.signature) (run f (.closed s) events)).1 = some answer →
        ∃ k, answer = .ok (some k) ∧ (k = e ∨ e.same k = true ∨ e.observed < k.observed) := by
  refine ⟨fun failure unread => (run_unread lawful unread events).2, ?_, ?_⟩
  · rintro before later rfl t there
    have follows := follows_run lawful (legible.upTo ⟨later, rfl⟩) there
    obtain ⟨t', follows', kept⟩ := follows_later lawful legible follows
    refine ⟨t', follows'.there, ?_⟩
    intro signature e found
    obtain ⟨e', there', precedes⟩ := kept signature e found
    exact ⟨e', there', precedes.observed_le⟩
  · rintro before h e later rfl taken h' answer answered
    obtain ⟨t, follows, k, there, precedes⟩ := put_lasts lawful legible taken
    obtain ⟨seen, isOpen⟩ := open_of_answer answered
    rw [(call_get lawful follows isOpen e.signature).1, there] at answered
    cases answered
    exact ⟨k, rfl, precedes⟩

open Sharing (kept bare holding learnt one unused kept_lawful load_holding one_legible empty_legible)

def handover : List (Event Bool) := [.opens false] ++ [.put false learnt] ++ [.opens true]

theorem run_open : (run kept (.closed bare) [.opens false] : State Bool Tree) =
    ⟨bare, fun h => if h then none else some .empty⟩ := by
  refine State.ext rfl (funext fun h => ?_)
  cases h <;> rfl

theorem run_put : (run kept (.closed bare) ([.opens false] ++ [.put false learnt]) : State Bool Tree) =
    ⟨holding one.toText, fun h => if h then none else some one⟩ := by
  have put : (kept.put learnt).runOn (Table.empty, bare) =
    (.ok (), (Table.empty.insert learnt, holding (Table.empty.insert learnt).toText)) := rfl
  have alone : Table.empty.insert learnt = one := rfl
  rw [run_concat, run_open, step, call]
  simp only [Bool.false_eq_true, ↓reduceIte, put, alone]
  refine congrArg (State.mk _) (funext fun h => ?_)
  cases h <;> rfl

theorem run_handover :
    (run kept (.closed bare) handover : State Bool Tree) = ⟨holding one.toText, fun _ => some one⟩ := by
  have last : step kept ⟨holding one.toText, fun h => if h then none else some one⟩ (.opens true) =
      (⟨holding one.toText, Function.update (fun h => if h then none else some one) true (some one)⟩ :
        State Bool Tree) := by
    rw [step]
    exact opened_of_load (load_holding one_legible)
  rw [handover, run_concat, run_put, last]
  refine congrArg (State.mk _) (funext fun h => ?_)
  cases h <;> rfl

theorem handover_legible : Legible kept bare handover := by
  intro before early h seen looked
  rcases List.prefix_concat_iff.mp early with rfl | early
  · rw [← handover, run_handover] at looked
    exact (Option.some.inj looked) ▸ one_legible
  rcases List.prefix_concat_iff.mp early with rfl | early
  · rw [run_put] at looked
    cases h with
    | false => exact (Option.some.inj looked) ▸ one_legible
    | true => cases looked
  rcases List.prefix_cons_iff.mp early with rfl | ⟨_, rfl, first⟩
  · cases looked
  · rw [List.prefix_nil.mp first, run_open] at looked
    cases h with
    | false => exact (Option.some.inj looked) ▸ empty_legible
    | true => cases looked

theorem document_kept_handover :
    (call false (kept.put learnt) (run kept (.closed bare) [.opens false] : State Bool Tree)).1 = some (.ok ()) ∧
      ∃ k, (call true (kept.get learnt.signature) (run kept (.closed bare) handover : State Bool Tree)).1 =
          some (.ok (some k)) ∧ (k = learnt ∨ learnt.same k = true ∨ learnt.observed < k.observed) := by
  have taken : (call false (kept.put learnt) (run kept (.closed bare) [.opens false] : State Bool Tree)).1 =
    some (.ok ()) := rfl
  obtain ⟨-, -, lasts⟩ := document_kept kept_lawful bare handover handover_legible
  refine ⟨taken, ?_⟩
  obtain ⟨answer, answered⟩ : ∃ answer,
      (call true (kept.get learnt.signature) (run kept (.closed bare) handover : State Bool Tree)).1 = some answer := by
    rw [run_handover]
    exact ⟨_, rfl⟩
  obtain ⟨k, shown, newer⟩ := lasts [.opens false] false learnt [.opens true] rfl taken true answer answered
  exact ⟨k, shown ▸ answered, newer⟩

end Handles

end Remedy
