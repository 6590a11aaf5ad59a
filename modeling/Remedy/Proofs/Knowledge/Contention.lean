import Mathlib.Logic.Function.Basic
import Remedy.Knowledge.Memory
import Remedy.Proofs.Knowledge.Accounts
import Remedy.Proofs.Knowledge.Learn

/-! Learning from a store that others change meanwhile. Main statement: if fewer than eight puts in a row meet a
conflict and nothing else fails, the report is recorded once, in the entry as it was read last; otherwise nothing is. -/

namespace Remedy

namespace LearnedSolution

variable {solutions : List LearnedSolution} {r : Resolution}

theorem sum_countIn (count : LearnedSolution → ℕ) {more : ℕ} (none : count (first r) = 0)
    (raised : ∀ s, s = first r ∨ s ∈ solutions → count (s.count r) = count s + more) :
    ((countIn r solutions).map count).sum = (solutions.map count).sum + more := by
  induction solutions with
  | nil =>
      have only := raised (first r) (.inl rfl)
      simpa [countIn, none] using only
  | cons s rest ih =>
      rw [List.map_cons, List.sum_cons]
      unfold countIn
      split
      · have here := raised s (.inr List.mem_cons_self)
        rw [List.map_cons, List.sum_cons]
        omega
      · have later := ih fun t listed => raised t (listed.imp_right (List.mem_cons_of_mem s))
        rw [List.map_cons, List.sum_cons]
        omega

/-- No count is near the end of its range. -/
structure Roomy (s : LearnedSolution) : Prop where
  attempts : s.attempts.toNat < 2 ^ 63
  successes : s.successes.toNat < 2 ^ 63
  helpful : s.helpful.toNat < 2 ^ 63
  notHelpful : s.notHelpful.toNat < 2 ^ 63

end LearnedSolution

namespace Entry

open LearnedSolution (toNat_add_one toNat_raised)

variable {α : Type} {known : Entry α} {r : Resolution}

def total (count : LearnedSolution → UInt64) (e : Entry α) : ℕ := (e.solutions.map fun s => (count s).toNat).sum

structure Roomy (e : Entry α) : Prop where
  observed : e.observed.toNat < 2 ^ 63
  successes : e.successCount.toNat < 2 ^ 63
  solutions : ∀ s ∈ e.solutions, s.Roomy

/-- Each count of `e` is that of `known` with the report `r` once more. -/
structure Once (r : Resolution) (known e : Entry α) : Prop where
  observed : e.observed.toNat = known.observed.toNat + 1
  successes : e.successCount.toNat = known.successCount.toNat + [r].countP (·.success)
  attempts : e.total (·.attempts) = known.total (·.attempts) + 1
  worked : e.total (·.successes) = known.total (·.successes) + [r].countP (·.success)
  helpful : e.total (·.helpful) = known.total (·.helpful) + [r].countP (·.feedback? = some .helpful)
  notHelpful : e.total (·.notHelpful) = known.total (·.notHelpful) + [r].countP (·.feedback? = some .notHelpful)

theorem Roomy.record [Scalar α] (roomy : known.Roomy) (r : Resolution) (now : Instant) :
    Once r known (known.record r now) := by
  obtain ⟨observed, successes, solutions⟩ := roomy
  have each : ∀ s, s = .first r ∨ s ∈ known.solutions → s.Roomy := by
    rintro s (rfl | listed)
    · constructor <;> exact Nat.two_pow_pos 63
    · exact solutions s listed
  have succeeds : ∀ {c : UInt64}, c.toNat < 2 ^ 63 →
      (if r.success then c + 1 else c).toNat = c.toNat + [r].countP (·.success) := by
    intro c low
    have raised := toNat_raised (c := c) (by omega) (·.success = true) r
    simpa only [Bool.decide_eq_true] using raised
  constructor
  · exact toNat_add_one (by omega)
  · exact succeeds successes
  · exact LearnedSolution.sum_countIn (·.attempts.toNat) rfl fun s listed =>
      toNat_add_one (by have low := (each s listed).attempts; omega)
  · exact LearnedSolution.sum_countIn (·.successes.toNat) rfl fun s listed => succeeds (each s listed).successes
  · exact LearnedSolution.sum_countIn (·.helpful.toNat) rfl fun s listed =>
      toNat_raised (by have low := (each s listed).helpful; omega) (·.feedback? = some .helpful) r
  · exact LearnedSolution.sum_countIn (·.notHelpful.toNat) rfl fun s listed =>
      toNat_raised (by have low := (each s listed).notHelpful; omega) (·.feedback? = some .notHelpful) r

end Entry

namespace Store

variable {m : Type → Type} [Monad m] {σ : Type} [World m σ] {α : Type}

abbrev Content (α : Type) := Signature → Option (Entry α)

/-- A store in which one sees what is there. While a step is made, others may change it, as `others` says. An entry
that is read is the one there; putting an entry changes the entry of its signature alone, and only if it succeeds. -/
structure Shows (store : Store m α) (content : σ → Content α) (others : Content α → Content α → Prop) : Prop where
  keyed : ∀ s signature e, content s signature = some e → e.signature = signature
  get_stays : ∀ signature s, others (content s) (content ((store.get signature).runOn s).2)
  get_reads : ∀ signature s found? s', (store.get signature).runOn s = (.ok found?, s') → found? = content s' signature
  put_adds : ∀ e s s', (store.put e).runOn s = (.ok (), s') →
    ∃ found, others (content s) found ∧ content s' = Function.update found e.signature (some e)
  put_stays : ∀ e s failure s', (store.put e).runOn s = (.error failure, s') → others (content s) (content s')

section Tally

def tallied {β : Type} (count : ℕ × ℕ → ℕ × ℕ) (step : Action m β) : Action (StateT (ℕ × ℕ) m) β :=
  ExceptT.mk fun tally => (fun result => (result, count tally)) <$> step.run

def counted (store : Store m α) : Store (StateT (ℕ × ℕ) m) α where
  get signature := tallied (fun tally => (tally.1 + 1, tally.2)) (store.get signature)
  put e := tallied (fun tally => (tally.1, tally.2 + 1)) (store.put e)
  entries := tallied id store.entries
  flush := tallied id store.flush

theorem runOn_tallied {β : Type} (count : ℕ × ℕ → ℕ × ℕ) (step : Action m β) (tally : ℕ × ℕ) (s : σ) :
    (tallied count step).runOn (tally, s) = ((step.runOn s).1, (count tally, (step.runOn s).2)) := by
  have mapped : World.step ((tallied count step).run.run tally) s =
      (((step.runOn s).1, count tally), (step.runOn s).2) :=
    World.step_map (fun result => (result, count tally)) step.run s
  have unfolded : (tallied count step).runOn (tally, s) =
      ((World.step ((tallied count step).run.run tally) s).1.1,
        (World.step ((tallied count step).run.run tally) s).1.2,
        (World.step ((tallied count step).run.run tally) s).2) := rfl
  rw [unfolded, mapped]

end Tally

variable [Scalar α] {store : Store m α} {content : σ → Content α} {others : Content α → Content α → Prop}
  {signature : Signature} {r : Resolution} {clock : Nat → Instant} {now : Instant} {s t u : σ} {e : Entry α}
  {left round k : ℕ}

/-- The entry is read, and what becomes of it is put. -/
def Takes (store : Store m α) (signature : Signature) (r : Resolution) (now : Instant) (s : σ) (e : Entry α) (u : σ) :
    Prop :=
  ∃ found? t, (store.get signature).runOn s = (.ok found?, t) ∧ e = renewed signature r now found? ∧
    (store.put e).runOn t = (.ok (), u)

section Rounds

theorem learnRound_ok_iff :
    (store.learnRound signature r now).runOn s = (.ok e, u) ↔ store.Takes signature r now s e u := by
  unfold learnRound
  rw [ExceptT.bind_ok]
  constructor
  · rintro ⟨found?, t, read, ran⟩
    obtain ⟨done, v, taken, ran⟩ := ExceptT.bind_ok.mp ran
    rw [ExceptT.runOn_pure] at ran
    cases ran
    exact ⟨found?, t, read, rfl, taken⟩
  · rintro ⟨found?, t, read, rfl, taken⟩
    exact ⟨found?, t, read, ExceptT.bind_ok.mpr ⟨(), u, taken, ExceptT.runOn_pure _ _⟩⟩

theorem Contested.learnFrom_exhausted (contested : store.Contested signature r clock round k s t) (many : left < k) :
    ∃ changed u, (store.learnFrom signature r clock left round).runOn s =
      (.error (.service (.storeConflict changed)), u) := by
  induction left generalizing round k s with
  | zero =>
      obtain _ | ⟨conflict, later⟩ := contested
      · exact absurd many (lt_irrefl 0)
      · rename_i u
        obtain ⟨found?, v, changed, read, met⟩ := conflict
        unfold renewed at met
        refine ⟨changed, u, ?_⟩
        rw [learnFrom, learnRound, ExceptT.runOn_bind, read, ExceptT.andThen_ok, ExceptT.runOn_bind, met,
          ExceptT.andThen_error]
  | succ left ih =>
      obtain _ | ⟨conflict, later⟩ := contested
      · exact absurd many (Nat.not_lt_zero _)
      · rw [conflict.learnFrom_eq]
        exact ih later (Nat.lt_of_succ_lt_succ many)

theorem learnFrom_ok_iff (store : Store m α) (signature : Signature) (r : Resolution) (clock : Nat → Instant)
    (left round : ℕ) : (store.learnFrom signature r clock left round).runOn s = (.ok e, u) ↔
      ∃ k ≤ left, ∃ t, store.Contested signature r clock round k s t ∧
      store.Takes signature r (clock (round + k)) t e u := by
  constructor
  · intro ran
    obtain ⟨k, few, t, contested, same⟩ := store.learnFrom_ends signature r clock left round s
    exact ⟨k, few, t, contested, learnRound_ok_iff.mp (same ▸ ran)⟩
  · rintro ⟨k, few, t, contested, takes⟩
    obtain ⟨rest, rfl⟩ := Nat.exists_eq_add_of_le' few
    rw [contested.learnFrom_eq]
    exact learnFrom_of_round (learnRound_ok_iff.mpr takes) rest

theorem learn_ok_iff {d : Diagnostic} : (store.learn clock d r).runOn s = (.ok e, u) ↔
    Resolution.validateFor d r = .ok () ∧ ∃ k ≤ 7, ∃ t,
      store.Contested d.normalize.signature r clock 0 k s t ∧ store.Takes d.normalize.signature r (clock k) t e u := by
  cases valid : Resolution.validateFor d r with
  | error flaw => simp [learn_of_flaw valid]
  | ok done =>
      have ends := store.learnFrom_ok_iff d.normalize.signature r clock (learnRounds - 1) 0 (s := s) (e := e) (u := u)
      simp only [Nat.zero_add] at ends
      rw [learn_of_valid valid, ends]
      exact (and_iff_right rfl).symm

theorem Contested.learn_exhausted (d : Diagnostic)
    (contested : store.Contested d.normalize.signature r clock 0 k s t) (many : 8 ≤ k) :
    ∃ failure, ((store.learn clock d r).runOn s).1 = .error failure := by
  cases valid : Resolution.validateFor d r with
  | error flaw => exact ⟨_, by rw [learn_of_flaw valid]⟩
  | ok done =>
      have left : learnRounds - 1 < k := many
      obtain ⟨changed, u, exhausted⟩ := contested.learnFrom_exhausted left
      exact ⟨_, by rw [learn_of_valid valid, exhausted]⟩

end Rounds

section Counting

variable {gets puts : ℕ}

theorem Conflicts.counted (conflict : store.Conflicts signature r now s t) :
    store.counted.Conflicts signature r now ((gets, puts), s) ((gets + 1, puts + 1), t) := by
  obtain ⟨found?, u, changed, read, met⟩ := conflict
  refine ⟨found?, ((gets + 1, puts), u), changed, ?_, ?_⟩
  · rw [Store.counted, runOn_tallied, read]
  · rw [Store.counted, runOn_tallied, met]

theorem Conflicts.of_counted {tally : ℕ × ℕ} {w : (ℕ × ℕ) × σ}
    (conflict : store.counted.Conflicts signature r now (tally, s) w) : store.Conflicts signature r now s w.2 := by
  obtain ⟨found?, u, changed, read, met⟩ := conflict
  obtain ⟨tally', u⟩ := u
  rw [Store.counted, runOn_tallied] at read met
  refine ⟨found?, u, changed, ?_, ?_⟩
  · simpa [Prod.ext_iff] using ⟨congrArg Prod.fst read, congrArg (·.2.2) read⟩
  · simpa [Prod.ext_iff] using ⟨congrArg Prod.fst met, congrArg (·.2.2) met⟩

theorem learnRound_counted (store : Store m α) (signature : Signature) (r : Resolution) (now : Instant)
    (gets puts : ℕ) (s : σ) : ∃ p ≤ 1, (store.counted.learnRound signature r now).runOn ((gets, puts), s) =
      (((store.learnRound signature r now).runOn s).1, (gets + 1, puts + p),
        ((store.learnRound signature r now).runOn s).2) := by
  rw [learnRound, learnRound, ExceptT.runOn_bind, ExceptT.runOn_bind, counted, runOn_tallied]
  rcases (store.get signature).runOn s with ⟨result, t⟩
  cases result with
  | error failure => exact ⟨0, Nat.zero_le 1, rfl⟩
  | ok found? =>
      refine ⟨1, le_rfl, ?_⟩
      rw [ExceptT.andThen_ok, ExceptT.andThen_ok, ExceptT.runOn_bind, ExceptT.runOn_bind, runOn_tallied]
      rcases (store.put ((found?.getD (Entry.new signature now)).record r now)).runOn t with ⟨result, u⟩
      cases result with
      | error failure => rfl
      | ok done => rw [ExceptT.andThen_ok, ExceptT.andThen_ok, ExceptT.runOn_pure, ExceptT.runOn_pure]

/-- Counting changes nothing, and each round gets and puts once at most. -/
theorem learnFrom_counted (store : Store m α) (signature : Signature) (r : Resolution) (clock : Nat → Instant)
    (left round gets puts : ℕ) (s : σ) : ∃ g p, p ≤ g ∧ g ≤ left + 1 ∧
      (store.counted.learnFrom signature r clock left round).runOn ((gets, puts), s) =
        (((store.learnFrom signature r clock left round).runOn s).1, (gets + g, puts + p),
          ((store.learnFrom signature r clock left round).runOn s).2) := by
  induction left generalizing round gets puts s with
  | zero =>
      obtain ⟨p, once, ran⟩ := store.learnRound_counted signature r (clock round) gets puts s
      exact ⟨1, p, once, le_rfl, ran⟩
  | succ left ih =>
      by_cases conflicting : ∃ t, store.Conflicts signature r (clock round) s t
      · obtain ⟨t, conflict⟩ := conflicting
        obtain ⟨g, p, fewer, few, ran⟩ := ih (round + 1) (gets + 1) (puts + 1) t
        refine ⟨g + 1, p + 1, Nat.succ_le_succ fewer, Nat.succ_le_succ few, ?_⟩
        rw [conflict.learnFrom_eq, conflict.counted.learnFrom_eq, ran, Nat.add_right_comm, Nat.add_right_comm puts]
        rfl
      · have settled : ¬∃ w, store.counted.Conflicts signature r (clock round) ((gets, puts), s) w := by
          rintro ⟨w, conflict⟩
          exact conflicting ⟨w.2, conflict.of_counted⟩
        obtain ⟨p, once, ran⟩ := store.learnRound_counted signature r (clock round) gets puts s
        refine ⟨1, p, once, Nat.succ_le_succ (Nat.zero_le _), ?_⟩
        rw [learnFrom_of_settled conflicting, learnFrom_of_settled settled, ran]

theorem learn_counted (store : Store m α) (clock : Nat → Instant) (d : Diagnostic) (r : Resolution) (s : σ) :
    ∃ gets puts, puts ≤ gets ∧ gets ≤ 8 ∧ (store.counted.learn clock d r).runOn ((0, 0), s) =
      (((store.learn clock d r).runOn s).1, (gets, puts), ((store.learn clock d r).runOn s).2) := by
  cases valid : Resolution.validateFor d r with
  | error flaw =>
      refine ⟨0, 0, le_rfl, Nat.zero_le 8, ?_⟩
      rw [learn_of_flaw valid, learn_of_flaw valid]
  | ok done =>
      obtain ⟨gets, puts, fewer, few, ran⟩ :=
        store.learnFrom_counted d.normalize.signature r clock (learnRounds - 1) 0 0 0 s
      refine ⟨gets, puts, fewer, few, ?_⟩
      rw [learn_of_valid valid, learn_of_valid valid, ran, Nat.zero_add, Nat.zero_add]

end Counting

section Contents

theorem Shows.of_takes (shows : store.Shows content others) (takes : store.Takes signature r now t e s) :
    ∃ u found known, (store.get signature).runOn t = (.ok (content u signature), u) ∧
      known = (content u signature).getD (Entry.new signature now) ∧ e = known.record r now ∧
      (known.Roomy → Entry.Once r known e) ∧ others (content t) (content u) ∧ others (content u) found ∧
      content s = Function.update found signature (some e) := by
  obtain ⟨found?, u, read, rfl, taken⟩ := takes
  obtain rfl := shows.get_reads _ _ _ _ read
  obtain ⟨found, moved, put⟩ := shows.put_adds _ _ _ taken
  rw [signature_renewed (shows.keyed u signature)] at put
  have reading := shows.get_stays signature t
  rw [read] at reading
  exact ⟨u, found, _, read, rfl, rfl, fun roomy => roomy.record r now, reading, moved, put⟩

variable [IsPreorder (Content α) others]

theorem Conflicts.unchanged (shows : store.Shows content others) (conflict : store.Conflicts signature r now s t) :
    others (content s) (content t) := by
  obtain ⟨found?, u, changed, read, met⟩ := conflict
  have reading := shows.get_stays signature s
  rw [read] at reading
  exact IsTrans.trans _ _ _ reading (shows.put_stays _ _ _ _ met)

theorem Contested.unchanged (shows : store.Shows content others)
    (contested : store.Contested signature r clock round k s t) : others (content s) (content t) := by
  refine contested.preserves (P := fun t => others (content s) (content t)) ?_ (Std.Refl.refl _)
  intro now u v conflict before
  exact IsTrans.trans _ _ _ before (conflict.unchanged shows)

theorem Shows.learnRound_error {failure : Failure} (shows : store.Shows content others)
    (failed : (store.learnRound signature r now).runOn s = (.error failure, t)) : others (content s) (content t) := by
  have reading := shows.get_stays signature s
  rw [learnRound, ExceptT.runOn_bind] at failed
  rcases read : (store.get signature).runOn s with ⟨result, u⟩
  rw [read] at failed reading
  cases result with
  | error failure =>
      cases failed
      exact reading
  | ok found? =>
      rw [ExceptT.andThen_ok, ExceptT.runOn_bind] at failed
      rcases put : (store.put ((found?.getD (Entry.new signature now)).record r now)).runOn u with ⟨result, v⟩
      rw [put] at failed
      cases result with
      | ok done => simp at failed
      | error failure =>
          cases failed
          exact IsTrans.trans _ _ _ reading (shows.put_stays _ _ _ _ put)

/-- What learning fails with, nothing was changed. -/
theorem Shows.learn_error {d : Diagnostic} {failure : Failure} (shows : store.Shows content others)
    (failed : (store.learn clock d r).runOn s = (.error failure, u)) : others (content s) (content u) := by
  cases valid : Resolution.validateFor d r with
  | error flaw =>
      rw [learn_of_flaw valid] at failed
      cases failed
      exact Std.Refl.refl _
  | ok done =>
      obtain ⟨k, -, t, contested, same⟩ := store.learnFrom_ends d.normalize.signature r clock (learnRounds - 1) 0 s
      rw [learn_of_valid valid, same] at failed
      exact IsTrans.trans _ _ _ (contested.unchanged shows) (shows.learnRound_error failed)

/-- A report is recorded exactly if it is valid, at most seven puts in a row meet a conflict, and the next time the entry
can be read and put. Then the entry that was read last, or a new one, has it once, and nothing else was changed by that;
otherwise learning fails, and nothing was changed. It takes at most eight rounds. -/
theorem learn_allOrNothing (shows : store.Shows content others) (clock : Nat → Instant) (d : Diagnostic)
    (r : Resolution) (s : σ) :
    (∀ e s', (store.learn clock d r).runOn s = (.ok e, s') ↔ Resolution.validateFor d r = .ok () ∧
      ∃ k ≤ 7, ∃ t, store.Contested d.normalize.signature r clock 0 k s t ∧
        store.Takes d.normalize.signature r (clock k) t e s') ∧
    (∀ e s', (store.learn clock d r).runOn s = (.ok e, s') →
      ∃ k ≤ 7, ∃ t u found known, store.Contested d.normalize.signature r clock 0 k s t ∧
        (store.get d.normalize.signature).runOn t = (.ok (content u d.normalize.signature), u) ∧
        known = (content u d.normalize.signature).getD (Entry.new d.normalize.signature (clock k)) ∧
        e = known.record r (clock k) ∧ (known.Roomy → Entry.Once r known e) ∧
        others (content s) (content u) ∧ others (content u) found ∧
        content s' = Function.update found d.normalize.signature (some e)) ∧
    (∀ k t, 8 ≤ k → store.Contested d.normalize.signature r clock 0 k s t →
      ∃ failure, ((store.learn clock d r).runOn s).1 = .error failure) ∧
    (∀ failure s', (store.learn clock d r).runOn s = (.error failure, s') → others (content s) (content s')) ∧
    ∃ gets puts, puts ≤ gets ∧ gets ≤ 8 ∧ (store.counted.learn clock d r).runOn ((0, 0), s) =
      (((store.learn clock d r).runOn s).1, (gets, puts), ((store.learn clock d r).runOn s).2) := by
  refine ⟨fun e s' => learn_ok_iff, ?_, fun k t many contested => contested.learn_exhausted d many,
    fun failure s' failed => shows.learn_error failed, store.learn_counted clock d r s⟩
  intro e s' ran
  obtain ⟨-, k, few, t, contested, takes⟩ := learn_ok_iff.mp ran
  obtain ⟨u, found, known, read, was, made, once, reading, moved, put⟩ := shows.of_takes takes
  exact ⟨k, few, t, u, found, known, contested, read, was, made, once,
    IsTrans.trans _ _ _ (contested.unchanged shows) reading, moved, put⟩

end Contents

end Store

namespace MemoryKnowledge

variable {α : Type}

theorem shows : (store (α := α)).Shows (fun kb => kb.table.get?) Eq where
  keyed _ _ _ found := Table.signature_of_get? found
  get_stays _ _ := rfl
  get_reads signature kb found? kb' read := by
    obtain ⟨table, conflicts, broken⟩ := kb
    cases broken with
    | true => cases read
    | false =>
        cases read
        rfl
  put_adds e kb kb' put := by
    obtain ⟨table, conflicts, broken⟩ := kb
    refine ⟨_, rfl, ?_⟩
    cases broken with
    | true => cases put
    | false =>
        cases conflicts with
        | zero =>
            cases put
            funext signature
            rw [Table.get?_insert, Function.update_apply]
            simp only [eq_comm]
        | succ left => cases put
  put_stays e kb failure kb' refused := by
    obtain ⟨table, conflicts, broken⟩ := kb
    cases broken with
    | true =>
        cases refused
        rfl
    | false =>
        cases conflicts with
        | zero => cases refused
        | succ left =>
            cases refused
            rfl

theorem contested [Scalar α] (t : Table α) (signature : Signature) (r : Resolution) (clock : Nat → Instant)
    (left k round : ℕ) : store.Contested signature r clock round k ⟨t, left + k, false⟩ ⟨t, left, false⟩ := by
  induction k generalizing round with
  | zero => exact .none
  | succ k ih => exact .more ⟨t.get? signature, ⟨t, left + k + 1, false⟩, _, rfl, rfl⟩ (ih (round + 1))

end MemoryKnowledge

namespace Store

open MemoryKnowledge (unresolved)

def imported : Resolution := ⟨2304, "b", "Import it", true, 6, some .helpful⟩

def importedOnce : Table ℚ := Table.empty.record unresolved.normalize.signature imported ⟨0, 0⟩

theorem learn_allOrNothing_imported :
    (∃ e kb, (MemoryKnowledge.store.learn (fun _ => ⟨1, 0⟩) unresolved imported).runOn ⟨importedOnce, 7, false⟩ =
      (.ok e, kb) ∧ kb.table.get? unresolved.normalize.signature = some e ∧ e.observed.toNat = 2) ∧
    ∃ failure kb, (MemoryKnowledge.store.learn (fun _ => ⟨1, 0⟩) unresolved imported).runOn ⟨importedOnce, 8, false⟩ =
      (.error failure, kb) ∧ kb.table.get? = importedOnce.get? := by
  constructor
  · obtain ⟨ok_iff, recorded, -, -, -⟩ :=
      learn_allOrNothing MemoryKnowledge.shows (fun _ => ⟨1, 0⟩) unresolved imported ⟨importedOnce, 7, false⟩
    obtain ⟨e, kb, ran⟩ : ∃ e kb, (MemoryKnowledge.store.learn (fun _ => ⟨1, 0⟩) unresolved imported).runOn
        ⟨importedOnce, 7, false⟩ = (.ok e, kb) :=
      ⟨_, _, (ok_iff _ _).mpr ⟨by decide +kernel, 7, le_rfl, _, MemoryKnowledge.contested _ _ _ _ 0 7 0,
        _, _, rfl, rfl, rfl⟩⟩
    obtain ⟨k, -, t, u, found, known, -, -, read, -, once, same, rfl, put⟩ := recorded e kb ran
    have there : importedOnce.get? unresolved.normalize.signature =
        some ((Entry.new unresolved.normalize.signature ⟨0, 0⟩).record imported ⟨0, 0⟩) := Table.get?_record _ _ _ _
    rw [← same, there, Option.getD_some] at read
    subst read
    have roomy : ((Entry.new unresolved.normalize.signature ⟨0, 0⟩ : Entry ℚ).record imported ⟨0, 0⟩).Roomy := by
      refine ⟨by decide +kernel, by decide +kernel, ?_⟩
      intro s listed
      cases List.mem_singleton.mp listed
      exact ⟨by decide +kernel, by decide +kernel, by decide +kernel, by decide +kernel⟩
    refine ⟨e, kb, ran, ?_, (once roomy).observed⟩
    rw [put, Function.update_self]
  · obtain ⟨-, -, exhausted, kept, -⟩ :=
      learn_allOrNothing MemoryKnowledge.shows (fun _ => ⟨1, 0⟩) unresolved imported ⟨importedOnce, 8, false⟩
    obtain ⟨failure, failed⟩ := exhausted 8 _ le_rfl (MemoryKnowledge.contested _ _ _ _ 0 8 0)
    exact ⟨failure, _, Prod.ext failed rfl, (kept failure _ (Prod.ext failed rfl)).symm⟩

end Store

end Remedy
