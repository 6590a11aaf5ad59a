import Remedy.Knowledge.Learn
import Remedy.Knowledge.Memory
import Remedy.Proofs.Knowledge.Exact
import Remedy.Proofs.Knowledge.Reports

/-! Knowledge bases in memory that come of learning. Main statements: a call to learn records its report once, or
leaves the table as it is, and after fewer than 2⁶⁴ calls all counts are exact. -/

namespace Remedy.MemoryKnowledge

variable {α : Type} [Scalar α] {n : ℕ} {kb kb' : MemoryKnowledge α} {signature : Signature} {r : Resolution}
  {result : Except Failure (Entry α)}

/-- What comes of a report: the entry with it, in the table too, or a failure and the table as it was. -/
def Recorded (kb : MemoryKnowledge α) (signature : Signature) (r : Resolution) (result : Except Failure (Entry α))
    (kb' : MemoryKnowledge α) : Prop :=
  match result with
  | .ok e => ∃ now, kb'.table = kb.table.record signature r now ∧ kb'.table.get? signature = some e
  | .error _ => kb'.table = kb.table

theorem learnRound_recorded (kb : MemoryKnowledge α) (signature : Signature) (r : Resolution) (now : Instant) :
    Recorded kb signature r ((store.learnRound signature r now).runOn kb).1
      ((store.learnRound signature r now).runOn kb).2 := by
  obtain ⟨table, conflicts, broken⟩ := kb
  cases broken with
  | true => exact (rfl : table = table)
  | false =>
      cases conflicts with
      | zero => exact ⟨now, rfl, Table.get?_record table signature r now⟩
      | succ left => exact (rfl : table = table)

theorem table_of_conflict {now : Instant} (conflict : store.Conflicts signature r now kb kb') :
    kb'.table = kb.table := by
  obtain ⟨found?, kb₁, changed, read, met⟩ := conflict
  obtain ⟨table, conflicts, broken⟩ := kb
  cases broken with
  | true => cases read
  | false =>
      cases read
      cases conflicts with
      | zero => cases met
      | succ left =>
          cases met
          rfl

theorem learnFrom_recorded (kb : MemoryKnowledge α) (signature : Signature) (r : Resolution) (clock : Nat → Instant)
    (left round : Nat) :
    Recorded kb signature r ((store.learnFrom signature r clock left round).runOn kb).1
      ((store.learnFrom signature r clock left round).runOn kb).2 := by
  obtain ⟨k, -, kb', contested, same⟩ := store.learnFrom_ends signature r clock left round kb
  have unchanged : kb'.table = kb.table :=
    contested.preserves (P := (·.table = kb.table)) (fun conflict => (table_of_conflict conflict).trans) rfl
  have recorded := learnRound_recorded kb' signature r (clock (round + k))
  rw [same]
  unfold Recorded at recorded ⊢
  rwa [unchanged] at recorded

theorem learn_recorded {clock : Nat → Instant} {d : Diagnostic}
    (ran : (store.learn clock d r).runOn kb = (result, kb')) : Recorded kb d.normalize.signature r result kb' := by
  cases valid : Resolution.validateFor d r with
  | error e =>
      rw [Store.learn_of_flaw valid] at ran
      cases ran
      exact (rfl : kb.table = kb.table)
  | ok _ =>
      rw [Store.learn_of_valid valid] at ran
      have recorded := learnFrom_recorded kb d.normalize.signature r clock (Store.learnRounds - 1) 0
      rw [ran] at recorded
      exact recorded

theorem learn_reached {d : Diagnostic} (valid : Resolution.validateFor d r = .ok ()) (t : Table α)
    (clock : Nat → Instant) :
    (store.learn clock d r).runOn ⟨t, 0, false⟩ =
      (.ok (((t.get? d.normalize.signature).getD (Entry.new d.normalize.signature (clock 0))).record r (clock 0)),
        ⟨t.record d.normalize.signature r (clock 0), 0, false⟩) :=
  Store.learn_of_round valid rfl

theorem learnFrom_outage (broken : kb.broken = true) (clock : Nat → Instant) (left round : Nat) :
    (store.learnFrom signature r clock left round).runOn kb = (.error outage, kb) := by
  obtain ⟨table, conflicts, _⟩ := kb
  cases broken
  cases left <;> rfl

omit [Scalar α] in
theorem put_stays (e : Entry α) : ExceptT.Stays (fun kb kb' => kb'.broken = kb.broken) (store.put e) := by
  rintro ⟨table, conflicts, broken⟩
  cases broken with
  | true => rfl
  | false => cases conflicts <;> rfl

theorem learn_broken (clock : Nat → Instant) (d : Diagnostic) (r : Resolution) (kb : MemoryKnowledge α) :
    ((store.learn clock d r).runOn kb).2.broken = kb.broken := by
  have order : IsPreorder (MemoryKnowledge α) fun kb kb' => kb'.broken = kb.broken :=
    { refl := fun _ => rfl, trans := fun _ _ _ first second => second.trans first }
  exact Store.learn_stays (R := fun kb kb' => kb'.broken = kb.broken) (fun _ _ => rfl) put_stays clock d r kb

theorem reached_of_learn {clock : Nat → Instant} {d : Diagnostic} {e : Entry α}
    (ran : (store.learn clock d r).runOn kb = (.ok e, kb')) : kb'.broken = false := by
  cases valid : Resolution.validateFor d r with
  | error flaw =>
      rw [Store.learn_of_flaw valid] at ran
      cases ran
  | ok _ =>
      have still := learn_broken clock d r kb
      rw [ran] at still
      rw [still]
      cases broken : kb.broken with
      | false => rfl
      | true =>
          rw [Store.learn_of_valid valid, learnFrom_outage broken] at ran
          cases ran

/-- The states that so many calls to learn lead to, from one without entries. -/
inductive Taught : ℕ → MemoryKnowledge α → Prop where
  | start {kb : MemoryKnowledge α} (unlearned : kb.table = Table.empty) : Taught 0 kb
  | learn {n : ℕ} {kb : MemoryKnowledge α} (taught : Taught n kb) (clock : Nat → Instant) (d : Diagnostic)
      (r : Resolution) : Taught (n + 1) ((store.learn clock d r).runOn kb).2

/-- What every report keeps true of a table is true of every table that was learned. -/
theorem Taught.keeps {P : ℕ → Table α → Prop} (empty : P 0 Table.empty) (still : ∀ n t, P n t → P (n + 1) t)
    (recorded : ∀ n t signature r now, P n t → P (n + 1) (t.record signature r now)) (taught : Taught n kb) :
    P n kb.table := by
  induction taught with
  | start unlearned => exact unlearned ▸ empty
  | @learn n kb taught clock d r ih =>
      rcases ran : (store.learn clock d r).runOn kb with ⟨result, kb'⟩
      have outcome := learn_recorded ran
      cases result with
      | ok e =>
          obtain ⟨now, table, -⟩ := outcome
          exact table ▸ recorded n kb.table d.normalize.signature r now ih
      | error failure =>
          have same : kb'.table = kb.table := outcome
          exact same ▸ still n kb.table ih

theorem Taught.counted (taught : Taught n kb) (few : n < 2 ^ 64) {e : Entry α}
    (found : kb.table.get? signature = some e) : e.Counted n := by
  have counted := taught.keeps (P := fun n t => n < 2 ^ 64 → ∀ signature e, t.get? signature = some e → e.Counted n)
    (fun _ signature e found => by cases found)
    (fun n t before below signature e found => (before (by omega) signature e found).mono (Nat.le_succ n))
    (fun n t signature r now before below other e found => by
      rcases Table.of_get?_record found with earlier | ⟨own, rfl, rfl | earlier⟩
      · exact (before (by omega) other e earlier).mono (Nat.le_succ n)
      · exact (Entry.counted_new signature now).record below r now
      · exact (before (by omega) signature own earlier).record below r now)
  exact counted few signature e found

theorem Taught.tempered {kb : MemoryKnowledge ℚ} (taught : Taught n kb) {e : Entry ℚ}
    (found : kb.table.get? signature = some e) : e.Tempered := by
  have tempered := taught.keeps (P := fun _ t => ∀ signature e, t.get? signature = some e → e.Tempered)
    (fun signature e found => by cases found)
    (fun _ _ before => before)
    (fun _ t signature r now before other e found => by
      rcases Table.of_get?_record found with earlier | ⟨own, rfl, -⟩
      · exact before other e earlier
      · exact own.tempered_record r now)
  exact tempered signature e found

end Remedy.MemoryKnowledge
