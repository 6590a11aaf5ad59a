import Remedy.Knowledge.Learn
import Remedy.Proofs.Action.Match
import Remedy.Proofs.Action.Stay

/-! Learning works through the store alone. Main statement: it meets some conflicts in a row, and ends with one more
round, whatever that comes to. -/

namespace Remedy.Store

open ExceptT (Stays)

variable {m : Type → Type} [Monad m] {σ : Type} [World m σ] {α : Type} [Scalar α]
  {R : σ → σ → Prop} [IsPreorder σ R] {store : Store m α}

section Conflicting

variable {signature : Signature} {r : Resolution} {clock : Nat → Instant} {now : Instant} {s t u : σ}
  {left round k : Nat}

def renewed (signature : Signature) (r : Resolution) (now : Instant) (found? : Option (Entry α)) : Entry α :=
  (found?.getD (Entry.new signature now)).record r now

theorem signature_renewed {found? : Option (Entry α)} (own : ∀ e, found? = some e → e.signature = signature)
    (r : Resolution) (now : Instant) : (renewed signature r now found?).signature = signature := by
  cases found? with
  | none => rfl
  | some e => exact own e rfl

/-- The entry is read, and putting what becomes of it meets a conflict. -/
def Conflicts (store : Store m α) (signature : Signature) (r : Resolution) (now : Instant) (s u : σ) : Prop :=
  ∃ found? t changed, (store.get signature).runOn s = (.ok found?, t) ∧
    (store.put (renewed signature r now found?)).runOn t = (.error (.service (.storeConflict changed)), u)

/-- So many rounds in a row that meet a conflict, from the one with this number on. -/
inductive Contested (store : Store m α) (signature : Signature) (r : Resolution) (clock : Nat → Instant) :
    Nat → Nat → σ → σ → Prop where
  | none {round : Nat} {s : σ} : Contested store signature r clock round 0 s s
  | more {round k : Nat} {s t u : σ} (conflict : store.Conflicts signature r (clock round) s t)
      (later : Contested store signature r clock (round + 1) k t u) :
      Contested store signature r clock round (k + 1) s u

theorem Contested.preserves {P : σ → Prop} (contested : store.Contested signature r clock round k s t)
    (each : ∀ {now s t}, store.Conflicts signature r now s t → P s → P t) (start : P s) : P t := by
  induction contested with
  | none => exact start
  | more conflict later ih => exact ih (each conflict start)

theorem Conflicts.learnFrom_eq (conflict : store.Conflicts signature r (clock round) s t) (left : Nat) :
    (store.learnFrom signature r clock (left + 1) round).runOn s =
      (store.learnFrom signature r clock left (round + 1)).runOn t := by
  obtain ⟨found?, v, changed, read, met⟩ := conflict
  unfold renewed at met
  rw [learnFrom, ExceptT.runOn_bind, read, ExceptT.andThen_ok, ExceptT.runOn_bind, Action.runOn_attempt, met]
  rfl

theorem learnFrom_of_settled (settled : ¬∃ t, store.Conflicts signature r (clock round) s t) (left : Nat) :
    (store.learnFrom signature r clock left round).runOn s = (store.learnRound signature r (clock round)).runOn s := by
  cases left with
  | zero => rfl
  | succ left =>
      rw [learnFrom, learnRound, ExceptT.runOn_bind, ExceptT.runOn_bind]
      rcases read : (store.get signature).runOn s with ⟨result, t⟩
      cases result with
      | error failure => rfl
      | ok found? =>
          rw [ExceptT.andThen_ok, ExceptT.andThen_ok, ExceptT.runOn_bind, ExceptT.runOn_bind, Action.runOn_attempt]
          rcases put : (store.put (renewed signature r (clock round) found?)).runOn t with ⟨result, u⟩
          unfold renewed at put
          rw [put, ExceptT.andThen_ok]
          split
          · rename_i changed conflict
            cases conflict
            exact absurd ⟨u, found?, t, changed, read, put⟩ settled
          · rw [ExceptT.runOn_bind, Action.runOn_ofExcept]

theorem Contested.learnFrom_eq (contested : store.Contested signature r clock round k s t) (left : Nat) :
    (store.learnFrom signature r clock (left + k) round).runOn s =
      (store.learnFrom signature r clock left (round + k)).runOn t := by
  induction contested with
  | none => rfl
  | @more round k s t u conflict later ih =>
      rw [← Nat.add_assoc, conflict.learnFrom_eq, ih, Nat.add_right_comm, Nat.add_assoc]

/-- Some rounds in a row meet a conflict, and learning comes to what the round after them comes to. -/
theorem learnFrom_ends (store : Store m α) (signature : Signature) (r : Resolution) (clock : Nat → Instant)
    (left round : Nat) (s : σ) : ∃ k ≤ left, ∃ t, store.Contested signature r clock round k s t ∧
      (store.learnFrom signature r clock left round).runOn s =
        (store.learnRound signature r (clock (round + k))).runOn t := by
  induction left generalizing round s with
  | zero => exact ⟨0, Nat.le_refl 0, s, .none, rfl⟩
  | succ left ih =>
      by_cases conflicting : ∃ t, store.Conflicts signature r (clock round) s t
      · obtain ⟨t, conflict⟩ := conflicting
        obtain ⟨k, few, u, contested, same⟩ := ih (round + 1) t
        refine ⟨k + 1, Nat.succ_le_succ few, u, .more conflict contested, ?_⟩
        rw [conflict.learnFrom_eq, same, Nat.add_right_comm, Nat.add_assoc]
      · exact ⟨0, Nat.zero_le _, s, .none, learnFrom_of_settled conflicting (left + 1)⟩

end Conflicting

theorem learnRound_stays (get : ∀ signature, Stays R (store.get signature))
    (put : ∀ e, Stays R (store.put e)) (signature : Signature) (r : Resolution) (now : Instant) :
    Stays R (store.learnRound signature r now) := by
  refine (get signature).bind ?_
  intro found?
  refine (put _).bind ?_
  intro done
  exact ExceptT.stays_pure _

theorem Conflicts.stays {signature : Signature} {r : Resolution} {now : Instant} {s t : σ}
    (get : ∀ signature, Stays R (store.get signature)) (put : ∀ e, Stays R (store.put e))
    (conflict : store.Conflicts signature r now s t) : R s t := by
  obtain ⟨found?, u, changed, read, met⟩ := conflict
  have reading := get signature s
  have putting := put (renewed signature r now found?) u
  rw [read] at reading
  rw [met] at putting
  exact IsTrans.trans _ _ _ reading putting

theorem learnFrom_stays (get : ∀ signature, Stays R (store.get signature))
    (put : ∀ e, Stays R (store.put e)) (signature : Signature) (r : Resolution) (clock : Nat → Instant)
    (left round : Nat) : Stays R (store.learnFrom signature r clock left round) := by
  intro s
  obtain ⟨k, -, t, contested, same⟩ := store.learnFrom_ends signature r clock left round s
  have reached : R s t := by
    refine contested.preserves (P := R s) ?_ (Std.Refl.refl s)
    intro now u v conflict before
    exact IsTrans.trans _ _ _ before (conflict.stays get put)
  rw [same]
  exact IsTrans.trans _ _ _ reached (learnRound_stays get put signature r (clock (round + k)) t)

/-- What no reading and no putting of an entry changes, learning does not change either. -/
theorem learn_stays (get : ∀ signature, Stays R (store.get signature))
    (put : ∀ e, Stays R (store.put e)) (clock : Nat → Instant) (d : Diagnostic) (r : Resolution) :
    Stays R (store.learn clock d r) := by
  unfold learn
  refine (Action.stays_ofDomain _).bind ?_
  intro valid
  exact learnFrom_stays get put _ r clock _ 0

section Matching

open ExceptT (Matches)

variable {n : Type → Type} [Monad n] {τ : Type} [World n τ] {S : σ → τ → Prop} {other : Store n α}

theorem learnRound_matches (get : ∀ signature, Matches S Eq (store.get signature) (other.get signature))
    (put : ∀ e, Matches S Eq (store.put e) (other.put e)) (signature : Signature) (r : Resolution) (now : Instant) :
    Matches S Eq (store.learnRound signature r now) (other.learnRound signature r now) := by
  refine (get signature).bind ?_
  rintro found? _ rfl
  refine (put _).bind ?_
  rintro done _ rfl
  exact ExceptT.matches_pure rfl

theorem learnFrom_matches (get : ∀ signature, Matches S Eq (store.get signature) (other.get signature))
    (put : ∀ e, Matches S Eq (store.put e) (other.put e)) (signature : Signature) (r : Resolution)
    (clock : Nat → Instant) (left round : Nat) :
    Matches S Eq (store.learnFrom signature r clock left round) (other.learnFrom signature r clock left round) := by
  induction left generalizing round with
  | zero => exact learnRound_matches get put signature r (clock round)
  | succ left ih =>
      refine (get signature).bind ?_
      rintro found? _ rfl
      refine (Action.matches_attempt (put _)).bind ?_
      rintro result _ rfl
      split
      · exact ih (round + 1)
      · refine (Action.matches_ofExcept result).bind ?_
        rintro done _ rfl
        exact ExceptT.matches_pure rfl

theorem learn_matches (get : ∀ signature, Matches S Eq (store.get signature) (other.get signature))
    (put : ∀ e, Matches S Eq (store.put e) (other.put e)) (clock : Nat → Instant) (d : Diagnostic) (r : Resolution) :
    Matches S Eq (store.learn clock d r) (other.learn clock d r) := by
  refine (Action.matches_ofDomain _).bind ?_
  rintro valid _ rfl
  exact learnFrom_matches get put _ r clock _ 0

end Matching

section Rounds

variable {signature : Signature} {r : Resolution} {clock : Nat → Instant} {d : Diagnostic} {s s' : σ} {e : Entry α}

theorem learnFrom_of_round {round : Nat}
    (ran : (store.learnRound signature r (clock round)).runOn s = (.ok e, s')) (left : Nat) :
    (store.learnFrom signature r clock left round).runOn s = (.ok e, s') := by
  cases left with
  | zero => exact ran
  | succ left =>
      obtain ⟨found?, t, got, ran⟩ := ExceptT.bind_ok.mp ran
      obtain ⟨done, u, put, ran⟩ := ExceptT.bind_ok.mp ran
      rw [learnFrom, ExceptT.runOn_bind, got, ExceptT.andThen_ok, ExceptT.runOn_bind, Action.runOn_attempt, put,
        ExceptT.andThen_ok]
      dsimp only
      rw [ExceptT.runOn_bind, Action.runOn_ofExcept]
      exact ran

theorem learn_of_valid (valid : Resolution.validateFor d r = .ok ()) :
    (store.learn clock d r).runOn s =
      (store.learnFrom d.normalize.signature r clock (learnRounds - 1) 0).runOn s := by
  unfold learn
  rw [ExceptT.runOn_bind, valid, Action.runOn_ofDomain_ok, ExceptT.andThen_ok]

theorem learn_of_round (valid : Resolution.validateFor d r = .ok ())
    (ran : (store.learnRound d.normalize.signature r (clock 0)).runOn s = (.ok e, s')) :
    (store.learn clock d r).runOn s = (.ok e, s') := by
  rw [learn_of_valid valid]
  exact learnFrom_of_round ran _

theorem learn_of_flaw {flaw : DomainError} (invalid : Resolution.validateFor d r = .error flaw) :
    (store.learn clock d r).runOn s = (.error (.domain flaw), s) := by
  unfold learn
  rw [ExceptT.runOn_bind, invalid, Action.runOn_ofDomain_error, ExceptT.andThen_error]

end Rounds

end Remedy.Store
