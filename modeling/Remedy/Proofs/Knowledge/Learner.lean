import Remedy.Proofs.Knowledge.Calls
import Remedy.Proofs.Knowledge.Learn
import Remedy.Proofs.Knowledge.Table

/-! What a learner may ask of a store. Main statement: learning only ever puts the entry that comes next after
the one it has just read, and has learned exactly when such a put succeeds. -/

namespace Remedy.Calls

def isLearned : Calls (Except Failure (Entry Float)) → Bool
  | done (.ok _) => true
  | _ => false

def count (found? : Option (Entry Float)) : Nat := found?.elim 0 (·.observed.toNat)

/-- The entry counts at most one more than `n`; it starts over only where no higher count can be written. -/
def IsNext (n : Nat) (e : Entry Float) : Prop :=
  e.observed.toNat ≤ n + 1 ∧ (e.observed.toNat = 0 → UInt64.size ≤ n + 1)

/-- The calls put an entry of the signature only, the one next after `n`, which is the count of the last
reading; they end with an entry learned as soon as a put succeeds, and not before. -/
def Learns (signature : Signature) : Calls (Except Failure (Entry Float)) → Nat → Prop
  | done _, _ => True
  | get asked next, _ =>
    asked = signature ∧ ∀ found?, (∀ e, found? = some e → e.signature = signature) →
      (next (.ok found?)).isLearned = false ∧ Learns signature (next (.ok found?)) (count found?)
  | put e next, n =>
    e.signature = signature ∧ IsNext n e ∧ (next (.ok ())).isLearned = true ∧
      ∀ reason, (next (.error reason)).isLearned = false ∧ Learns signature (next (.error reason)) n
  | entries _, _ => False
  | flush _, _ => False

variable {signature : Signature}

theorem IsNext.mono {n n' : Nat} {e : Entry Float} (next : IsNext n e) (more : n ≤ n') : IsNext n' e := by
  obtain ⟨bounded, zero⟩ := next
  refine ⟨by omega, ?_⟩
  intro none
  have highest := zero none
  omega

theorem Learns.mono {x : Calls (Except Failure (Entry Float))} {n n' : Nat} (learns : Learns signature x n)
    (more : n ≤ n') : Learns signature x n' := by
  induction x with
  | done b => trivial
  | get asked next ih => exact learns
  | put e next ih =>
      obtain ⟨own, isNext, learned, failing⟩ := learns
      refine ⟨own, isNext.mono more, learned, ?_⟩
      intro reason
      have failed := failing reason
      exact ⟨failed.1, ih _ failed.2⟩
  | entries next ih => exact learns
  | flush next ih => exact learns

theorem learns_of_isLearned {x : Calls (Except Failure (Entry Float))} (learned : x.isLearned = true) (n : Nat) :
    Learns signature x n := by
  cases x with
  | done b => trivial
  | get asked next => cases learned
  | put e next => cases learned
  | entries next => cases learned
  | flush next => cases learned

theorem isNext_record (e : Entry Float) (r : Resolution) (now : Instant) :
    IsNext e.observed.toNat (e.record r now) := by
  have bound := e.observed.toNat_lt
  have counted : (e.record r now).observed.toNat = (e.observed.toNat + 1) % UInt64.size := by
    simp [Entry.record, UInt64.toNat_add, UInt64.size]
  unfold IsNext
  rw [counted]
  simp only [UInt64.size] at bound ⊢
  omega

theorem isNext_learnt (signature : Signature) (found? : Option (Entry Float)) (r : Resolution) (now : Instant) :
    IsNext (count found?) ((found?.getD (Entry.new signature now)).record r now) := by
  cases found? with
  | none => exact isNext_record (Entry.new signature now) r now
  | some e => exact isNext_record e r now

/-- The next entry raises the count by one, unless it is in the table already. -/
theorem observed_of_isNext {t : Table Float} {e : Entry Float} (isNext : IsNext (t.observed e.signature) e)
    (fresh : ∀ known, t.get? e.signature = some known → known.same e = true ∨ known.observed < e.observed) :
    e.observed.toNat + ((t.get? e.signature).any (·.same e)).toNat = t.observed e.signature + 1 := by
  obtain ⟨bounded, zero⟩ := isNext
  unfold Table.observed at bounded zero ⊢
  cases found : t.get? e.signature with
  | none =>
      simp only [found, Option.elim_none, UInt64.size] at bounded zero
      simp only [Option.any_none, Bool.toNat_false, Option.elim_none]
      omega
  | some known =>
      simp only [found, Option.elim_some] at bounded zero
      simp only [Option.any_some, Option.elim_some]
      cases same : known.same e with
      | true =>
          rw [Table.observed_of_same same]
          rfl
      | false =>
          have more := (fresh known found).resolve_left (by simp [same])
          have higher := UInt64.lt_iff_toNat_lt.mp more
          simp only [Bool.toNat_false]
          omega

theorem learns_learnRound (r : Resolution) (now : Instant) (n : Nat) :
    Learns signature (store.learnRound signature r now).run n := by
  refine ⟨rfl, ?_⟩
  intro found? own
  refine ⟨rfl, Store.signature_renewed own r now, isNext_learnt signature found? r now, rfl, ?_⟩
  intro reason
  exact ⟨rfl, trivial⟩

theorem learns_learnFrom (r : Resolution) (clock : Nat → Instant) (left round n : Nat) :
    Learns signature (store.learnFrom signature r clock left round).run n ∧
      (store.learnFrom signature r clock left round).run.isLearned = false := by
  induction left generalizing round n with
  | zero => exact ⟨learns_learnRound r (clock round) n, rfl⟩
  | succ left ih =>
      refine ⟨⟨rfl, ?_⟩, rfl⟩
      intro found? own
      refine ⟨rfl, Store.signature_renewed own r (clock round), isNext_learnt signature found? r (clock round), rfl, ?_⟩
      intro reason
      -- only a conflict leads to another round
      cases reason with
      | domain flaw => exact ⟨rfl, trivial⟩
      | service failure =>
          cases failure with
          | storeConflict changed => exact (ih (round + 1) _).symm
          | _ => exact ⟨rfl, trivial⟩
      | _ => exact ⟨rfl, trivial⟩

/-- Learning keeps to it, from whatever count. -/
theorem learns_learn (clock : Nat → Instant) (d : Diagnostic) (r : Resolution) (n : Nat) :
    Learns d.normalize.signature (learn clock d r) n ∧ (learn clock d r).isLearned = false := by
  have unfolded : learn clock d r = (Action.ofDomain (Resolution.validateFor d r) >>= fun _ =>
      store.learnFrom d.normalize.signature r clock (Store.learnRounds - 1) 0 : Action Calls (Entry Float)).run := rfl
  rw [unfolded]
  cases Resolution.validateFor d r with
  | error e => exact ⟨trivial, rfl⟩
  | ok valid => exact learns_learnFrom r clock (Store.learnRounds - 1) 0 n

end Remedy.Calls
