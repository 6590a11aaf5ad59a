import Remedy.Knowledge.Memory
import Remedy.Proofs.Knowledge.Confidence
import Remedy.Proofs.Knowledge.Learn
import Remedy.Proofs.Knowledge.Table

/-! Knowledge bases that come of learning. Main statement: what one report keeps true of a table is true of the
table that a store holds after any reports. -/

namespace Remedy

/-- A report of how a diagnostic was resolved, and the clock it is recorded by. -/
structure Report where
  diagnostic : Diagnostic
  resolution : Resolution
  clock : Nat → Instant

namespace Table

def record {α : Type} [Scalar α] (t : Table α) (signature : Signature) (r : Resolution) (now : Instant) : Table α :=
  t.insert (((t.get? signature).getD (Entry.new signature now)).record r now)

def recorded {α : Type} [Scalar α] (t : Table α) (signature : Signature) (r : Resolution) (now : Instant) : Entry α :=
  ((t.get? signature).getD (Entry.new signature now)).record r now

theorem signature_recorded {α : Type} [Scalar α] (t : Table α) (signature : Signature) (r : Resolution) (now : Instant) :
    (t.recorded signature r now).signature = signature :=
  Store.signature_renewed (fun _ => signature_of_get?) r now

theorem get?_record {α : Type} [Scalar α] (t : Table α) (signature : Signature) (r : Resolution) (now : Instant) :
    (t.record signature r now).get? signature =
      some (((t.get? signature).getD (Entry.new signature now)).record r now) := by
  rw [record, get?_insert]
  exact if_pos (t.signature_recorded signature r now)

theorem of_get?_record {α : Type} [Scalar α] {t : Table α} {signature other : Signature} {r : Resolution}
    {now : Instant} {e : Entry α} (found : (t.record signature r now).get? other = some e) :
    t.get? other = some e ∨
      ∃ before, e = before.record r now ∧
        (before = Entry.new signature now ∨ t.get? signature = some before) := by
  rw [record, get?_insert] at found
  split at found
  · cases found
    right
    cases known : t.get? signature with
    | none => exact ⟨_, rfl, .inl rfl⟩
    | some before => exact ⟨before, rfl, .inr rfl⟩
  · exact .inl found

def Sound (n : ℕ) (t : Table Float) : Prop := ∀ signature e, t.get? signature = some e → e.Sound n

def Tempered (t : Table Float) : Prop :=
  ∀ signature e, t.get? signature = some e → Between e.adjustment (-1) 1

variable {n : ℕ} {t : Table Float} {r : Resolution}

theorem sound_empty : (empty : Table Float).Sound n := by
  intro signature e found
  cases found

theorem tempered_empty : (empty : Table Float).Tempered := by
  intro signature e found
  cases found

theorem Sound.mono {k : ℕ} (sound : t.Sound n) (more : n ≤ k) : t.Sound k := by
  intro signature e found
  obtain ⟨adjustment, solutions⟩ := sound signature e found
  exact ⟨adjustment, fun s member => (solutions s member).mono more⟩

theorem Sound.record (sound : t.Sound n) (few : n + 1 < 2 ^ 64) (stated : Text.isAllBlank r.solution = false)
    (signature : Signature) (now : Instant) : (t.record signature r now).Sound (n + 1) := by
  intro other e found
  rcases of_get?_record found with earlier | ⟨before, rfl, rfl | earlier⟩
  · exact sound.mono (Nat.le_succ n) other e earlier
  · exact (Entry.sound_new signature now).record few stated now
  · exact (sound signature before earlier).record few stated now

theorem Tempered.record (tempered : t.Tempered) (signature : Signature) (r : Resolution) (now : Instant) :
    (t.record signature r now).Tempered := by
  intro other e found
  rcases of_get?_record found with earlier | ⟨before, rfl, rfl | earlier⟩
  · exact tempered other e earlier
  · exact Entry.adjustment_record (Entry.sound_new (n := 0) signature now).adjustment r now
  · exact Entry.adjustment_record (tempered signature before earlier) r now

end Table

namespace Store

variable {m : Type → Type} [Monad m] {σ : Type} [World m σ]

/-- A store that does not fail: it gives what its table has, and it takes an entry or refuses it and keeps
its table. -/
structure Serves (store : Store m Float) (Holds : σ → Table Float → Prop) : Prop where
  get : ∀ {s t}, Holds s t → ∀ signature,
    ∃ s', (store.get signature).runOn s = (.ok (t.get? signature), s') ∧ Holds s' t
  put : ∀ {s t}, Holds s t → ∀ e,
    (∃ s', (store.put e).runOn s = (.ok (), s') ∧ Holds s' (t.insert e)) ∨
      ∃ failure s', (store.put e).runOn s = (.error failure, s') ∧ Holds s' t

def after (store : Store m Float) (s : σ) (reports : List Report) : σ :=
  reports.foldl (fun s r => ((store.learn r.clock r.diagnostic r.resolution).runOn s).2) s

variable {store : Store m Float} {Holds : σ → Table Float → Prop} {s : σ} {t : Table Float} {n : ℕ}
  {r : Resolution}

theorem learnRound_runOn (serves : store.Serves Holds) (holds : Holds s t) (signature : Signature)
    (r : Resolution) (now : Instant) :
    (∃ e s', (store.learnRound signature r now).runOn s = (.ok e, s') ∧ Holds s' (t.record signature r now)) ∨
      ∃ failure s', (store.learnRound signature r now).runOn s = (.error failure, s') ∧ Holds s' t := by
  obtain ⟨s₁, got, read⟩ := serves.get holds signature
  unfold learnRound
  simp only [ExceptT.runOn_bind, got, ExceptT.andThen_ok]
  rcases serves.put read (((t.get? signature).getD (Entry.new signature now)).record r now) with
    ⟨s₂, put, taken⟩ | ⟨failure, s₂, put, refused⟩
  · left
    refine ⟨((t.get? signature).getD (Entry.new signature now)).record r now, s₂, ?_, taken⟩
    simp only [put, ExceptT.andThen_ok, ExceptT.runOn_pure]
  · right
    refine ⟨failure, s₂, ?_, refused⟩
    simp only [put, ExceptT.andThen_error]

theorem Conflicts.holds {now : Instant} {signature : Signature} {s' : σ} (serves : store.Serves Holds)
    (conflict : store.Conflicts signature r now s s') (holds : Holds s t) : Holds s' t := by
  obtain ⟨found?, u, changed, read, met⟩ := conflict
  obtain ⟨u', read', holds'⟩ := serves.get holds signature
  cases read.symm.trans read'
  rcases serves.put holds' (renewed signature r now (t.get? signature)) with ⟨v, put, -⟩ | ⟨failure, v, put, refused⟩
  · cases met.symm.trans put
  · cases met.symm.trans put
    exact refused

theorem learnFrom_runOn (serves : store.Serves Holds) (signature : Signature) (r : Resolution)
    (clock : Nat → Instant) (left round : Nat) (holds : Holds s t) :
    ∃ t', Holds ((store.learnFrom signature r clock left round).runOn s).2 t' ∧
      (t' = t ∨ ∃ now, t' = t.record signature r now) := by
  obtain ⟨k, -, u, contested, same⟩ := store.learnFrom_ends signature r clock left round s
  have still : Holds u t := contested.preserves (P := (Holds · t)) (fun conflict => conflict.holds serves) holds
  rcases learnRound_runOn serves still signature r (clock (round + k)) with
    ⟨e, s', ran, taken⟩ | ⟨failure, s', ran, refused⟩
  · rw [same, ran]
    exact ⟨_, taken, .inr ⟨_, rfl⟩⟩
  · rw [same, ran]
    exact ⟨t, refused, .inl rfl⟩

theorem stated_of_validateFor {d : Diagnostic} (valid : Resolution.validateFor d r = .ok ()) :
    Text.isAllBlank r.solution = false := by
  unfold Resolution.validateFor at valid
  obtain ⟨_, -, valid⟩ := Except.bind_eq_ok.mp valid
  obtain ⟨_, accepted, -⟩ := Except.bind_eq_ok.mp valid
  unfold Resolution.validate Resolution.flaw? at accepted
  cases blank : Text.isAllBlank r.solution with
  | false => rfl
  | true => simp [blank] at accepted

theorem learn_runOn (serves : store.Serves Holds) (holds : Holds s t) (clock : Nat → Instant) (d : Diagnostic)
    (r : Resolution) :
    ∃ t', Holds ((store.learn clock d r).runOn s).2 t' ∧
      (t' = t ∨
        Resolution.validateFor d r = .ok () ∧ ∃ now, t' = t.record d.normalize.signature r now) := by
  cases valid : Resolution.validateFor d r with
  | error e =>
      rw [learn_of_flaw valid]
      exact ⟨t, holds, .inl rfl⟩
  | ok _ =>
      rw [learn_of_valid valid]
      obtain ⟨t', holds', same | recorded⟩ :=
        learnFrom_runOn serves d.normalize.signature r clock (learnRounds - 1) 0 holds
      · exact ⟨t', holds', .inl same⟩
      · exact ⟨t', holds', .inr ⟨rfl, recorded⟩⟩

/-- What is true of a table and some reports, and stays true with one more report whether it is recorded or not, is true
after any reports. -/
theorem after_follows (serves : store.Serves Holds) {P : List Report → Table Float → Prop}
    (still : ∀ told report t, P told t → P (told ++ [report]) t)
    (recorded : ∀ told (report : Report) t now, P told t →
      Resolution.validateFor report.diagnostic report.resolution = .ok () →
      P (told ++ [report]) (t.record report.diagnostic.normalize.signature report.resolution now))
    (holds : Holds s t) (start : P [] t) (reports : List Report) :
    ∃ t', Holds (store.after s reports) t' ∧ P reports t' := by
  induction reports using List.reverseRecOn with
  | nil => exact ⟨t, holds, start⟩
  | append_singleton earlier report ih =>
      obtain ⟨t', holds', there⟩ := ih
      have last : store.after s (earlier ++ [report]) =
          ((store.learn report.clock report.diagnostic report.resolution).runOn (store.after s earlier)).2 :=
        List.foldl_concat _ _ _ _
      obtain ⟨t'', holds'', rfl | ⟨valid, now, rfl⟩⟩ :=
        learn_runOn serves holds' report.clock report.diagnostic report.resolution
      · exact ⟨t'', last ▸ holds'', still earlier report t'' there⟩
      · exact ⟨_, last ▸ holds'', recorded earlier report t' now there valid⟩

theorem after_keeps (serves : store.Serves Holds) {P : ℕ → Table Float → Prop}
    (still : ∀ n t, P n t → P (n + 1) t)
    (recorded : ∀ n t d r now, P n t → Resolution.validateFor d r = .ok () →
      P (n + 1) (t.record d.normalize.signature r now))
    (holds : Holds s t) (start : P n t) (reports : List Report) :
    ∃ t', Holds (store.after s reports) t' ∧ P (n + reports.length) t' := by
  refine after_follows serves (P := fun told t => P (n + told.length) t) ?_ ?_ holds start reports
  · intro told report t there
    rw [List.length_append]
    exact still _ t there
  · intro told report t now there valid
    rw [List.length_append]
    exact recorded _ t _ _ now there valid

theorem after_sound (serves : store.Serves Holds) (holds : Holds s t) (sound : t.Sound n)
    {reports : List Report} (few : n + reports.length < 2 ^ 64) :
    ∃ t', Holds (store.after s reports) t' ∧ t'.Sound (n + reports.length) := by
  obtain ⟨t', holds', there⟩ := after_keeps serves (P := fun n t => n < 2 ^ 64 → t.Sound n)
    (fun n t before below => (before (by omega)).mono (Nat.le_succ n))
    (fun n t d r now before valid below =>
      (before (by omega)).record below (stated_of_validateFor valid) d.normalize.signature now)
    holds (fun _ => sound) reports
  exact ⟨t', holds', there few⟩

theorem after_tempered (serves : store.Serves Holds) (holds : Holds s t) (tempered : t.Tempered)
    (reports : List Report) : ∃ t', Holds (store.after s reports) t' ∧ t'.Tempered :=
  after_keeps serves (P := fun _ t => t.Tempered) (n := 0) (fun _ _ before => before)
    (fun _ _ d r now before _ => before.record d.normalize.signature r now) holds tempered reports

end Store

namespace MemoryKnowledge

def Holds (kb : MemoryKnowledge Float) (t : Table Float) : Prop := kb.broken = false ∧ kb.table = t

theorem serves : (store : Store (StateM (MemoryKnowledge Float)) Float).Serves Holds where
  get := by
    rintro kb t ⟨reached, rfl⟩ signature
    refine ⟨kb, ?_, reached, rfl⟩
    change ((if kb.broken then _ else _), kb) = _
    rw [reached]
    rfl
  put := by
    rintro kb t ⟨reached, rfl⟩ e
    obtain ⟨table, conflicts, broken⟩ := kb
    cases reached
    cases conflicts with
    | zero => exact .inl ⟨⟨table.insert e, 0, false⟩, rfl, rfl, rfl⟩
    | succ left => exact .inr ⟨_, ⟨table, left, false⟩, rfl, rfl, rfl⟩

end MemoryKnowledge

end Remedy
