import Mathlib.Data.List.Dedup
import Mathlib.Data.UInt
import Remedy.Knowledge.Statistics
import Remedy.Proofs.Engine.Mirror
import Remedy.Proofs.Knowledge.Taught

/-! Sums over what was learned, with exact numbers. Main statement: they are the sums over the reports, however these
were spread over signatures and in whatever order the entries are listed. -/

namespace Remedy

namespace Table

section Totals

variable {α M : Type} {t : Table α}

def total [AddCommMonoid M] (quantity : Entry α → M) (t : Table α) : M := (t.entries.map quantity).sum

theorem total_insert [AddCommMonoid M] (quantity : Entry α → M) (ordered : Ordered t.entries) (e : Entry α) :
    (t.insert e).total quantity + (t.get? e.signature).elim 0 quantity = t.total quantity + quantity e := by
  obtain ⟨entries⟩ := t
  unfold insert total
  dsimp only at ordered ⊢
  induction entries with
  | nil => simp [insertInto, get?]
  | cons f rest ih =>
      obtain ⟨before, tail⟩ := List.pairwise_cons.mp ordered
      rw [get?_cons]
      unfold insertInto
      split
      · rename_i less
        have apart : f.signature ≠ e.signature := fun same => Signature.compare_lt_irrefl _ (same ▸ less)
        have absent : (⟨rest⟩ : Table α).get? e.signature = none :=
          get?_behind fun g later => Signature.compare_lt_trans less (before g later)
        rw [if_neg apart, absent, List.map_cons, List.sum_cons, Option.elim_none, add_zero, add_comm]
      · rename_i same
        rw [if_pos ((Signature.compare_eq_eq_iff _ _).mp same).symm, Option.elim_some, List.map_cons, List.map_cons,
          List.sum_cons, List.sum_cons]
        ac_rfl
      · rename_i greater
        have apart : f.signature ≠ e.signature := by
          intro same
          rw [same, (Signature.compare_eq_eq_iff _ _).mpr rfl] at greater
          cases greater
        rw [if_neg apart, List.map_cons, List.sum_cons, List.map_cons, List.sum_cons, add_assoc, ih tail, add_assoc]

theorem total_record [AddCancelCommMonoid M] [Scalar α] {quantity : Entry α → M} {added : M} {signature : Signature}
    {r : Resolution} {now : Instant} (ordered : Ordered t.entries) (fresh : quantity (Entry.new signature now) = 0)
    (step : ∀ e, e = Entry.new signature now ∨ t.get? signature = some e →
      quantity (e.record r now) = quantity e + added) :
    (t.record signature r now).total quantity = t.total quantity + added := by
  have whole := total_insert quantity ordered (t.recorded signature r now)
  rw [t.signature_recorded signature r now] at whole
  have part : quantity (t.recorded signature r now) = (t.get? signature).elim 0 quantity + added := by
    unfold recorded
    cases found : t.get? signature with
    | none => exact (step _ (.inl rfl)).trans (congrArg (· + added) fresh)
    | some e => exact step e (.inr found)
  refine add_right_cancel (whole.trans ?_)
  rw [part]
  ac_rfl

end Totals

end Table

namespace Entry

variable {e : Entry ℚ} {r : Resolution}

/-- The minutes of all reports: as many times the mean as there are reports. -/
def minutes (e : Entry ℚ) : ℚ := e.averageTime * e.observed.toNat

theorem minutes_new (signature : Signature) (now : Instant) : (new signature now).minutes = 0 := by
  have mean : (new signature now : Entry ℚ).averageTime = (0.0 : ℚ) := rfl
  rw [minutes, mean]
  norm_num

theorem minutes_record (few : e.observed.toNat + 1 < 2 ^ 64) (now : Instant) :
    (e.record r now).minutes = e.minutes + r.timeToResolve.toNat := by
  have count : (e.record r now).observed.toNat = e.observed.toNat + 1 := LearnedSolution.toNat_add_one few
  have mean : (e.record r now).averageTime = e.averageTime + (r.timeToResolve.toNat - e.averageTime) /
      ((e.record r now).observed.toNat : ℚ) := rfl
  have some : ((e.observed.toNat + 1 : ℕ) : ℚ) ≠ 0 := Nat.cast_ne_zero.mpr (Nat.succ_ne_zero _)
  unfold minutes
  rw [mean, count]
  field_simp
  push_cast
  ring

end Entry

def Report.signature (report : Report) : Signature := report.diagnostic.normalize.signature

namespace Table

variable {t : Table ℚ} {reports : List Report}

/-- What reports come to in a table. The counters are machine words, and the means follow them until they are full. -/
structure Tells (reports : List Report) (t : Table ℚ) : Prop where
  ordered : Ordered t.entries
  known : ∀ signature, (t.get? signature).isSome ↔ signature ∈ reports.map Report.signature
  observed : t.total (·.observed) = UInt64.ofNat reports.length
  successes : t.total (·.successCount) = UInt64.ofNat (reports.countP (·.resolution.success))
  counted : reports.length < 2 ^ 64 → ∀ signature e, t.get? signature = some e → e.Counted reports.length
  minutes : reports.length < 2 ^ 64 →
    t.total Entry.minutes = (reports.map fun report => (report.resolution.timeToResolve.toNat : ℚ)).sum

theorem tells_empty : (empty : Table ℚ).Tells [] where
  ordered := List.Pairwise.nil
  known signature := by simp [empty, get?]
  observed := rfl
  successes := rfl
  counted few signature e found := by cases found
  minutes few := rfl

theorem Tells.record (tells : t.Tells reports) (report : Report) (now : Instant) :
    (t.record report.signature report.resolution now).Tells (report :: reports) where
  ordered := insertInto_ordered _ tells.ordered
  known signature := by
    rw [Table.record, get?_insert, List.map_cons, List.mem_cons, ← tells.known signature]
    have own := t.signature_recorded report.signature report.resolution now
    unfold recorded at own
    rw [own]
    by_cases here : report.signature = signature
    · simp [here]
    · simp [here, Ne.symm here]
  observed := by
    have more : (t.record report.signature report.resolution now).total (·.observed) = t.total (·.observed) + 1 :=
      total_record tells.ordered rfl fun _ _ => rfl
    rw [more, tells.observed, List.length_cons, UInt64.ofNat_add]
    rfl
  successes := by
    have more : (t.record report.signature report.resolution now).total (·.successCount) =
        t.total (·.successCount) + if report.resolution.success then 1 else 0 := by
      refine total_record tells.ordered rfl fun e _ => ?_
      unfold Entry.record
      cases report.resolution.success <;> simp
    rw [more, tells.successes, List.countP_cons, UInt64.ofNat_add]
    cases report.resolution.success <;> rfl
  counted few signature e found := by
    have fewer : reports.length < 2 ^ 64 := Nat.lt_of_succ_lt few
    rcases of_get?_record found with earlier | ⟨before, rfl, rfl | earlier⟩
    · exact (tells.counted fewer signature e earlier).mono (Nat.le_succ _)
    · exact (Entry.counted_new report.signature now).record few report.resolution now
    · exact (tells.counted fewer report.signature before earlier).record few report.resolution now
  minutes few := by
    have fewer : reports.length < 2 ^ 64 := Nat.lt_of_succ_lt few
    have more : (t.record report.signature report.resolution now).total Entry.minutes =
        t.total Entry.minutes + report.resolution.timeToResolve.toNat := by
      refine total_record tells.ordered (Entry.minutes_new _ now) fun e origin => Entry.minutes_record ?_ now
      have counted : e.Counted reports.length := by
        rcases origin with rfl | found
        · exact Entry.counted_new report.signature now
        · exact tells.counted fewer report.signature e found
      exact lt_of_le_of_lt (Nat.succ_le_succ counted.most) few
    rw [more, tells.minutes fewer, List.map_cons, List.sum_cons, add_comm]

theorem mem_signatures {α : Type} {t : Table α} {signature : Signature} :
    signature ∈ t.entries.map (·.signature) ↔ (t.get? signature).isSome := by
  unfold get?
  rw [List.find?_isSome, List.mem_map]
  simp

theorem Ordered.signatures_nodup {α : Type} {entries : List (Entry α)} (ordered : Ordered entries) :
    (entries.map (·.signature)).Nodup :=
  List.pairwise_map.mpr (ordered.imp fun {a b} less (same : a.signature = b.signature) =>
    Signature.compare_lt_irrefl b.signature (same ▸ less))

theorem Tells.length (tells : t.Tells reports) : t.entries.length = (reports.map Report.signature).dedup.length := by
  have same : (t.entries.map (·.signature)).Perm (reports.map Report.signature).dedup := by
    rw [List.perm_ext_iff_of_nodup tells.ordered.signatures_nodup (List.nodup_dedup _)]
    intro signature
    rw [mem_signatures, tells.known, List.mem_dedup]
  rw [← same.length_eq, List.length_map]

end Table

namespace Statistics

variable {t : Table ℚ} {reports : List Report} {shown : List (Entry ℚ)}

theorem sum_eq_total {M : Type} [AddCommMonoid M] (quantity : Entry ℚ → M) (perm : shown.Perm t.entries) :
    (shown.map quantity).foldl (· + ·) 0 = t.total quantity := by
  rw [← List.sum_eq_foldl]
  exact (perm.map quantity).sum_eq

theorem ratio_exact (value : ℚ) (observed : UInt64) : ratio value observed = value / observed.toNat := by
  unfold ratio
  split
  · rename_i none
    rw [none]
    norm_num
  · rfl

theorem totalMinutes_exact (perm : shown.Perm t.entries) : totalMinutes shown = t.total Entry.minutes := by
  have start : (-0.0 : ℚ) = 0 := by norm_num
  unfold totalMinutes
  rw [start]
  exact sum_eq_total Entry.minutes perm

theorem observed_ofEntries (tells : t.Tells reports) (perm : shown.Perm t.entries) :
    (ofEntries shown).observed = UInt64.ofNat reports.length :=
  (sum_eq_total (·.observed) perm).trans tells.observed

theorem successes_ofEntries (tells : t.Tells reports) (perm : shown.Perm t.entries) :
    (ofEntries shown).successes = UInt64.ofNat (reports.countP (·.resolution.success)) :=
  (sum_eq_total (·.successCount) perm).trans tells.successes

/-- While the counters hold, the rates are those of the reports. -/
theorem exact_ofEntries (tells : t.Tells reports) (perm : shown.Perm t.entries) (few : reports.length < 2 ^ 64) :
    (ofEntries shown).observed.toNat = reports.length ∧
      (ofEntries shown).successes.toNat = reports.countP (·.resolution.success) ∧
      (ofEntries shown).successRate = reports.countP (·.resolution.success) / reports.length ∧
      (ofEntries shown).averageTime =
        (reports.map fun report => (report.resolution.timeToResolve.toNat : ℚ)).sum / reports.length := by
  have observed : (ofEntries shown).observed.toNat = reports.length := by
    rw [observed_ofEntries tells perm, UInt64.toNat_ofNat_of_lt' few]
  have successes : (ofEntries shown).successes.toNat = reports.countP (·.resolution.success) := by
    rw [successes_ofEntries tells perm, UInt64.toNat_ofNat_of_lt' (lt_of_le_of_lt List.countP_le_length few)]
  refine ⟨observed, successes, ?_, ?_⟩
  · rw [← observed, ← successes]
    exact ratio_exact _ _
  · rw [← observed, ← tells.minutes few, ← totalMinutes_exact perm]
    exact ratio_exact _ _

end Statistics

namespace MemoryKnowledge

variable {order : List (Entry ℚ) → List (Entry ℚ)} {kb : MemoryKnowledge ℚ} {reports : List Report}

/-- What is known after reports were learned, the latest first, from nothing. Calls that fail are not reports. -/
inductive Learned (order : List (Entry ℚ) → List (Entry ℚ)) : List Report → MemoryKnowledge ℚ → Prop where
  | start {kb : MemoryKnowledge ℚ} (unlearned : kb.table = Table.empty) (reached : kb.broken = false) :
      Learned order [] kb
  | learn {reports : List Report} {kb kb' : MemoryKnowledge ℚ} {e : Entry ℚ} (learned : Learned order reports kb)
      (report : Report) (ran : ((reordered order).learn report.clock report.diagnostic report.resolution).runOn kb =
        (.ok e, kb')) : Learned order (report :: reports) kb'
  | fail {reports : List Report} {kb kb' : MemoryKnowledge ℚ} {failure : Failure} (learned : Learned order reports kb)
      (report : Report) (ran : ((reordered order).learn report.clock report.diagnostic report.resolution).runOn kb =
        (.error failure, kb')) : Learned order reports kb'

theorem Learned.tells (learned : Learned order reports kb) : kb.table.Tells reports ∧ kb.broken = false := by
  induction learned with
  | start unlearned reached => exact ⟨unlearned ▸ Table.tells_empty, reached⟩
  | @learn reports kb kb' e learned report ran ih =>
      have ran : (store.learn report.clock report.diagnostic report.resolution).runOn kb = (.ok e, kb') := ran
      obtain ⟨now, table, -⟩ := learn_recorded ran
      exact ⟨table ▸ ih.1.record report now, reached_of_learn ran⟩
  | @fail reports kb kb' failure learned report ran ih =>
      have ran : (store.learn report.clock report.diagnostic report.resolution).runOn kb = (.error failure, kb') := ran
      have same : kb'.table = kb.table := learn_recorded ran
      have still := learn_broken report.clock report.diagnostic report.resolution kb
      rw [ran] at still
      exact ⟨same ▸ ih.1, still.trans ih.2⟩

theorem learned_of_valid
    (valid : ∀ report ∈ reports, Resolution.validateFor report.diagnostic report.resolution = .ok ()) :
    ∃ t, Learned order reports ⟨t, 0, false⟩ := by
  induction reports with
  | nil => exact ⟨Table.empty, .start rfl rfl⟩
  | cons report earlier ih =>
      rw [List.forall_mem_cons] at valid
      obtain ⟨t, learned⟩ := ih valid.2
      exact ⟨_, learned.learn report (learn_reached valid.1 t report.clock)⟩

/-- Statistics are those of all reports taken together. The counters are machine words, so they and the means are exact
as long as there are fewer than 2⁶⁴ reports. -/
theorem statistics_learned (reorders : ∀ entries, (order entries).Perm entries) (learned : Learned order reports kb) :
    ∃ stats, (reordered order).statistics.runOn kb = (.ok stats, kb) ∧
      stats.entries = (reports.map Report.signature).dedup.length ∧
      stats.observed = UInt64.ofNat reports.length ∧
      stats.successes = UInt64.ofNat (reports.countP (·.resolution.success)) ∧
      (reports = [] → stats.successRate = 0 ∧ stats.averageTime = 0) ∧
      (reports.length < 2 ^ 64 →
        stats.observed.toNat = reports.length ∧
        stats.successes.toNat = reports.countP (·.resolution.success) ∧
        stats.successRate = reports.countP (·.resolution.success) / reports.length ∧
        stats.averageTime =
          (reports.map fun report => (report.resolution.timeToResolve.toNat : ℚ)).sum / reports.length) := by
  obtain ⟨tells, reached⟩ := learned.tells
  have perm := reorders kb.table.entries
  have listed : (reordered order).entries.runOn kb = (.ok (order kb.table.entries), kb) := by
    obtain ⟨table, conflicts, broken⟩ := kb
    cases reached
    rfl
  refine ⟨Statistics.ofEntries (order kb.table.entries), ?_, perm.length_eq.trans tells.length,
    Statistics.observed_ofEntries tells perm, Statistics.successes_ofEntries tells perm, ?_,
    Statistics.exact_ofEntries tells perm⟩
  · unfold Store.statistics
    rw [ExceptT.runOn_bind, listed]
    exact ExceptT.runOn_pure _ _
  · rintro rfl
    obtain ⟨-, -, rate, mean⟩ := Statistics.exact_ofEntries tells perm (by decide)
    exact ⟨rate.trans (by norm_num), mean.trans (by norm_num)⟩

def unresolved : Diagnostic := ⟨⟨"a.ts"⟩, 1, 5, "Cannot find name 'b'.", 2304, .error, .genericError⟩

def mistyped : Diagnostic :=
  ⟨⟨"a.ts"⟩, 2, 5, "Type 'A' is not assignable to type 'B'.", 2322, .error, .genericError⟩

def alternating : List Report :=
  [⟨unresolved, ⟨2304, "b", "Import it", true, 6, some .helpful⟩, fun _ => ⟨2, 0⟩⟩,
    ⟨mistyped, ⟨2322, "A", "Convert it", false, 4, none⟩, fun _ => ⟨1, 0⟩⟩,
    ⟨unresolved, ⟨2304, "b", "Import it", true, 1, none⟩, fun _ => ⟨0, 0⟩⟩]

theorem statistics_learned_alternating : ∃ kb stats, Learned List.reverse alternating kb ∧
    (reordered List.reverse).statistics.runOn kb = (.ok stats, kb) ∧ stats.entries = 2 ∧ stats.observed = 3 ∧
      stats.successes = 2 ∧ stats.successRate = 2 / 3 ∧ stats.averageTime = 11 / 3 := by
  have valid : ∀ report ∈ alternating, Resolution.validateFor report.diagnostic report.resolution = .ok () := by
    decide +kernel
  obtain ⟨t, learned⟩ : ∃ t, Learned List.reverse alternating ⟨t, 0, false⟩ := learned_of_valid valid
  have distinct : (alternating.map Report.signature).dedup.length = 2 := by decide +kernel
  obtain ⟨stats, ran, entries, observed, successes, -, exactly⟩ :=
    statistics_learned (fun entries => entries.reverse_perm) learned
  obtain ⟨-, -, rate, mean⟩ := exactly (by decide)
  have minutes : (alternating.map fun report => (report.resolution.timeToResolve.toNat : ℚ)).sum = 11 := by
    decide +kernel
  rw [minutes] at mean
  exact ⟨_, stats, learned, ran, entries.trans distinct, observed, successes, rate, mean⟩

end MemoryKnowledge

end Remedy
