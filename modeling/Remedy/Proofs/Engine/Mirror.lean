import Remedy.Engine
import Remedy.Knowledge.Memory
import Remedy.Proofs.Action.Match
import Remedy.Proofs.Knowledge.Learn
import Remedy.Proofs.Knowledge.Reports
import Remedy.Proofs.Knowledge.RoundTrip
import Remedy.Proofs.Knowledge.Works
import Remedy.Proofs.Sorting

/-! Engines side by side, one over a file and one over memory. Main statement: as long as the file belongs to its engine
alone and no step on the disk fails, both answer every request alike. -/

namespace Remedy

namespace Table

theorem eq_of_signature {entries : List (Entry Float)} (ordered : Ordered entries) {a b : Entry Float}
    (first : a ∈ entries) (second : b ∈ entries) (same : a.signature = b.signature) : a = b := by
  have found := get?_of_mem ordered first
  rw [same, get?_of_mem ordered second] at found
  exact (Option.some.inj found).symm

end Table

section Orders

variable {entries shown : List (Entry Float)}

theorem bySignature_of_perm (ordered : Table.Ordered entries) (perm : shown.Perm entries) :
    shown.mergeSort (fun a b => a.signature.compare b.signature != .gt) =
      entries.mergeSort fun a b => a.signature.compare b.signature != .gt := by
  refine mergeSort_of_perm ?_ ?_ perm ?_
  · intro a b c first second
    rw [Signature.compare_ne_gt_iff] at first second ⊢
    omega
  · intro a b
    rw [Bool.or_eq_true, Signature.compare_ne_gt_iff, Signature.compare_ne_gt_iff]
    omega
  · intro a first b second before after
    rw [Signature.compare_ne_gt_iff] at before after
    exact Table.eq_of_signature ordered first second (Signature.eq_of_keys (by omega) (by omega))

theorem similarAmong_of_perm (ordered : Table.Ordered entries) (perm : shown.Perm entries) (signature : Signature) :
    Store.similarAmong signature shown = Store.similarAmong signature entries := by
  have ranked : ∀ a b : Entry Float,
      ((compare b.observed.toNat a.observed.toNat).then (a.signature.compare b.signature) != .gt) = true ↔
        b.observed.toNat < a.observed.toNat ∨ b.observed.toNat = a.observed.toNat ∧
          (a.signature.code.toNat < b.signature.code.toNat ∨ a.signature.code.toNat = b.signature.code.toNat ∧
            a.signature.category.rank ≤ b.signature.category.rank) := by
    intro a b
    rw [bne_iff_ne, ne_eq, Ordering.then_eq_gt, Nat.compare_eq_gt, Nat.compare_eq_eq, Signature.compare_eq_gt_iff,
      Signature.compare_eq_lt_iff]
    omega
  unfold Store.similarAmong
  refine congrArg (List.map _) (mergeSort_of_perm ?_ ?_ (perm.filter _) ?_)
  · intro a b c first second
    rw [ranked] at first second ⊢
    omega
  · intro a b
    rw [Bool.or_eq_true, ranked, ranked]
    omega
  · intro a first b second before after
    rw [ranked] at before after
    exact Table.eq_of_signature ordered (List.mem_of_mem_filter first) (List.mem_of_mem_filter second)
      (Signature.eq_of_keys (by omega) (by omega))

end Orders

namespace MemoryKnowledge

variable {α : Type}

/-- The store when its entries come in an order of their own, as those of a hash map do. -/
def reordered (order : List (Entry α) → List (Entry α)) : Store (StateM (MemoryKnowledge α)) α :=
  { store with entries := order <$> entries }

end MemoryKnowledge

/-- An editor of files that hold given texts; nothing is ever written through it. -/
def Editor.showing {m : Type → Type} [Monad m] (texts : Path → Except Failure Buffer) : Editor m where
  read path := Action.ofExcept (texts path)
  write _ _ := pure ()

section Consumers

open ExceptT (Matches)

variable {m n : Type → Type} [Monad m] [Monad n] {σ τ : Type} [World m σ] [World n τ] {R : σ → τ → Prop}
  {store : Store m Float} {store' : Store n Float}

theorem sourceFor_matches (book : RuleBook Float) (texts? : Option (Path → Except Failure Buffer)) (d : Diagnostic) :
    Matches R Eq (Suggest.sourceFor book (texts?.map Editor.showing : Option (Editor m)) d)
      (Suggest.sourceFor book (texts?.map Editor.showing : Option (Editor n)) d) := by
  cases texts? with
  | none => exact ExceptT.matches_pure rfl
  | some texts =>
      unfold Suggest.sourceFor
      simp only [Option.map_some]
      split
      · refine (Action.matches_attempt (Action.matches_ofExcept (texts d.file))).bind ?_
        rintro result _ rfl
        cases result with
        | ok b => exact ExceptT.matches_pure rfl
        | error e => exact ExceptT.matches_pure rfl
      · exact ExceptT.matches_pure rfl

theorem fixes_matches (get : ∀ signature, Matches R Eq (store.get signature) (store'.get signature))
    (book : RuleBook Float) (texts? : Option (Path → Except Failure Buffer)) (policy : BlendPolicy Float)
    (d : Diagnostic) :
    Matches R Eq (Suggest.fixes store book (texts?.map Editor.showing) policy d)
      (Suggest.fixes store' book (texts?.map Editor.showing) policy d) := by
  refine (Action.matches_ofDomain _).bind ?_
  rintro valid _ rfl
  refine (sourceFor_matches book texts? d.normalize).bind ?_
  rintro source? _ rfl
  refine (Action.matches_ofDomain _).bind ?_
  rintro ruleFixes _ rfl
  refine (get d.normalize.signature).bind ?_
  rintro past? _ rfl
  refine (Action.matches_ofDomain _).bind ?_
  rintro all _ rfl
  exact ExceptT.matches_pure rfl

theorem analyze_matches (get : ∀ signature, Matches R Eq (store.get signature) (store'.get signature))
    (window : UInt32) (d : Diagnostic) (batch : List Diagnostic) :
    Matches R Eq (store.analyze window d batch) (store'.analyze window d batch) := by
  refine (Action.matches_ofDomain _).bind ?_
  rintro valid _ rfl
  refine (get d.normalize.signature).bind ?_
  rintro past? _ rfl
  exact ExceptT.matches_pure rfl

variable (listing : Matches R (fun listed shown => Table.Ordered listed ∧ shown.Perm listed) store.entries store'.entries)
include listing

theorem similar_matches (signature : Signature) : Matches R Eq (store.similar signature) (store'.similar signature) := by
  refine listing.bind ?_
  rintro listed shown ⟨ordered, perm⟩
  exact ExceptT.matches_pure (similarAmong_of_perm ordered perm signature).symm

theorem sorted_matches (book : RuleBook Float) (settings : Settings Float) (editor? : Option (Editor m))
    (editor'? : Option (Editor n)) :
    Matches R Eq (Engine.entries ⟨store, book, editor?, settings⟩) (Engine.entries ⟨store', book, editor'?, settings⟩) := by
  refine listing.bind ?_
  rintro listed shown ⟨ordered, perm⟩
  exact ExceptT.matches_pure (bySignature_of_perm ordered perm).symm

end Consumers

namespace Engine

inductive Request where
  | learn (clock : Nat → Instant) (d : Diagnostic) (r : Resolution)
  | entry (signature : Signature)
  | entries
  | similar (signature : Signature)
  | suggest (d : Diagnostic)
  | analyze (d : Diagnostic) (batch : List Diagnostic)
  | flush

inductive Reply where
  | learned (e : Entry Float)
  | found (e? : Option (Entry Float))
  | listed (entries : List (Entry Float))
  | signatures (similar : List Signature)
  | fixes (fixes : List (Fix Float))
  | analysis (a : Analysis)
  | flushed

def ask {m : Type → Type} [Monad m] (e : Engine m Float) : Request → Action m Reply
  | .learn clock d r => .learned <$> e.learn clock d r
  | .entry signature => .found <$> e.entry signature
  | .entries => .listed <$> e.entries
  | .similar signature => .signatures <$> e.similar signature
  | .suggest d => .fixes <$> e.suggest d
  | .analyze d batch => .analysis <$> e.analyze d batch
  | .flush => (fun _ => .flushed) <$> e.flush

/-- A request, and what the engine does not decide when it answers. -/
structure Turn where
  request : Request
  /-- What the editor reads, if there is one. -/
  texts? : Option (Path → Except Failure Buffer)
  /-- The order in which a hash map gives its entries. -/
  order : List (Entry Float) → List (Entry Float)
  reorders : ∀ entries, (order entries).Perm entries

def inMemory (turn : Turn) : Store (StateM (MemoryKnowledge Float)) Float := MemoryKnowledge.reordered turn.order

section Runs

variable {m : Type → Type} [Monad m] {σ : Type} [World m σ] (book : RuleBook Float) (settings : Settings Float)
  (store : Turn → Store m Float)

def answer (turn : Turn) (s : σ) : Except Failure Reply × σ :=
  (ask ⟨store turn, book, turn.texts?.map Editor.showing, settings⟩ turn.request).runOn s

def answers (s : σ) : List Turn → List (Except Failure Reply)
  | [] => []
  | turn :: rest => (answer book settings store turn s).1 :: answers (answer book settings store turn s).2 rest

def after (s : σ) (turns : List Turn) : σ := turns.foldl (fun s turn => (answer book settings store turn s).2) s

end Runs

variable {m : Type → Type} [Monad m] {σ : Type} [World m σ] {f : KnowledgeFile m} {Ready : σ → Prop}
  {book : RuleBook Float} {settings : Settings Float}

/-- The numbers and the time of an entry are read back, and it can be observed once more. -/
structure Fits (e : Entry Float) : Prop where
  readsBack : e.ReadsBack
  few : e.observed.toNat < 2 ^ 64 - 1

/-- The file holds what is in memory, and its only handle has seen it. -/
structure Mirrors (f : KnowledgeFile m) (Ready : σ → Prop) (w : Table Float × σ) (kb : MemoryKnowledge Float) : Prop where
  holds : f.Holds Ready w.2 kb.table
  seen : w.1 = kb.table
  calm : kb.conflicts = 0
  reached : kb.broken = false
  fits : ∀ e ∈ kb.table.entries, Fits e

variable {w : Table Float × σ} {kb : MemoryKnowledge Float} {order : List (Entry Float) → List (Entry Float)}

theorem Mirrors.ordered (mirrors : Mirrors f Ready w kb) : Table.Ordered kb.table.entries :=
  KnowledgeFile.table_ordered mirrors.holds.there

theorem Mirrors.legible (mirrors : Mirrors f Ready w kb) : kb.table.Legible :=
  Table.legible_of_readsBack mirrors.ordered fun e member => (mirrors.fits e member).readsBack

open ExceptT (Matches)

theorem get_matches (lawful : f.Lawful) (works : f.Works Ready) (signature : Signature) :
    Matches (Mirrors f Ready) Eq (f.store.get signature) ((MemoryKnowledge.reordered order).get signature) := by
  intro w kb mirrors
  obtain ⟨seen, s⟩ := w
  obtain ⟨table, conflicts, broken⟩ := kb
  cases mirrors.reached
  obtain ⟨s', ran, holds⟩ := mirrors.holds.get lawful works signature seen
  have read : (f.store.get signature).runOn (seen, s) = (.ok (table.get? signature), (table, s')) := ran
  rw [read]
  exact ⟨.ok rfl, holds, rfl, mirrors.calm, rfl, mirrors.fits⟩

theorem entries_matches (lawful : f.Lawful) (works : f.Works Ready) (reorders : ∀ entries, (order entries).Perm entries) :
    Matches (Mirrors f Ready) (fun listed shown => Table.Ordered listed ∧ shown.Perm listed) f.store.entries
      (MemoryKnowledge.reordered order).entries := by
  intro w kb mirrors
  obtain ⟨seen, s⟩ := w
  obtain ⟨table, conflicts, broken⟩ := kb
  cases mirrors.reached
  obtain ⟨s', ran, holds⟩ := mirrors.holds.entries lawful works seen
  have read : f.store.entries.runOn (seen, s) = (.ok table.entries, (table, s')) := ran
  have shown : (MemoryKnowledge.reordered order).entries.runOn ⟨table, conflicts, false⟩ =
      (.ok (order table.entries), ⟨table, conflicts, false⟩) := ExceptT.runOn_map order MemoryKnowledge.entries _
  rw [read, shown]
  exact ⟨.ok ⟨mirrors.ordered, reorders table.entries⟩, holds, rfl, mirrors.calm, rfl, mirrors.fits⟩

theorem flush_matches (lawful : f.Lawful) (works : f.Works Ready) :
    Matches (Mirrors f Ready) Eq f.store.flush (MemoryKnowledge.reordered order).flush := by
  intro w kb mirrors
  obtain ⟨seen, s⟩ := w
  obtain ⟨s', ran, holds⟩ := mirrors.holds.flush lawful works mirrors.legible
  have flushed : f.store.flush.runOn (seen, s) = (.ok (), (kb.table, s')) := by
    rw [← ran]
    exact congrArg (fun seen => f.flush.runOn (seen, s)) mirrors.seen
  rw [flushed]
  exact ⟨.ok rfl, holds, rfl, mirrors.calm, mirrors.reached, mirrors.fits⟩

theorem newer_recorded {t : Table Float} (fits : ∀ e ∈ t.entries, Fits e) {signature : Signature} {known : Entry Float}
    (found : t.get? signature = some known) (r : Resolution) (now : Instant) :
    known.observed < (t.recorded signature r now).observed := by
  have few := (fits known (List.mem_of_find?_eq_some found)).few
  have counted : (t.recorded signature r now).observed = known.observed + 1 := by
    rw [Table.recorded, found]
    rfl
  rw [counted, UInt64.lt_iff_toNat_lt, UInt64.toNat_add]
  change known.observed.toNat < (known.observed.toNat + 1) % 2 ^ 64
  omega

theorem learnRound_mirrors (lawful : f.Lawful) (works : f.Works Ready) (mirrors : Mirrors f Ready w kb)
    (signature : Signature) (r : Resolution) (now : Instant)
    (fits : ∀ e ∈ (kb.table.record signature r now).entries, Fits e) :
    ∃ w', (f.store.learnRound signature r now).runOn w = (.ok (kb.table.recorded signature r now), w') ∧
      Mirrors f Ready w' { kb with table := kb.table.record signature r now } := by
  obtain ⟨seen, s⟩ := w
  obtain ⟨s₁, got, read⟩ := mirrors.holds.get lawful works signature seen
  have legible : (kb.table.record signature r now).Legible :=
    Table.legible_of_readsBack (Table.insertInto_ordered _ mirrors.ordered) fun e member => (fits e member).readsBack
  have newer : ∀ known, kb.table.get? (kb.table.recorded signature r now).signature = some known →
      known.observed < (kb.table.recorded signature r now).observed := by
    intro known found
    rw [Table.signature_recorded] at found
    exact newer_recorded mirrors.fits found r now
  obtain ⟨s₂, put, taken⟩ := read.put lawful works newer legible kb.table
  refine ⟨(kb.table.record signature r now, s₂), ?_, taken, rfl, mirrors.calm, mirrors.reached, fits⟩
  have looked : (f.store.get signature).runOn (seen, s) = (.ok (kb.table.get? signature), (kb.table, s₁)) := got
  have written : (f.store.put (kb.table.recorded signature r now)).runOn (kb.table, s₁) =
      (.ok (), (kb.table.record signature r now, s₂)) := put
  unfold Store.learnRound
  rw [ExceptT.runOn_bind, looked, ExceptT.andThen_ok]
  change (f.store.put (kb.table.recorded signature r now) >>= fun _ => pure (kb.table.recorded signature r now)).runOn _ = _
  rw [ExceptT.runOn_bind, written, ExceptT.andThen_ok, ExceptT.runOn_pure]

theorem learn_mirrors (lawful : f.Lawful) (works : f.Works Ready) (mirrors : Mirrors f Ready w kb)
    (clock : Nat → Instant) (d : Diagnostic) (r : Resolution)
    (fits : ∀ e ∈ (((MemoryKnowledge.reordered order).learn clock d r).runOn kb).2.table.entries, Fits e) :
    ((f.store.learn clock d r).runOn w).1 = (((MemoryKnowledge.reordered order).learn clock d r).runOn kb).1 ∧
      Mirrors f Ready ((f.store.learn clock d r).runOn w).2
        (((MemoryKnowledge.reordered order).learn clock d r).runOn kb).2 := by
  cases valid : Resolution.validateFor d r with
  | error flaw =>
      rw [Store.learn_of_flaw valid, Store.learn_of_flaw valid]
      exact ⟨rfl, mirrors⟩
  | ok _ =>
      have round : ((MemoryKnowledge.reordered order).learnRound d.normalize.signature r (clock 0)).runOn kb =
          (.ok (kb.table.recorded d.normalize.signature r (clock 0)),
            { kb with table := kb.table.record d.normalize.signature r (clock 0) }) := by
        obtain ⟨table, conflicts, broken⟩ := kb
        cases mirrors.reached
        cases mirrors.calm
        rfl
      rw [Store.learn_of_round valid round] at fits ⊢
      obtain ⟨w', ran, mirrors'⟩ := learnRound_mirrors lawful works mirrors d.normalize.signature r (clock 0) fits
      rw [Store.learn_of_round valid ran]
      exact ⟨rfl, mirrors'⟩

/-- One request: both engines give the same answer, and the file then holds what is in memory. -/
theorem answer_mirrors (lawful : f.Lawful) (works : f.Works Ready) (mirrors : Mirrors f Ready w kb) (turn : Turn)
    (fits : ∀ e ∈ (answer book settings inMemory turn kb).2.table.entries, Fits e) :
    (answer book settings (fun _ => f.store) turn w).1 = (answer book settings inMemory turn kb).1 ∧
      Mirrors f Ready (answer book settings (fun _ => f.store) turn w).2 (answer book settings inMemory turn kb).2 := by
  obtain ⟨request, texts?, order, reorders⟩ := turn
  have get : ∀ signature, Matches (Mirrors f Ready) Eq (f.store.get signature)
      ((MemoryKnowledge.reordered order).get signature) := get_matches lawful works
  have listing := entries_matches lawful works reorders
  have alike : ∀ {x : Action (StateT (Table Float) m) Reply} {y : Action (StateM (MemoryKnowledge Float)) Reply},
      Matches (Mirrors f Ready) Eq x y → (x.runOn w).1 = (y.runOn kb).1 ∧ Mirrors f Ready (x.runOn w).2 (y.runOn kb).2 :=
    fun step => ⟨Except.alike_eq_iff.mp (step w kb mirrors).1, (step w kb mirrors).2⟩
  -- Learning alone changes the table, so it alone needs what is read back of the new one.
  cases request with
  | learn clock d r =>
      unfold answer ask inMemory at fits ⊢
      simp only [ExceptT.runOn_map] at fits ⊢
      obtain ⟨same, mirrors'⟩ := learn_mirrors lawful works mirrors clock d r fits
      exact ⟨congrArg (Except.map Reply.learned) same, mirrors'⟩
  | entry signature => exact alike ((get signature).map Reply.found)
  | entries => exact alike ((sorted_matches listing book settings _ _).map Reply.listed)
  | similar signature => exact alike ((similar_matches listing signature).map Reply.signatures)
  | suggest d => exact alike ((fixes_matches get book texts? settings.blend d).map Reply.fixes)
  | analyze d batch => exact alike ((analyze_matches get settings.relatedLineWindow d batch).map Reply.analysis)
  | flush => exact alike ((flush_matches lawful works).map fun _ => Reply.flushed)

theorem answers_mirror (lawful : f.Lawful) (works : f.Works Ready) (mirrors : Mirrors f Ready w kb) (turns : List Turn)
    (fits : ∀ before, before <+: turns → ∀ e ∈ (after book settings inMemory kb before).table.entries, Fits e) :
    answers book settings (fun _ => f.store) w turns = answers book settings inMemory kb turns := by
  induction turns generalizing w kb with
  | nil => rfl
  | cons turn rest ih =>
      obtain ⟨same, mirrors'⟩ := answer_mirrors lawful works mirrors turn (fits [turn] ⟨rest, rfl⟩)
      have later := ih mirrors' fun before early => fits (turn :: before) (List.cons_prefix_cons.mpr ⟨rfl, early⟩)
      rw [answers, answers, same, later]

/-- An engine over a file that is new, and that no one else touches on a disk that does not fail, answers request after
request as one over memory does, in whatever order a hash map gives the entries there. What is taken for granted of the
entries is that their numbers and times are read back as they were written, and that none has been observed 2⁶⁴ - 1
times. -/
theorem file_answers_as_memory (lawful : f.Lawful) (works : f.Works Ready) {s : σ} (ready : Ready s)
    (fresh : f.table s = .ok .empty) (turns : List Turn)
    (fits : ∀ before, before <+: turns →
      ∀ e ∈ (after book settings inMemory (.ofEntries []) before).table.entries, Fits e) :
    answers book settings (fun _ => f.store) (.empty, s) turns = answers book settings inMemory (.ofEntries []) turns :=
  answers_mirror lawful works ⟨⟨fresh, ready⟩, rfl, rfl, rfl, fun _ member => by cases member⟩ turns fits

open Sharing (kept bare learnt unused solved still ahead own both)

/-- Turns that are answered so from a memory in which all entries fit, whatever turn has been reached. -/
structure Goes (kb : MemoryKnowledge Float) (turns : List Turn) (replies : List (Except Failure Reply)) : Prop where
  answered : answers .empty .standard inMemory kb turns = replies
  fits : ∀ before, before <+: turns → ∀ e ∈ (after .empty .standard inMemory kb before).table.entries, Fits e

theorem Goes.nil {kb : MemoryKnowledge Float} (fits : ∀ e ∈ kb.table.entries, Fits e) : Goes kb [] [] := by
  refine ⟨rfl, ?_⟩
  intro before early
  rw [List.prefix_nil.mp early]
  exact fits

theorem Goes.cons {kb kb' : MemoryKnowledge Float} {turn : Turn} {turns : List Turn} {reply : Except Failure Reply}
    {replies : List (Except Failure Reply)} (fits : ∀ e ∈ kb.table.entries, Fits e)
    (answered : answer .empty .standard inMemory turn kb = (reply, kb')) (goes : Goes kb' turns replies) :
    Goes kb (turn :: turns) (reply :: replies) := by
  constructor
  · rw [answers, answered, goes.answered]
  · intro before early
    rcases List.prefix_cons_iff.mp early with rfl | ⟨others, rfl, within⟩
    · exact fits
    · rw [after, List.foldl_cons, answered]
      exact goes.fits others within

def neighbour : Diagnostic := { unused with code := 2 }

def mended : Resolution := { solved with errorCode := 2 }

def neighbouring : Entry Float := (Entry.new neighbour.normalize.signature (ahead 0)).record mended (ahead 0)

def turned (request : Request) : Turn := ⟨request, none, List.reverse, fun _ => List.reverse_perm _⟩

/-- Two findings are reported, one of them again after a report that is for neither, and all else is asked. -/
def visit : List Turn :=
  [.learn still unused solved, .learn ahead neighbour mended, .entry own, .learn ahead unused mended,
    .learn ahead unused solved, .similar own, .suggest unused, .analyze unused [neighbour, unused], .flush,
    .entries].map turned

def replies (fixes : List (Fix Float)) : List (Except Failure Reply) :=
  [.ok (.learned learnt), .ok (.learned neighbouring), .ok (.found (some learnt)),
    .error (.domain (.invalidResolution (.otherCode 2 1))), .ok (.learned both),
    .ok (.signatures [neighbour.normalize.signature]), .ok (.fixes fixes),
    .ok (.analysis (.ofDiagnostic 10 unused [neighbour, unused] (some both))), .ok .flushed,
    .ok (.listed [both, neighbouring])]

def holding (entries : List (Entry Float)) : MemoryKnowledge Float := ⟨⟨entries⟩, 0, false⟩

theorem fits_learnt : Fits learnt := ⟨Sharing.learnt_readsBack, by decide⟩

theorem fits_both : Fits both := ⟨Sharing.both_readsBack, by decide⟩

theorem fits_neighbouring : Fits neighbouring := by
  have average : neighbouring.averageTime = 1 := by decide +kernel
  have adjusted : neighbouring.adjustment = 0.15 := by decide +kernel
  exact ⟨⟨average ▸ Sharing.minute_readsBack, adjusted ▸ Sharing.raised_readsBack, rfl⟩, by decide⟩

theorem offered_both : Suggest.offered both ([] : List (Fix Float)) = both.solutions := by
  have alone : both.successfulSolutions = both.solutions := List.mergeSort_singleton _
  unfold Suggest.offered
  rw [alone]
  rfl

theorem candidates_both :
    ∃ fixes, Suggest.candidates (α := Float) .standard unused.normalize [] (some both) = .ok fixes := by
  have gathered : Suggest.candidates (α := Float) .standard unused.normalize [] (some both) = do
      let known ← Suggest.learnedFixes (α := Float) .standard unused.normalize both 0 both.solutions
      return known ++ [← Fix.build (Suggest.generic unused.normalize)] := by
    simp only [Suggest.candidates, Suggest.withHistory, List.map_nil, offered_both, List.nil_append, bind_pure]
    rfl
  have built : (Suggest.candidates (α := Float) .standard unused.normalize [] (some both)).isOk = true := by
    rw [gathered]
    decide +kernel
  cases made : Suggest.candidates (α := Float) .standard unused.normalize [] (some both) with
  | ok fixes => exact ⟨fixes, rfl⟩
  | error e =>
      rw [made] at built
      cases built

theorem suggest_both :
    ∃ fixes, answer .empty .standard inMemory (turned (.suggest unused)) (holding [both, neighbouring]) =
      (.ok (.fixes fixes), holding [both, neighbouring]) := by
  obtain ⟨fixes, built⟩ := candidates_both
  refine ⟨Fix.ranked fixes, ?_⟩
  have valid : unused.validate = .ok () := rfl
  have policy : (Settings.standard : Settings Float).blend = .standard := rfl
  have matching : (RuleBook.empty : RuleBook Float).matchingFixes unused.normalize none = .ok [] := rfl
  have got : ((MemoryKnowledge.reordered List.reverse).get unused.normalize.signature).runOn
      (holding [both, neighbouring]) = (.ok (some both), holding [both, neighbouring]) := rfl
  unfold answer ask Engine.suggest Suggest.fixes turned inMemory
  simp only [valid, policy, Option.map_none, Suggest.sourceFor, ExceptT.runOn_map, ExceptT.runOn_bind,
    Action.runOn_ofDomain_ok, ExceptT.runOn_pure, matching, got, built, ExceptT.andThen_ok]
  rfl

theorem similar_both :
    answer .empty .standard inMemory (turned (.similar own)) (holding [both, neighbouring]) =
      (.ok (.signatures [neighbour.normalize.signature]), holding [both, neighbouring]) := by
  have asked : answer .empty .standard inMemory (turned (.similar own)) (holding [both, neighbouring]) =
      (.ok (.signatures (Store.similarAmong own [neighbouring, both])), holding [both, neighbouring]) := rfl
  have alone : Store.similarAmong own [neighbouring, both] = [neighbour.normalize.signature] :=
    congrArg (List.map Entry.signature) (List.mergeSort_singleton neighbouring)
  rw [asked, alone]

theorem listed_both :
    answer .empty .standard inMemory (turned .entries) (holding [both, neighbouring]) =
      (.ok (.listed [both, neighbouring]), holding [both, neighbouring]) := by
  have asked : answer .empty .standard inMemory (turned .entries) (holding [both, neighbouring]) =
      (.ok (.listed ([neighbouring, both].mergeSort fun a b => a.signature.compare b.signature != .gt)),
        holding [both, neighbouring]) := rfl
  have ordered : Table.Ordered [both, neighbouring] := List.pairwise_pair.mpr (by decide)
  have sorted : ([both, neighbouring].mergeSort fun a b => a.signature.compare b.signature != .gt) =
      [both, neighbouring] := List.mergeSort_of_pairwise (List.pairwise_pair.mpr (by decide))
  rw [asked, bySignature_of_perm ordered (List.Perm.swap _ _ _), sorted]

theorem visit_goes : ∃ fixes, Goes (.ofEntries []) visit (replies fixes) := by
  have none : ∀ e ∈ (holding []).table.entries, Fits e := fun e member => by cases member
  have first : ∀ e ∈ (holding [learnt]).table.entries, Fits e := List.forall_mem_singleton.mpr fits_learnt
  have second : ∀ e ∈ (holding [learnt, neighbouring]).table.entries, Fits e :=
    List.forall_mem_cons.mpr ⟨fits_learnt, List.forall_mem_singleton.mpr fits_neighbouring⟩
  have third : ∀ e ∈ (holding [both, neighbouring]).table.entries, Fits e :=
    List.forall_mem_cons.mpr ⟨fits_both, List.forall_mem_singleton.mpr fits_neighbouring⟩
  obtain ⟨fixes, suggested⟩ := suggest_both
  refine ⟨fixes, .cons none (rfl : _ = (_, holding [learnt])) ?_⟩
  refine .cons first (rfl : _ = (_, holding [learnt, neighbouring])) (.cons second rfl (.cons second rfl ?_))
  refine .cons second (rfl : _ = (_, holding [both, neighbouring])) (.cons third similar_both ?_)
  exact .cons third suggested (.cons third rfl (.cons third rfl (.cons third listed_both (.nil third))))

theorem file_answers_as_memory_visit :
    kept.Lawful ∧ kept.table bare = .ok .empty ∧ ∃ fixes,
      answers .empty .standard (fun _ => kept.store) (.empty, bare) visit = replies fixes := by
  have works := Tree.works (p := kept.path) (by decide) (by decide)
  obtain ⟨fixes, goes⟩ := visit_goes
  have same : answers .empty .standard (fun _ => kept.store) (Table.empty, bare) visit = _ :=
    file_answers_as_memory Sharing.kept_lawful works ⟨⟨rfl, rfl⟩, ⟨rfl, rfl⟩⟩ Sharing.kept_bare visit goes.fits
  exact ⟨Sharing.kept_lawful, Sharing.kept_bare, fixes, same.trans goes.answered⟩

end Engine

end Remedy
