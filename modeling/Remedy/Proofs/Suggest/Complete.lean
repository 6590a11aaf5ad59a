import Remedy.Proofs.Knowledge.Reports
import Remedy.Proofs.Rule.Book
import Remedy.Proofs.Suggest.Origin

/-! Suggesting comes to something. Main statement: some fix is suggested for a valid diagnostic unless a rule that
recognises it has a description that is blank when it is filled in. -/

namespace Remedy.Suggest

open Binary64

variable {book : RuleBook Float} {policy : BlendPolicy Float} {e : Entry Float} {d : Diagnostic} {n : ℕ}

theorem learnedFix_ok (number : policy.maxHistoryWeight.isNaN = false) (sound : e.Sound n) (few : n < 2 ^ 64)
    (d : Diagnostic) {s : LearnedSolution} (known : s.Sound n) (place : Nat) :
    ∃ fix, learnedFix policy d e s place = .ok fix := by
  have discount : Between (learnedDiscount : Float) 0 1 := isProportion_iff.mp (by decide)
  have base := (LearnedSolution.smoothedRate_between known few).mul discount
  have confident := isProportion_iff.mpr (BlendPolicy.blend_between number sound.adjustment base)
  unfold learnedFix Fix.build Fix.draft
  simp [known.described, confident]

theorem learnedFixes_ok (number : policy.maxHistoryWeight.isNaN = false) (sound : e.Sound n) (few : n < 2 ^ 64)
    (d : Diagnostic) {solutions : List LearnedSolution} (known : ∀ s ∈ solutions, s.Sound n) (place : Nat) :
    ∃ fixes, learnedFixes policy d e place solutions = .ok fixes := by
  induction solutions generalizing place with
  | nil => exact ⟨[], rfl⟩
  | cons s rest ih =>
      obtain ⟨first, firstMade⟩ := learnedFix_ok number sound few d (known s List.mem_cons_self) place
      obtain ⟨others, othersMade⟩ := ih (fun s later => known s (List.mem_cons_of_mem _ later)) (place + 1)
      refine ⟨first :: others, ?_⟩
      unfold learnedFixes
      simp only [firstMade, othersMade]
      rfl

theorem withHistory_ok (number : policy.maxHistoryWeight.isNaN = false) (sound : e.Sound n) (few : n < 2 ^ 64)
    (d : Diagnostic) (fixes : List (Fix Float)) :
    ∃ all, withHistory policy d e fixes = .ok all ∧ (fixes ≠ [] → all ≠ []) := by
  have known : ∀ s ∈ offered e (fixes.map fun fix => fix.withConfidence (policy.blend fix.confidence e)),
      s.Sound n := fun s member => sound.solutions s (mem_offered member).1
  obtain ⟨learned, made⟩ := learnedFixes_ok number sound few d known 0
  unfold withHistory
  simp only [made]
  refine ⟨_, rfl, ?_⟩
  intro some
  simp [some]

theorem generic_ok (d : Diagnostic) : ∃ fix : Fix Float, Fix.build (generic d) = .ok fix := by
  have described : Text.isAllBlank "Investigate and fix manually" = false := Text.not_isAllBlank rfl rfl
  have confident : Scalar.isProportion (0.3 : Float) = true := by decide
  unfold generic Fix.build Fix.draft
  simp [described, confident]

theorem candidates_ok (number : policy.maxHistoryWeight.isNaN = false) (few : n < 2 ^ 64) (d : Diagnostic)
    (ruleFixes : List (Fix Float)) {past? : Option (Entry Float)} (sound : ∀ e, past? = some e → e.Sound n) :
    ∃ all, candidates policy d ruleFixes past? = .ok all ∧ all ≠ [] := by
  obtain ⟨fixes, made, kept⟩ : ∃ fixes, known policy d ruleFixes past? = .ok fixes ∧
      (ruleFixes ≠ [] → fixes ≠ []) := by
    cases past? with
    | none => exact ⟨ruleFixes, rfl, id⟩
    | some e => exact withHistory_ok number (sound e rfl) few d ruleFixes
  rw [candidates_eq, made]
  cases ruleFixes with
  | nil =>
      obtain ⟨last, built⟩ := generic_ok d
      refine ⟨fixes ++ [last], ?_, by simp⟩
      simp only [Except.bind, List.isEmpty_nil, ↓reduceIte, built]
  | cons first rest => exact ⟨fixes, rfl, kept (List.cons_ne_nil first rest)⟩

theorem ranked_ne_nil {fixes : List (Fix Float)} (some : fixes ≠ []) : Fix.ranked fixes ≠ [] := by
  intro none
  apply some
  rw [← List.length_eq_zero_iff] at none ⊢
  rw [← none, Fix.ranked, List.length_mergeSort]

variable {m : Type → Type} [Monad m] {σ : Type} [World m σ] {store : Store m Float}
  {Holds : σ → Table Float → Prop} {editor? : Option (Editor m)} {s : σ} {t : Table Float}

/-- Reading a file, if files can be read at all, changes nothing that the store holds. -/
def Apart (editor? : Option (Editor m)) (Holds : σ → Table Float → Prop) : Prop :=
  ∀ editor ∈ editor?, ∀ path s t, Holds s t → Holds ((editor.read path).runOn s).2 t

theorem sourceFor_runOn (apart : Apart editor? Holds) (holds : Holds s t) (book : RuleBook Float) (d : Diagnostic) :
    ∃ source? s', (sourceFor book editor? d).runOn s = (.ok source?, s') ∧ Holds s' t := by
  unfold sourceFor
  cases editor? with
  | none => exact ⟨none, s, ExceptT.runOn_pure none s, holds⟩
  | some editor =>
      have still := apart editor rfl d.file s t holds
      dsimp only
      split
      · rw [ExceptT.runOn_bind, Action.runOn_attempt, ExceptT.andThen_ok]
        cases (editor.read d.file).runOn s |>.1 with
        | ok text => exact ⟨some text, _, ExceptT.runOn_pure _ _, still⟩
        | error e => exact ⟨none, _, ExceptT.runOn_pure _ _, still⟩
      · exact ⟨none, s, ExceptT.runOn_pure none s, holds⟩

/-- Either all rules that recognise the diagnostic describe their fix, or one that does not is the reason of the
failure. -/
theorem fixes_runOn (serves : store.Serves Holds) (apart : Apart editor? Holds) (holds : Holds s t)
    (sound : t.Sound n) (few : n < 2 ^ 64) (accepted : book.Accepted)
    (weight : Scalar.isProportion policy.maxHistoryWeight = true) (valid : d.validate = .ok ()) :
    (∃ found s', (fixes store book editor? policy d).runOn s = (.ok found, s') ∧ found ≠ []) ∧
        (∀ r ∈ book.rules, r.Describes d.normalize) ∨
      ∃ r ∈ book.rules, (∃ s', (fixes store book editor? policy d).runOn s =
        (.error (.domain (r.rule.blank d.normalize)), s')) ∧ ¬r.Describes d.normalize := by
  obtain ⟨source?, s₁, looked, holds₁⟩ := sourceFor_runOn apart holds book d.normalize
  have opened : (fixes store book editor? policy d).runOn s = ExceptT.andThen
      ((Action.ofDomain (book.matchingFixes d.normalize source?) : Action m (List (Fix Float))).runOn s₁)
      fun ruleFixes => do
        let past? ← store.get d.normalize.signature
        return Fix.ranked (← Action.ofDomain (candidates policy d.normalize ruleFixes past?)) := by
    unfold fixes
    simp only [ExceptT.runOn_bind, valid, Action.runOn_ofDomain_ok, ExceptT.andThen_ok, looked]
  rw [opened]
  rcases RuleBook.fixesOf_of_valid (fun r member => (accepted r member).1) d.normalize source? with
    ⟨⟨ruleFixes, made⟩, describe⟩ | ⟨r, member, failed, silent⟩
  · left
    refine ⟨?_, describe⟩
    obtain ⟨s₂, got, holds₂⟩ := serves.get holds₁ d.normalize.signature
    obtain ⟨all, gathered, some⟩ := candidates_ok (isProportion_iff.mp weight).not_isNaN few d.normalize ruleFixes
      (sound d.normalize.signature)
    refine ⟨Fix.ranked all, s₂, ?_, ranked_ne_nil some⟩
    simp only [RuleBook.matchingFixes, made, Action.runOn_ofDomain_ok, ExceptT.andThen_ok, ExceptT.runOn_bind,
      got, gathered, ExceptT.runOn_pure]
  · right
    refine ⟨r, member, ⟨s₁, ?_⟩, silent⟩
    rw [RuleBook.matchingFixes, failed, Action.runOn_ofDomain_error, ExceptT.andThen_error]

/-- After any reports, some fix is suggested for a valid diagnostic exactly if every rule that recognises it has a
description with something in it when it is filled in. A rule without one makes the whole list fail. -/
theorem fixes_given_iff (serves : store.Serves Holds) (apart : Apart editor? Holds) (holds : Holds s Table.empty)
    {reports : List Report} (few : reports.length < 2 ^ 64) (grown : book.Grown)
    (weight : Scalar.isProportion policy.maxHistoryWeight = true) (valid : d.validate = .ok ()) :
    ((∃ found s', (fixes store book editor? policy d).runOn (store.after s reports) = (.ok found, s') ∧
        found ≠ []) ↔ ∀ r ∈ book.rules, r.Describes d.normalize) ∧
      ((¬∀ r ∈ book.rules, r.Describes d.normalize) → ∃ r ∈ book.rules, ¬r.Describes d.normalize ∧
        ∃ s', (fixes store book editor? policy d).runOn (store.after s reports) =
          (.error (.domain (r.rule.blank d.normalize)), s')) := by
  rw [← Nat.zero_add reports.length] at few
  obtain ⟨t, holds', sound⟩ := Store.after_sound serves holds (Table.sound_empty (n := 0)) few
  rcases fixes_runOn serves apart holds' sound few grown.accepted weight valid with
    ⟨given, describe⟩ | ⟨r, member, ⟨s', failed⟩, silent⟩
  · exact ⟨⟨fun _ => describe, fun _ => given⟩, fun none => (none describe).elim⟩
  · refine ⟨⟨?_, fun describe => (silent (describe r member)).elim⟩, fun _ => ⟨r, member, silent, s', failed⟩⟩
    rintro ⟨found, last, ran, -⟩
    rw [failed] at ran
    cases ran

theorem describes_of_listed {r : ReadyRule Float} (listed : r.rule ∈ (Catalog.rules : List (Rule Float)))
    (d : Diagnostic) : r.Describes d := by
  intro captures? _
  exact (Catalog.rules_begin r.rule listed).fill captures?

theorem apart_none : Apart (none : Option (Editor m)) Holds := by
  intro editor absent
  cases absent

def stray : Diagnostic := ⟨⟨"a.ts"⟩, 1, 1, "Hint:", 9999, .error, .genericError⟩

theorem stray_valid : stray.validate = .ok () := rfl

theorem standard_weight : Scalar.isProportion (BlendPolicy.standard : BlendPolicy Float).maxHistoryWeight = true := by
  decide

def unlearned : MemoryKnowledge Float := ⟨Table.empty, 0, false⟩

theorem holds_unlearned : MemoryKnowledge.Holds unlearned Table.empty := ⟨rfl, rfl⟩

def retried : Report := ⟨stray, ⟨9999, "Hint:", "Run it again", true, 1, some .helpful⟩, fun _ => ⟨0, 0⟩⟩

theorem fixes_given_stray : ∃ b : RuleBook Float, Catalog.book = .ok b ∧
    ∃ found s', (fixes MemoryKnowledge.store b none .standard stray).runOn
      (MemoryKnowledge.store.after unlearned [retried]) = (.ok found, s') ∧ found ≠ [] := by
  obtain ⟨b, made, all⟩ := Catalog.book_ok
  have few : [retried].length < 2 ^ 64 := by decide
  have exactly := fixes_given_iff MemoryKnowledge.serves apart_none holds_unlearned few (.builtIn made)
    standard_weight stray_valid
  refine ⟨b, made, exactly.1.mpr ?_⟩
  intro r member
  exact describes_of_listed (all ▸ List.mem_map_of_mem member) stray.normalize

/-- A rule whose description is what its pattern captures. -/
def hint : Rule Float :=
  { Rule.advice "hint" [9999] "$\x7b1\x7d" .semiAutomatic 0.5 with messagePattern? := some "Hint:(.*)" }

theorem hint_silent {r : ReadyRule Float} (own : r.rule = hint)
    (read : RuleBook.readPattern r.rule = .ok r.pattern?) : ¬r.Describes stray.normalize := by
  have silent : (match RuleBook.readPattern hint with
      | .ok pattern? =>
        match (ReadyRule.mk hint pattern?).recognise stray.normalize with
        | .yes captures? => Text.isAllBlank (Captures.fill captures? hint.description)
        | .no => false
      | .error _ => false) = true := by decide +kernel
  obtain ⟨rule, pattern?⟩ := r
  subst own
  intro describes
  rw [read] at silent
  dsimp only at silent
  cases recognised : (ReadyRule.mk hint pattern?).recognise stray.normalize with
  | no =>
      rw [recognised] at silent
      cases silent
  | yes captures? =>
      rw [recognised] at silent
      exact Bool.false_ne_true ((describes captures? recognised).symm.trans silent)

/-- With that rule in the book a valid diagnostic gets no fix at all, not even general advice. -/
theorem empty_capture_fails : ∃ b b' : RuleBook Float, Catalog.book = .ok b ∧ b.extend [hint] = (b', .ok ()) ∧
    stray.validate = .ok () ∧
      ∃ s', (fixes MemoryKnowledge.store b' none .standard stray).runOn unlearned =
        (.error (.domain (.invalidFix "9999-hint" .emptyDescription)), s') := by
  obtain ⟨b, made, all⟩ := Catalog.book_ok
  have valid : ∀ r ∈ [hint], r.flaw? = none := by decide +kernel
  have readable : ∀ r ∈ [hint], (RuleBook.readPattern r).isOk = true := by decide +kernel
  have distinct : (b.ids ++ [hint].map (·.id)).Nodup := by
    have ids : b.ids = (Catalog.rules : List (Rule Float)).map (·.id) := by
      rw [RuleBook.ids, ← all, List.map_map]
      rfl
    rw [ids]
    decide +kernel
  obtain ⟨b', extended, added⟩ := RuleBook.extend_ok valid readable distinct
  have accepted := (RuleBook.Grown.extend (.builtIn made) extended).accepted
  rw [all] at added
  refine ⟨b, b', made, extended, stray_valid, ?_⟩
  rcases fixes_runOn MemoryKnowledge.serves apart_none holds_unlearned (Table.sound_empty (n := 0))
    (by decide) accepted standard_weight stray_valid with ⟨-, describe⟩ | ⟨r, member, ⟨s', failed⟩, silent⟩
  · have last : hint ∈ b'.rules.map (·.rule) := by simp [added]
    obtain ⟨r, member, own⟩ := List.mem_map.mp last
    exact (hint_silent own (accepted r member).2 (describe r member)).elim
  · have listed : r.rule ∈ Catalog.rules ++ [hint] := added ▸ List.mem_map_of_mem member
    rcases List.mem_append.mp listed with builtIn | last
    · exact (silent (describes_of_listed builtIn stray.normalize)).elim
    · have reason : hint.blank stray.normalize = .invalidFix "9999-hint" .emptyDescription := by decide +kernel
      rw [List.mem_singleton.mp last, reason] at failed
      exact ⟨s', failed⟩

end Remedy.Suggest
