import Mathlib.Data.List.Nodup
import Remedy.Command.Plan
import Remedy.Proofs.Suggest.Helpful
import Remedy.Proofs.Suggest.Ranking
import Remedy.Proofs.Text.Digits

/-! The ids of suggested fixes. Main statement: exactly when they are distinct, so that an id picks out one fix. A rule
may be called what a learned solution is called. -/

namespace Remedy

namespace Suggest

variable {α : Type} [Scalar α] {d : Diagnostic}

def idFor (d : Diagnostic) (name : String) : String := Text.natText d.code.toNat ++ "-" ++ name

def learnedName (place : Nat) : String := "learned-" ++ Text.natText (place + 1)

theorem idFor_injective (d : Diagnostic) : Function.Injective (idFor d) := by
  intro a b same
  exact String.append_right_inj _ |>.mp same

theorem learnedName_injective : Function.Injective learnedName := by
  intro a b same
  have numbers : Text.natText (a + 1) = Text.natText (b + 1) := (String.append_right_inj _).mp same
  exact Nat.succ_injective (Text.natText_injective numbers)

theorem idFor_ne_generic (d : Diagnostic) (name : String) : idFor d name ≠ (generic d : Fix α).id := by
  intro same
  have first : "generic-investigate".toList.head? = some 'g' := rfl
  change Text.natText d.code.toNat ++ "-" ++ name = "generic-investigate" at same
  rw [← same, Text.natText, String.toList_append, String.toList_append, String.toList_ofList, List.append_assoc,
    List.head?_append_of_ne_nil _ Nat.toDigits_ne_nil] at first
  exact Text.toDigits_head?_of_not_digit rfl first

end Suggest

open Suggest (idFor learnedName)

namespace RuleBook

variable {α : Type} [Scalar α] {d : Diagnostic} {source? : Option Buffer} {rules : List (ReadyRule α)}
  {fixes : List (Fix α)}

theorem fixesOf_ids (made : fixesOf d source? rules = .ok fixes) :
    fixes.map (·.id) = (rules.filter (·.recognises d)).map fun r => idFor d r.rule.id := by
  have ids : List.Forall₂ Eq ((rules.filter (·.recognises d)).map fun r => idFor d r.rule.id) (fixes.map (·.id)) := by
    rw [List.forall₂_map_left_iff, List.forall₂_map_right_iff]
    refine (fixesOf_offers made).imp fun r fix offers => ?_
    obtain ⟨captures?, -, built⟩ := offers
    rw [(Fix.build_kept built).2]
    rfl
  rw [List.forall₂_eq_eq_eq] at ids
  exact ids.symm

end RuleBook

namespace Suggest

variable {α : Type} [Scalar α] {policy : BlendPolicy α} {d : Diagnostic} {ruleFixes listed all : List (Fix α)}
  {past? : Option (Entry α)} {e : Entry α}

theorem learnedFix_id {s : LearnedSolution} {place : Nat} {fix : Fix α}
    (made : learnedFix policy d e s place = .ok fix) : fix.id = idFor d (learnedName place) := by
  rw [(Fix.build_kept made).2]
  change Text.natText d.code.toNat ++ "-learned-" ++ _ = _
  have parts : "-learned-" = "-" ++ "learned-" := rfl
  rw [idFor, learnedName, parts]
  simp only [String.append_assoc]

theorem recalls_ids {place : ℕ} {solutions : List LearnedSolution}
    (recalls : List.Forall₂ (Recalls policy d past?) (solutions.zipIdx place) listed) :
    listed.map (·.id) = (List.range' place solutions.length).map fun n => idFor d (learnedName n) := by
  have ids : List.Forall₂ Eq ((solutions.zipIdx place).map fun item => idFor d (learnedName item.2))
      (listed.map (·.id)) := by
    rw [List.forall₂_map_left_iff, List.forall₂_map_right_iff]
    refine recalls.imp fun item fix offered => ?_
    obtain ⟨_, -, own⟩ := offered
    exact (learnedFix_id own).symm
  rw [List.forall₂_eq_eq_eq] at ids
  rw [← ids, ← List.zipIdx_map_snd place solutions, List.map_map]
  rfl

theorem reviewed_id (policy : BlendPolicy α) (past? : Option (Entry α)) (fix : Fix α) :
    (reviewed policy past? fix).id = fix.id := by
  cases past? with
  | none => rfl
  | some e => exact Fix.settle_id _

def recalled (policy : BlendPolicy α) (ruleFixes : List (Fix α)) : Option (Entry α) → List LearnedSolution
  | none => []
  | some e => offered e (ruleFixes.map (reviewed policy (some e)))

theorem candidates_parts (gathered : candidates policy d ruleFixes past? = .ok all) :
    ∃ learned general, all = ruleFixes.map (reviewed policy past?) ++ learned ++ general ∧
      List.Forall₂ (Recalls policy d past?) (recalled policy ruleFixes past?).zipIdx learned ∧
      if ruleFixes.isEmpty then ∃ advice, Fix.build (generic d) = .ok advice ∧ general = [advice] else general = [] := by
  rw [candidates_eq] at gathered
  obtain ⟨before, knownMade, gathered⟩ := Except.bind_eq_ok.mp gathered
  obtain ⟨learned, whole, recalls⟩ : ∃ learned, before = ruleFixes.map (reviewed policy past?) ++ learned ∧
      List.Forall₂ (Recalls policy d past?) (recalled policy ruleFixes past?).zipIdx learned := by
    cases past? with
    | none =>
        cases knownMade
        exact ⟨[], (List.append_nil _).trans (List.map_id ruleFixes) |>.symm, .nil⟩
    | some e =>
        obtain ⟨learned, learnedMade, knownMade⟩ := Except.bind_eq_ok.mp knownMade
        cases knownMade
        exact ⟨learned, rfl, learnedFixes_recalls learnedMade⟩
  subst whole
  cases ruleFixes with
  | nil =>
      obtain ⟨advice, built, gathered⟩ := Except.bind_eq_ok.mp gathered
      cases gathered
      exact ⟨learned, [advice], rfl, recalls, advice, built, rfl⟩
  | cons first rest =>
      cases gathered
      exact ⟨learned, [], (List.append_nil _).symm, recalls, rfl⟩

theorem candidates_ids (gathered : candidates policy d ruleFixes past? = .ok all) :
    all.map (·.id) = ruleFixes.map (·.id) ++
      ((List.range (recalled policy ruleFixes past?).length).map fun n => idFor d (learnedName n)) ++
        if ruleFixes.isEmpty then [(generic d : Fix α).id] else [] := by
  obtain ⟨learned, general, rfl, recalls, advised⟩ := candidates_parts gathered
  have kept : (ruleFixes.map (reviewed policy past?)).map (·.id) = ruleFixes.map (·.id) := by
    rw [List.map_map]
    exact List.map_congr_left fun fix _ => reviewed_id policy past? fix
  have last : general.map (·.id) = if ruleFixes.isEmpty then [(generic d : Fix α).id] else [] := by
    split at advised
    · rename_i unmatched
      obtain ⟨advice, built, rfl⟩ := advised
      rw [if_pos unmatched, List.map_singleton, (Fix.build_kept built).2]
    · rename_i matched
      rw [if_neg matched, advised, List.map_nil]
  rw [List.map_append, List.map_append, kept, last, recalls_ids recalls, List.range_eq_range']

omit [Scalar α] in
/-- Distinct names of rules and learned solutions stay distinct as ids, with or without general advice. -/
theorem ids_nodup_iff {names : List String} (distinct : names.Nodup) (k : Nat) :
    (names.map (idFor d) ++ (List.range k).map fun n => idFor d (learnedName n)).Nodup ↔
      ∀ name ∈ names, ∀ n < k, name ≠ learnedName n := by
  have learned : ((List.range k).map fun n => idFor d (learnedName n)) =
      ((List.range k).map learnedName).map (idFor d) := by rw [List.map_map]; rfl
  have places : ((List.range k).map learnedName).Nodup := List.nodup_range.map learnedName_injective
  rw [learned, ← List.map_append, List.nodup_map_iff (idFor_injective d), List.nodup_append]
  constructor
  · rintro ⟨-, -, apart⟩ name listed n below
    exact apart name listed _ (List.mem_map_of_mem (List.mem_range.mpr below))
  · intro apart
    refine ⟨distinct, places, ?_⟩
    intro name listed other numbered
    obtain ⟨n, below, rfl⟩ := List.mem_map.mp numbered
    exact apart name listed n (List.mem_range.mp below)

/-- So candidates have distinct ids exactly if no rule that offers a fix has the name of a learned solution. -/
theorem candidates_nodup_iff {names : List String} (distinct : names.Nodup)
    (named : ruleFixes.map (·.id) = names.map (idFor d)) (gathered : candidates policy d ruleFixes past? = .ok all) :
    (all.map (·.id)).Nodup ↔ ∀ name ∈ names, ∀ n, names.length + n < all.length → name ≠ learnedName n := by
  have ids := candidates_ids gathered
  rw [named] at ids
  cases ruleFixes with
  | nil =>
      obtain rfl : names = [] := by simpa using named.symm
      have numbered := (ids_nodup_iff (d := d) List.nodup_nil (recalled policy [] past?).length).mpr (by simp)
      refine iff_of_true ?_ (by simp)
      rw [ids, List.nodup_append]
      refine ⟨numbered, List.nodup_singleton _, ?_⟩
      intro id learned other advice
      rw [List.mem_singleton.mp advice]
      obtain ⟨n, -, rfl⟩ := List.mem_map.mp learned
      exact idFor_ne_generic d (learnedName n)
  | cons first rest =>
      rw [List.isEmpty_cons, if_neg Bool.false_ne_true, List.append_nil] at ids
      have total := congrArg List.length ids
      simp only [List.length_append, List.length_map, List.length_range] at total
      simp only [ids, total, Nat.add_lt_add_iff_left]
      exact ids_nodup_iff distinct _

omit [Scalar α] in
theorem find?_of_nodup {found : List (Fix α)} (distinct : (found.map (·.id)).Nodup) {fix : Fix α}
    (member : fix ∈ found) : found.find? (·.id == fix.id) = some fix := by
  induction found with
  | nil => cases member
  | cons first rest ih =>
      obtain ⟨fresh, later⟩ := List.nodup_cons.mp distinct
      rcases List.mem_cons.mp member with rfl | among
      · exact List.find?_cons_of_pos (beq_self_eq_true _)
      · have other : first.id ≠ fix.id := by
          intro same
          exact fresh (List.mem_map.mpr ⟨fix, among, same.symm⟩)
        rw [List.find?_cons_of_neg (by simpa using other)]
        exact ih later among

variable {m : Type → Type} [Monad m] {σ : Type} [World m σ] {store : Store m α} {book : RuleBook α}
  {editor? : Option (Editor m)} {original : Diagnostic} {found : List (Fix α)} {s s' : σ}

/-- The ids of suggestions are distinct exactly if no rule that recognises the diagnostic is called what one of the
learned solutions that are offered is called, and then the id of each fix picks it out. -/
theorem ids_distinct_iff (assembled : book.Assembled)
    (ran : (fixes store book editor? policy original).runOn s = (.ok found, s')) :
    ((found.map (·.id)).Nodup ↔ ∀ r ∈ book.rules, r.recognises original.normalize = true → ∀ n,
        book.rules.countP (·.recognises original.normalize) + n < found.length → r.rule.id ≠ learnedName n) ∧
      ((found.map (·.id)).Nodup → ∀ fix ∈ found, Plan.choose (some fix.id) found = some fix) := by
  refine ⟨?_, fun distinct fix member => find?_of_nodup distinct member⟩
  obtain ⟨source?, t, ruleFixes, past?, all, -, matched, -, gathered, rfl⟩ := fixes_ok ran
  have shuffled : (Fix.ranked all).Perm all := List.mergeSort_perm all _
  rw [(shuffled.map _).nodup_iff, shuffled.length_eq]
  set recognising := book.rules.filter (·.recognises original.normalize) with own
  have names : (recognising.map (·.rule.id)).Nodup := assembled.ids_nodup.sublist (List.filter_sublist.map _)
  have named : ruleFixes.map (·.id) = (recognising.map (·.rule.id)).map (idFor original.normalize) := by
    rw [List.map_map]
    exact RuleBook.fixesOf_ids matched
  rw [candidates_nodup_iff names named gathered, List.countP_eq_length_filter, ← own, List.length_map,
    List.forall_mem_map, own]
  simp only [List.mem_filter, and_imp]

def narrowed : Report := ⟨nullish, ⟨2531, "null", "Narrow the type", true, 1, some .helpful⟩, fun _ => ⟨0, 0⟩⟩

theorem catalog_not_learned : ∀ r ∈ (Catalog.rules : List (Rule Float)), ∀ n, r.id ≠ learnedName n := by
  have fronts : ∀ r ∈ (Catalog.rules : List (Rule Float)), Text.startsWith r.id "learned-" = false := by decide +kernel
  intro r listed n same
  have front := fronts r listed
  rw [same, learnedName, Text.startsWith, String.toList_append, List.isPrefixOf_iff_prefix.mpr (List.prefix_append _ _)]
    at front
  cases front

theorem ids_distinct_iff_nullish : ∃ b : RuleBook Float, Catalog.book = .ok b ∧ ∃ found s',
    (fixes MemoryKnowledge.store b none .standard nullish).runOn
      (MemoryKnowledge.store.after unlearned [narrowed]) = (.ok found, s') ∧
    (found.map (·.id)).Nodup ∧ ∀ fix ∈ found, Plan.choose (some fix.id) found = some fix := by
  obtain ⟨b, made, all⟩ := Catalog.book_ok
  have listed : ∀ r ∈ b.rules, r.rule ∈ (Catalog.rules : List (Rule Float)) :=
    fun r member => all ▸ List.mem_map_of_mem member
  have few : [narrowed].length < 2 ^ 64 := by decide
  have valid : nullish.validate = .ok () := rfl
  obtain ⟨found, s', ran, -⟩ := (fixes_given_iff MemoryKnowledge.serves apart_none holds_unlearned few (.builtIn made)
    standard_weight valid).1.mpr fun r member => describes_of_listed (listed r member) nullish.normalize
  obtain ⟨exactly, picks⟩ := ids_distinct_iff (.made made) ran
  have distinct := exactly.mpr fun r member _ n _ => catalog_not_learned r.rule (listed r member) n
  exact ⟨b, made, found, s', ran, distinct, picks distinct⟩

theorem offered_single {α : Type} {e : Entry α} {s : LearnedSolution} (only : e.solutions = [s])
    (worked : 0 < s.successes) {existing : List (Fix α)} (fresh : existing.any (describes s) = false) :
    offered e existing = [s] := by
  rw [offered, Entry.successfulSolutions, only, List.filter_cons, if_pos (decide_eq_true worked), List.filter_nil,
    List.mergeSort_singleton, List.filter_cons, fresh]
  rfl

def rerun : LearnedSolution := ⟨"Run it again", "Hint:", 1, 1, 1, 0⟩

/-- A rule that is called what the first learned solution is called. -/
def namesake : Rule Float := Rule.advice "learned-1" [9999] "Wrap the value" .semiAutomatic 0.5

theorem namesake_offers {fixes : List (Fix Float)}
    (matched : RuleBook.matchingFixes ⟨[⟨namesake, none⟩]⟩ stray.normalize none = .ok fixes) :
    fixes.map (·.id) = ["9999-learned-1"] ∧ fixes.any (describes rerun) = false := by
  have offers : (match RuleBook.matchingFixes ⟨[⟨namesake, none⟩]⟩ stray.normalize none with
      | .ok fixes => decide (fixes.map (·.id) = ["9999-learned-1"]) && !fixes.any (describes rerun)
      | .error _ => false) = true := by decide +kernel
  rw [matched] at offers
  simpa using offers

/-- After one success with another solution, the rule's fix and the learned one have the same id. -/
theorem namesake_shares_id : ∃ b : RuleBook Float, RuleBook.ofRules [namesake] = .ok b ∧ stray.validate = .ok () ∧
    ∃ found s', (fixes MemoryKnowledge.store b none .standard stray).runOn
        (MemoryKnowledge.store.after unlearned [retried]) = (.ok found, s') ∧
      found.map (·.id) = ["9999-learned-1", "9999-learned-1"] ∧ ¬(found.map (·.id)).Nodup := by
  have made : RuleBook.ofRules [namesake] = .ok ⟨[⟨namesake, none⟩]⟩ := rfl
  have accepted := RuleBook.accepted_of_ofRules made
  refine ⟨_, made, stray_valid, ?_⟩
  set t := (Table.empty : Table Float).record stray.normalize.signature retried.resolution ⟨0, 0⟩ with table
  have taught : MemoryKnowledge.store.after unlearned [retried] = ⟨t, 0, false⟩ :=
    congrArg Prod.snd (MemoryKnowledge.learn_reached rfl Table.empty retried.clock)
  have holds : MemoryKnowledge.Holds ⟨t, 0, false⟩ t := ⟨rfl, rfl⟩
  have stated : Text.isAllBlank retried.resolution.solution = false := Text.not_isAllBlank rfl rfl
  have sound : t.Sound 1 := (Table.sound_empty (n := 0)).record (by decide) stated _ _
  rw [taught]
  rcases fixes_runOn MemoryKnowledge.serves apart_none holds sound (by decide) accepted standard_weight stray_valid with
    ⟨⟨found, s', ran, -⟩, -⟩ | ⟨r, member, -, silent⟩
  · refine ⟨found, s', ran, ?_⟩
    obtain ⟨source?, s₁, ruleFixes, all, looked, matched, gathered, rfl⟩ :=
      candidates_of_fixes MemoryKnowledge.serves apart_none holds ran
    cases looked
    have worked := Table.get?_record (Table.empty : Table Float) stray.normalize.signature retried.resolution ⟨0, 0⟩
    obtain ⟨own, fresh⟩ := namesake_offers matched
    have known : recalled .standard ruleFixes (t.get? stray.normalize.signature) = [rerun] := by
      rw [table, worked]
      refine offered_single (by decide +kernel) (by decide) ?_
      simpa only [List.any_map, Function.comp_def, describes_reviewed] using fresh
    have ids := candidates_ids gathered
    rw [own, known] at ids
    have twice : all.map (·.id) = List.replicate 2 "9999-learned-1" := by
      rw [ids, List.isEmpty_eq_false_iff.mpr (by rintro rfl; cases own)]
      decide +kernel
    have shared : (Fix.ranked all).map (·.id) = List.replicate 2 "9999-learned-1" :=
      List.perm_replicate.mp (twice ▸ (List.mergeSort_perm all _).map _)
    rw [shared]
    exact ⟨rfl, by decide⟩
  · cases List.mem_singleton.mp member
    have plain : Captures.BeginsPlain namesake.description := ⟨_, _, rfl, rfl, by decide⟩
    exact (silent fun captures? _ => plain.fill captures?).elim

end Suggest

end Remedy
