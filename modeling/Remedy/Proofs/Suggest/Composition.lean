import Remedy.Proofs.Knowledge.Accounts
import Remedy.Proofs.Suggest.Names

/-! What a list of suggestions is made of. Main statement: a fix for each rule that recognises the diagnostic, then the
best three solutions that worked and no rule describes, then general advice if no rule was for the diagnostic, and all of
these sorted by confidence. -/

namespace Remedy

variable {α : Type} [Scalar α]

namespace RuleBook

variable {d : Diagnostic} {source? : Option Buffer} {rules : List (ReadyRule α)} {fixes : List (Fix α)}

theorem fixesOf_isEmpty (made : fixesOf d source? rules = .ok fixes) :
    fixes.isEmpty = !rules.any (·.recognises d) := by
  have count := (fixesOf_offers made).length_eq
  rw [Bool.eq_iff_iff, List.isEmpty_iff_length_eq_zero, ← count, List.length_eq_zero_iff, List.filter_eq_nil_iff]
  simp

end RuleBook

namespace Suggest

open RuleBook (Offers)

section Parts

variable {past? : Option (Entry α)}

/-- The solutions that may be offered beside the fixes of rules: they worked, and no rule describes them. -/
def eligible (ruleFixes : List (Fix α)) (solutions : List LearnedSolution) : List LearnedSolution :=
  solutions.filter fun s =>
    0 < s.successes && !ruleFixes.any fun fix => Text.equalIgnoringCase fix.description s.solution

omit [Scalar α] in
theorem successfulSolutions_descends (e : Entry α) : Descends (fun s : LearnedSolution => s.successes.toNat)
    (e.solutions.filter fun s => 0 < s.successes) e.successfulSolutions :=
  @descends_mergeSort LearnedSolution (fun a b => b.successes ≤ a.successes) _ _ _
    (fun _ _ => decide_eq_true_iff.trans UInt64.le_iff_toNat_le) _

/-- As long as solutions have no white space around them, the best of these are offered. -/
theorem recalled_eq (policy : BlendPolicy α)
    (trimmed : ∀ e, past? = some e → ∀ s ∈ e.solutions, Text.trimmed s.solution = s.solution)
    (ruleFixes : List (Fix α)) :
    ∃ best, Descends (fun s : LearnedSolution => s.successes.toNat)
        (eligible ruleFixes (past?.elim [] Entry.solutions)) best ∧
      recalled policy ruleFixes past? = best.take 3 := by
  cases past? with
  | none => exact ⟨[], ⟨.nil, .nil, fun _ => rfl⟩, rfl⟩
  | some e =>
      have fresh := (successfulSolutions_descends e).filter fun s => !ruleFixes.any (describes s)
      have same : (e.solutions.filter fun s => 0 < s.successes).filter (fun s => !ruleFixes.any (describes s)) =
          eligible ruleFixes e.solutions := by
        rw [List.filter_filter]
        refine List.filter_congr fun s among => ?_
        have plain : describes s = fun fix : Fix α => Text.equalIgnoringCase fix.description s.solution := by
          funext fix
          rw [describes, trimmed e rfl s among]
        rw [plain, Bool.and_comm]
      rw [same] at fresh
      refine ⟨_, fresh, ?_⟩
      simp only [recalled, offered, learnedLimit, List.any_map, Function.comp_def, describes_reviewed]

end Parts

variable {m : Type → Type} [Monad m] {σ : Type} [World m σ] {store : Store m Float} {book : RuleBook Float}
  {Holds : σ → Table Float → Prop} {editor? : Option (Editor m)} {policy : BlendPolicy Float} {d : Diagnostic}
  {s s' : σ} {found : List (Fix Float)}

/-- After any reports, a list of suggestions is the stable sort by confidence of three parts. First there is one fix
for each rule that recognises the diagnostic, in the order of the book, with its confidence changed by history. Then
there are the first three solutions that worked and that no rule describes, those with most successes first and else
those that were reported first. General advice is last, exactly if no rule recognises the diagnostic. Confidences are
in the order of all values, which has negative zero below zero. -/
theorem suggested_composed (serves : store.Serves Holds) (apart : Apart editor? Holds) (holds : Holds s Table.empty)
    (reports : List Report) (book : RuleBook Float)
    (ran : (fixes store book editor? policy d).runOn (store.after s reports) = (.ok found, s')) :
    ∃ source? past? ruleFixes best learned general,
      ((sourceFor book editor? d.normalize).runOn (store.after s reports)).1 = .ok source? ∧
      ((store.get d.normalize.signature).runOn (store.after s reports)).1 = .ok past? ∧
      (∀ e, past? = some e → ∃ start told, e = (Entry.new d.normalize.signature start).after told ∧
        (told.map Prod.fst).Sublist
          ((reports.filter (·.signature = d.normalize.signature)).map (·.resolution)) ∧
        e.solutions.map (·.solution) =
          ((told.map Prod.fst).map fun r => Text.trimmed r.solution).eraseDupsBy Text.equalIgnoringCase) ∧
      List.Forall₂ (Offers d.normalize source?) (book.rules.filter (·.recognises d.normalize)) ruleFixes ∧
      Descends (fun s : LearnedSolution => s.successes.toNat)
        (eligible ruleFixes (past?.elim [] Entry.solutions)) best ∧
      List.Forall₂ (Recalls policy d.normalize past?) (best.take 3).zipIdx learned ∧
      (if book.rules.any (·.recognises d.normalize) then general = []
        else ∃ advice, Fix.build (generic d.normalize) = .ok advice ∧ general = [advice]) ∧
      Descends (fun fix => floatKey fix.confidence)
        (ruleFixes.map (reviewed policy past?) ++ learned ++ general) found := by
  -- The table, and so the entry, is what the reports make; from it come all parts.
  obtain ⟨t, holds', follows⟩ := Store.after_told serves holds reports
  obtain ⟨source?, s₁, ruleFixes, all, looked, matched, gathered, rfl⟩ := candidates_of_fixes serves apart holds' ran
  obtain ⟨learned, general, rfl, recalls, advised⟩ := candidates_parts gathered
  have trimmed : ∀ e, t.get? d.normalize.signature = some e → ∀ s ∈ e.solutions,
      Text.trimmed s.solution = s.solution := by
    intro e known
    obtain ⟨start, told, rfl, -⟩ := follows d.normalize.signature e known
    exact Entry.trimmed_after _ start told
  obtain ⟨best, descends, offered⟩ := recalled_eq policy trimmed ruleFixes
  obtain ⟨s₂, got, -⟩ := serves.get holds' d.normalize.signature
  refine ⟨source?, t.get? d.normalize.signature, ruleFixes, best, learned, general, congrArg Prod.fst looked,
    congrArg Prod.fst got, ?_, RuleBook.fixesOf_offers matched, descends, offered ▸ recalls, ?_, Fix.ranked_descends _⟩
  · intro e known
    obtain ⟨start, told, rfl, listed⟩ := follows d.normalize.signature e known
    exact ⟨start, told, rfl, listed, Entry.texts_after _ start told⟩
  · rw [RuleBook.fixesOf_isEmpty matched] at advised
    cases recognised : book.rules.any (·.recognises d.normalize) with
    | true => simpa [recognised] using advised
    | false => simpa [recognised] using advised

def wrapping : Rule Float := Rule.advice "wrap" [9999] "Wrap the value" .semiAutomatic 0.5

def pausing : Rule Float := Rule.advice "pause" [1] "Pause" .semiAutomatic 0.5

def wrapped : Report := ⟨stray, ⟨9999, "Hint:", "wrap the VALUE", true, 1, some .helpful⟩, fun _ => ⟨0, 0⟩⟩

def wraps : RuleBook Float := ⟨[⟨wrapping, none⟩, ⟨pausing, none⟩]⟩

theorem wraps_made : RuleBook.ofRules [wrapping, pausing] = .ok wraps := rfl

theorem wraps_describe : ∀ r ∈ wraps.rules, r.Describes stray.normalize := by
  intro r listed captures? _
  have plain : Captures.BeginsPlain r.rule.description := by
    rcases List.mem_pair.mp listed with rfl | rfl
    · exact ⟨_, _, rfl, rfl, by decide⟩
    · exact ⟨_, _, rfl, rfl, by decide⟩
  exact plain.fill captures?

theorem wraps_recognising : wraps.rules.filter (·.recognises stray.normalize) = [⟨wrapping, none⟩] := by
  have first : ReadyRule.recognises ⟨wrapping, none⟩ stray.normalize = true := by decide +kernel
  have second : ReadyRule.recognises ⟨pausing, none⟩ stray.normalize = false := by decide +kernel
  simp [wraps, first, second]

theorem learned_wrapped {past? : Option (Entry Float)}
    (got : ((MemoryKnowledge.store.get stray.normalize.signature).runOn
      (MemoryKnowledge.store.after unlearned [wrapped, retried])).1 = .ok past?) :
    past?.elim [] Entry.solutions = [⟨"wrap the VALUE", "Hint:", 1, 1, 1, 0⟩, rerun] := by
  have both : (match ((MemoryKnowledge.store.get stray.normalize.signature).runOn
      (MemoryKnowledge.store.after unlearned [wrapped, retried])).1 with
      | .ok past? => decide (past?.elim [] Entry.solutions = [⟨"wrap the VALUE", "Hint:", 1, 1, 1, 0⟩, rerun])
      | .error _ => false) = true := by decide +kernel
  rw [got] at both
  exact of_decide_eq_true both

theorem suggested_composed_stray : ∃ b : RuleBook Float, RuleBook.ofRules [wrapping, pausing] = .ok b ∧ ∃ found s',
    (fixes MemoryKnowledge.store b none .standard stray).runOn
      (MemoryKnowledge.store.after unlearned [wrapped, retried]) = (.ok found, s') ∧
    (found.map (·.description)).Perm ["Wrap the value", "Run it again"] := by
  have few : 0 + [wrapped, retried].length < 2 ^ 64 := by decide
  obtain ⟨t, holds, sound⟩ := Store.after_sound MemoryKnowledge.serves holds_unlearned Table.sound_empty few
  rcases fixes_runOn MemoryKnowledge.serves apart_none holds sound few (RuleBook.accepted_of_ofRules wraps_made)
    standard_weight stray_valid with ⟨⟨found, s', ran, -⟩, -⟩ | ⟨r, member, -, silent⟩
  · refine ⟨wraps, wraps_made, found, s', ran, ?_⟩
    obtain ⟨source?, past?, ruleFixes, best, learned, general, -, got, -, offers, sorted, recalls, advised, ranked⟩ :=
      suggested_composed MemoryKnowledge.serves apart_none holds_unlearned [wrapped, retried] wraps ran
    rw [wraps_recognising] at offers
    rw [learned_wrapped got] at sorted
    obtain ⟨base, rest, ⟨captures?, recognised, built⟩, others, rfl⟩ := List.forall₂_cons_left_iff.mp offers
    obtain rfl := List.forall₂_nil_left_iff.mp others
    have description : base.description = "Wrap the value" := by
      have plain : (ReadyRule.mk wrapping none).recognise stray.normalize = .yes none := by decide +kernel
      cases plain.symm.trans recognised
      rw [(Fix.build_kept built).2]
      rfl
    have kept : eligible [base] [⟨"wrap the VALUE", "Hint:", 1, 1, 1, 0⟩, rerun] = [rerun] := by
      simp only [eligible, List.any_cons, List.any_nil, description]
      decide +kernel
    rw [kept] at sorted
    obtain rfl := List.perm_singleton.mp sorted.perm
    obtain ⟨fix, rest, recalled, others, rfl⟩ := List.forall₂_cons_left_iff.mp recalls
    obtain rfl := List.forall₂_nil_left_iff.mp others
    have recognises : wraps.rules.any (·.recognises stray.normalize) = true := by decide +kernel
    rw [if_pos recognises] at advised
    have parts := ranked.perm.map (·.description)
    have own : (reviewed .standard past? base).description = base.description := reviewed_description _ _ _
    rw [advised, List.append_nil, List.map_append, List.map_singleton, List.map_singleton, List.map_singleton, own,
      description, recalled.description] at parts
    exact parts
  · exact (silent (wraps_describe r member)).elim

end Suggest

end Remedy
