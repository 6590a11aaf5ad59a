import Remedy.Proofs.Suggest.Complete
import Remedy.Proofs.Suggest.Source

/-! What a list of suggestions is like. Main statement: it is never empty, the most confident fixes come first, every
fix obeys the rules of fixes, and none is more autonomous than the rule it comes from. -/

namespace Remedy.Suggest

open Binary64

variable {α : Type} [Scalar α] {r : ReadyRule α} {d : Diagnostic} {fix : Fix α} {policy : BlendPolicy α}
  {past? : Option (Entry α)}

theorem FromRule.rank_le (own : FromRule policy past? r d fix) : r.rule.autonomy.rank ≤ fix.autonomy.rank := by
  obtain ⟨captures?, source?, base, -, made, rfl⟩ := own
  have built : r.rule.autonomy.rank ≤ base.autonomy.rank := (Fix.build_kept made).1
  cases past? with
  | none => exact built
  | some e => exact built.trans (base.rank_le_withConfidence _)

theorem Comes.wellFormed {policy : BlendPolicy Float} {ruleFixes : List (Fix Float)} {past? : Option (Entry Float)}
    {fix : Fix Float} (comes : Comes policy d ruleFixes past? fix)
    (number : policy.maxHistoryWeight.isNaN = false) (formed : ∀ base ∈ ruleFixes, base.WellFormed)
    (tempered : ∀ e, past? = some e → Between e.adjustment (-1) 1) : fix.WellFormed := by
  cases comes with
  | @rule base given =>
      have own := formed base given
      cases past? with
      | none => exact own
      | some e =>
          have blended := BlendPolicy.blend_between number (tempered e rfl) (isProportion_iff.mp own.proportion)
          exact own.withConfidence blended.not_isNaN
  | learned there among made => exact Fix.wellFormed_of_build made
  | advice unmatched made => exact Fix.wellFormed_of_build made

theorem candidates_wellFormed {policy : BlendPolicy Float} {book : RuleBook Float} {source? : Option Buffer}
    {ruleFixes all : List (Fix Float)} {past? : Option (Entry Float)} (number : policy.maxHistoryWeight.isNaN = false)
    (matched : book.matchingFixes d source? = .ok ruleFixes) (gathered : candidates policy d ruleFixes past? = .ok all)
    (tempered : ∀ e, past? = some e → Between e.adjustment (-1) 1) : ∀ fix ∈ all, fix.WellFormed := by
  have built : ∀ base ∈ ruleFixes, base.WellFormed := by
    intro base among
    obtain ⟨r, -, captures?, -, made⟩ := RuleBook.mem_fixesOf matched among
    exact Fix.wellFormed_of_build made
  intro fix member
  exact ((candidates_comes gathered).1 fix member).wellFormed number built tempered

variable {m : Type → Type} [Monad m] {σ : Type} [World m σ] {store : Store m Float} {book : RuleBook Float}
  {Holds : σ → Table Float → Prop} {editor? : Option (Editor m)} {policy : BlendPolicy Float} {s s' : σ}
  {found : List (Fix Float)} {t : Table Float}

/-- What was suggested are the candidates for what the rules and the table have. -/
theorem candidates_of_fixes (serves : store.Serves Holds) (apart : Apart editor? Holds) (holds : Holds s t)
    (ran : (fixes store book editor? policy d).runOn s = (.ok found, s')) :
    ∃ source? s₁ ruleFixes all, (sourceFor book editor? d.normalize).runOn s = (.ok source?, s₁) ∧
      book.matchingFixes d.normalize source? = .ok ruleFixes ∧
      candidates policy d.normalize ruleFixes (t.get? d.normalize.signature) = .ok all ∧
      found = Fix.ranked all := by
  obtain ⟨source?, s₁, ruleFixes, past?, all, looked, matched, got, gathered, same⟩ := fixes_ok ran
  obtain ⟨source', s₂, looked', holds'⟩ := sourceFor_runOn apart holds book d.normalize
  cases looked.symm.trans looked'
  obtain ⟨s₃, got', -⟩ := serves.get holds' d.normalize.signature
  rw [got] at got'
  cases got'
  exact ⟨source?, s₁, ruleFixes, all, looked, matched, gathered, same⟩

/-- After any reports, whatever the rules, the source and the history are: a list of suggestions is not empty, it is
sorted by confidence, every fix in it obeys the rules of fixes, and every rule that recognises the diagnostic has its
fix there, with no more autonomy than the rule has. -/
theorem suggested_wellFormed (serves : store.Serves Holds) (apart : Apart editor? Holds)
    (holds : Holds s Table.empty) (reports : List Report) (book : RuleBook Float)
    (number : Scalar.undefined policy.maxHistoryWeight = false)
    (ran : (fixes store book editor? policy d).runOn (store.after s reports) = (.ok found, s')) :
    found ≠ [] ∧
      found.Pairwise (fun a b => Scalar.le b.confidence a.confidence = true) ∧
      (∀ fix ∈ found, fix.WellFormed) ∧
      (∃ past?, ∀ r ∈ book.rules, r.recognises d.normalize = true →
        ∃ fix ∈ found, FromRule policy past? r d.normalize fix) ∧
      ∀ fix ∈ found, ∀ past?, ∀ r ∈ book.rules, FromRule policy past? r d.normalize fix →
        r.rule.autonomy.rank ≤ fix.autonomy.rank := by
  obtain ⟨t, holds', tempered⟩ := Store.after_tempered serves holds Table.tempered_empty reports
  obtain ⟨source?, -, ruleFixes, all, -, matched, gathered, rfl⟩ := candidates_of_fixes serves apart holds' ran
  have formed := candidates_wellFormed number matched gathered (tempered d.normalize.signature)
  have some := (candidates_comes gathered).2.2
  exact ⟨ranked_ne_nil some, Fix.ranked_sorted fun fix member => (formed fix member).proportion,
    fun fix member => formed fix (mem_ranked.mp member),
    ⟨_, fun r listed recognises => ranked_fromRule matched gathered listed recognises⟩,
    fun fix _ past? r _ own => own.rank_le⟩

def unimported : Diagnostic := ⟨⟨"a.ts"⟩, 1, 1, "Cannot find name 'useState'.", 2304, .error, .genericError⟩

def imported : Report :=
  ⟨unimported, ⟨2304, "Cannot find name", "Import it from react", true, 5, some .helpful⟩, fun _ => ⟨0, 0⟩⟩

theorem suggested_wellFormed_unimported : ∃ b : RuleBook Float, Catalog.book = .ok b ∧ ∃ found s',
    (fixes MemoryKnowledge.store b none .standard unimported).runOn
      (MemoryKnowledge.store.after unlearned [imported]) = (.ok found, s') ∧
    found ≠ [] ∧ (∀ fix ∈ found, fix.WellFormed) ∧
      ∃ past?, ∀ r ∈ b.rules, r.recognises unimported.normalize = true →
        ∃ fix ∈ found, FromRule .standard past? r unimported.normalize fix := by
  obtain ⟨b, made, all⟩ := Catalog.book_ok
  have few : 0 + [imported].length < 2 ^ 64 := by decide
  obtain ⟨t, holds, sound⟩ := Store.after_sound MemoryKnowledge.serves holds_unlearned Table.sound_empty few
  have accepted := (RuleBook.Grown.builtIn made).accepted
  rcases fixes_runOn MemoryKnowledge.serves apart_none holds sound few accepted standard_weight
    (d := unimported) rfl with ⟨⟨found, s', ran, -⟩, -⟩ | ⟨r, member, -, silent⟩
  · obtain ⟨some, -, formed, given, -⟩ := suggested_wellFormed MemoryKnowledge.serves apart_none holds_unlearned
      [imported] b rfl ran
    exact ⟨b, made, found, s', ran, some, formed, given⟩
  · exact (silent (describes_of_listed (all ▸ List.mem_map_of_mem member) unimported.normalize)).elim

end Remedy.Suggest
