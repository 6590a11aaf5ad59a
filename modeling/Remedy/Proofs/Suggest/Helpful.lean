import Remedy.Proofs.Knowledge.Taught
import Remedy.Proofs.Suggest.Source

/-! Suggestions before and after a success that was found helpful, with exact numbers. Main statement: exactly when
the fix of a rule is less confident afterwards. -/

namespace Remedy.Suggest

open ExceptT (Stays)

variable {policy : BlendPolicy ℚ} {past? : Option (Entry ℚ)} {rule : ReadyRule ℚ} {d : Diagnostic} {fix : Fix ℚ}

theorem FromRule.id_eq (own : FromRule policy past? rule d fix) :
    fix.id = Text.natText d.code.toNat ++ "-" ++ rule.rule.id := by
  obtain ⟨captures?, source?, base, -, made, rfl⟩ := own
  have given : base.id = Text.natText d.code.toNat ++ "-" ++ rule.rule.id := by
    rw [(Fix.build_kept made).2]
  cases past? with
  | none => exact given
  | some e => exact (Fix.settle_id _).trans given

theorem FromRule.proportion (own : FromRule policy past? rule d fix) :
    Scalar.isProportion rule.rule.confidence = true := by
  obtain ⟨captures?, source?, base, -, made, -⟩ := own
  exact (Fix.build_eq_ok_iff.mp made).1.proportion

theorem FromRule.confidence_eq (own : FromRule policy past? rule d fix) (now : Instant) :
    fix.confidence = policy.blend rule.rule.confidence (past?.getD (Entry.new d.signature now)) := by
  have proportion := own.proportion
  obtain ⟨captures?, source?, base, -, made, rfl⟩ := own
  have given : base.confidence = rule.rule.confidence := by
    rw [(Fix.build_kept made).2]
  cases past? with
  | none => exact given.trans (BlendPolicy.blend_unseen (e := Entry.new d.signature now) rfl).symm
  | some e =>
      obtain ⟨low, high⟩ := BlendPolicy.blend_proportion policy e proportion
      change (Fix.settle _).confidence = _
      rw [Fix.settle_confidence, given]
      exact Scalar.clamp_inside low high

variable {editor? : Option (Editor (StateM (MemoryKnowledge ℚ)))} {book : RuleBook ℚ} {found : List (Fix ℚ)}
  {kb kb' : MemoryKnowledge ℚ}

theorem suggested_fromRule (apart : ∀ editor ∈ editor?, ∀ path, Stays Eq (editor.read path))
    (ran : (fixes MemoryKnowledge.store book editor? policy d).runOn kb = (.ok found, kb')) :
    kb' = kb ∧ ∀ rule ∈ book.rules, rule.recognises d.normalize = true →
      ∃ fix ∈ found, FromRule policy (kb.table.get? d.normalize.signature) rule d.normalize fix := by
  obtain ⟨source?, kb₁, ruleFixes, past?, all, looked, matched, got, gathered, rfl⟩ := fixes_ok ran
  have kept : kb = kb₁ := by
    have still := sourceFor_stays book d.normalize apart kb
    rw [looked] at still
    exact still
  subst kept
  have reached : kb' = kb ∧ past? = kb.table.get? d.normalize.signature := by
    obtain ⟨table, conflicts, broken⟩ := kb
    cases broken with
    | true => cases got
    | false =>
        cases got
        exact ⟨rfl, rfl⟩
  obtain ⟨rfl, rfl⟩ := reached
  exact ⟨rfl, fun rule listed recognises => ranked_fromRule matched gathered listed recognises⟩

variable {n : ℕ} {kb₁ kb₂ kb₃ : MemoryKnowledge ℚ} {found' : List (Fix ℚ)} {r : Resolution} {clock : Nat → Instant}
  {learned : Entry ℚ}

/-- After any calls to learn, let one more success be learned that was found helpful. The fix of each rule that was
suggested is suggested again, and it is less confident than before exactly if most feedback so far was against the
solutions, history has not its full weight yet, and the tendency is negative: history, cut off at zero, then grows
too little to make up for its larger weight. -/
theorem helpful_success_lowers_iff (taught : MemoryKnowledge.Taught n kb) (few : n + 1 < 2 ^ 63)
    (capped : policy.historyCap ≠ 0) (weight : Scalar.isProportion policy.maxHistoryWeight = true)
    (apart : ∀ editor ∈ editor?, ∀ path, Stays Eq (editor.read path))
    (success : r.success = true) (helpful : r.feedback? = some .helpful)
    (before : (fixes MemoryKnowledge.store book editor? policy d).runOn kb = (.ok found, kb₁))
    (learning : (MemoryKnowledge.store.learn clock d r).runOn kb₁ = (.ok learned, kb₂))
    (after : (fixes MemoryKnowledge.store book editor? policy d).runOn kb₂ = (.ok found', kb₃)) :
    ∀ rule ∈ book.rules, rule.recognises d.normalize = true →
      (∃ fix ∈ found, FromRule policy (kb.table.get? d.normalize.signature) rule d.normalize fix) ∧
      (∃ fix' ∈ found', FromRule policy (some learned) rule d.normalize fix') ∧
      ∀ fix ∈ found, ∀ fix' ∈ found',
        FromRule policy (kb.table.get? d.normalize.signature) rule d.normalize fix →
        FromRule policy (some learned) rule d.normalize fix' →
        fix'.id = fix.id ∧
          (fix'.confidence < fix.confidence ↔
            ∃ e, kb.table.get? d.normalize.signature = some e ∧ e.netFeedback < 0 ∧
              e.observed.toNat < policy.historyCap.toNat ∧ 0 < policy.maxHistoryWeight ∧
              BlendPolicy.tendency e < 0 ∧
              (e.observed.toNat + 1) * BlendPolicy.historical learned < rule.rule.confidence) := by
  obtain ⟨rfl, suggested⟩ := suggested_fromRule apart before
  obtain ⟨-, suggested'⟩ := suggested_fromRule apart after
  obtain ⟨now, table, recorded⟩ := MemoryKnowledge.learn_recorded learning
  intro rule listed recognises
  refine ⟨suggested rule listed recognises, recorded ▸ suggested' rule listed recognises, ?_⟩
  rintro fix - fix' - own own'
  refine ⟨own'.id_eq.trans own.id_eq.symm, ?_⟩
  rw [own.confidence_eq now, own'.confidence_eq now]
  rw [table, Table.get?_record, Option.some.injEq] at recorded
  cases known : kb₁.table.get? d.normalize.signature with
  | none =>
      rw [known] at recorded
      subst recorded
      rw [Option.getD_none, Option.getD_some,
        BlendPolicy.blend_lowered_iff (Entry.counted_new (n := n) d.normalize.signature now) few
          (Entry.tempered_new d.normalize.signature now) success helpful capped weight own.proportion now]
      constructor
      · rintro ⟨opposed, -⟩
        have none : (0 : Int64) < 0 := opposed
        exact absurd none (by decide)
      · rintro ⟨e, absent, -⟩
        cases absent
  | some e =>
      rw [known] at recorded
      subst recorded
      rw [Option.getD_some, Option.getD_some,
        BlendPolicy.blend_lowered_iff (taught.counted (by omega) known) few (taught.tempered known) success helpful
          capped weight own.proportion now]
      constructor
      · intro conditions
        exact ⟨e, rfl, conditions⟩
      · rintro ⟨other, same, conditions⟩
        cases same
        exact conditions

def nullish : Diagnostic := ⟨⟨"src/a.ts"⟩, 3, 5, "Object is possibly 'null'.", 2531, .error, .strictModeError⟩

def guarding : ReadyRule ℚ := ⟨Rule.advice "add-null-check" [2531] "Guard the value" .semiAutomatic 0.9, none⟩

def asserting : ReadyRule ℚ := ⟨Rule.advice "non-null-assertion" [2531] "Assert the value" .semiAutomatic 0.6, none⟩

def guards : RuleBook ℚ := ⟨[guarding, asserting]⟩

def guarded (success : Bool) (feedback : Feedback) : Resolution :=
  ⟨2531, "null", "Guard the value", success, 1, some feedback⟩

def epoch (_ : ℕ) : Instant := ⟨0, 0⟩

def entryAfter : List Resolution → Entry ℚ
  | [] => Entry.new nullish.normalize.signature (epoch 0)
  | r :: earlier => (entryAfter earlier).record r (epoch 0)

def kbAfter : List Resolution → MemoryKnowledge ℚ
  | [] => ⟨Table.empty, 0, false⟩
  | r :: earlier => ⟨(kbAfter earlier).table.record nullish.normalize.signature r (epoch 0), 0, false⟩

theorem kbAfter_reached (reports : List Resolution) : kbAfter reports = ⟨(kbAfter reports).table, 0, false⟩ := by
  cases reports <;> rfl

theorem kbAfter_get? (reports : List Resolution) :
    ((kbAfter reports).table.get? nullish.normalize.signature).getD (entryAfter []) = entryAfter reports := by
  induction reports with
  | nil => rfl
  | cons r earlier ih =>
      change (((kbAfter earlier).table.record nullish.normalize.signature r (epoch 0)).get? _).getD _ = _
      rw [Table.get?_record, Option.getD_some]
      exact congrArg (fun e => e.record r (epoch 0)) ih

theorem learn_guarded (reports : List Resolution) (success : Bool) (feedback : Feedback) :
    (MemoryKnowledge.store.learn epoch nullish (guarded success feedback)).runOn (kbAfter reports) =
      (.ok (entryAfter (guarded success feedback :: reports)), kbAfter (guarded success feedback :: reports)) := by
  have valid : Resolution.validateFor nullish (guarded success feedback) = .ok () := by
    cases success <;> cases feedback <;> rfl
  rw [kbAfter_reached reports, MemoryKnowledge.learn_reached valid]
  refine Prod.ext (congrArg Except.ok ?_) rfl
  exact congrArg (fun e => e.record (guarded success feedback) (epoch 0)) (kbAfter_get? reports)

theorem guards_suggested (reports : List Resolution)
    (described : ∀ s ∈ (entryAfter reports).solutions, s.solution = "Guard the value") :
    ∃ found, (fixes MemoryKnowledge.store guards none .standard nullish).runOn (kbAfter reports) =
      (.ok found, kbAfter reports) := by
  obtain ⟨ruleFixes, matched⟩ : ∃ ruleFixes, guards.matchingFixes nullish.normalize none = .ok ruleFixes := by
    have ok : (guards.matchingFixes nullish.normalize none).isOk = true := by decide +kernel
    cases made : guards.matchingFixes nullish.normalize none with
    | ok ruleFixes => exact ⟨ruleFixes, rfl⟩
    | error e =>
        rw [made] at ok
        cases ok
  have recognised : guarding.recognise nullish.normalize = .yes none := by decide +kernel
  obtain ⟨base, among, made⟩ := RuleBook.fixesOf_mem matched List.mem_cons_self recognised
  have description : base.description = Captures.fill none "Guard the value" := by
    rw [(Fix.build_kept made).2]
    rfl
  obtain ⟨all, gathered⟩ : ∃ all, candidates .standard nullish.normalize ruleFixes
      ((kbAfter reports).table.get? nullish.normalize.signature) = .ok all := by
    refine ⟨_, candidates_of_described (List.ne_nil_of_mem among) ?_⟩
    intro e found s member _
    have own := kbAfter_get? reports
    rw [found, Option.getD_some] at own
    subst own
    rw [List.any_eq_true]
    refine ⟨base, among, ?_⟩
    rw [describes, description, described s member]
    decide +kernel
  refine ⟨Fix.ranked all, ?_⟩
  have valid : nullish.validate = .ok () := rfl
  have got : (MemoryKnowledge.store.get nullish.normalize.signature).runOn (kbAfter reports) =
      (.ok ((kbAfter reports).table.get? nullish.normalize.signature), kbAfter reports) := by
    rw [kbAfter_reached]
    rfl
  unfold fixes sourceFor
  simp only [ExceptT.runOn_bind, valid, matched, got, gathered, Action.runOn_ofDomain_ok, ExceptT.andThen_ok,
    ExceptT.runOn_pure]

def discouraged : List Resolution := List.replicate 4 (guarded false .notHelpful)

theorem taught_discouraged : MemoryKnowledge.Taught 4 (kbAfter discouraged) := by
  have step : ∀ n reports, MemoryKnowledge.Taught n (kbAfter reports) →
      MemoryKnowledge.Taught (n + 1) (kbAfter (guarded false .notHelpful :: reports)) := by
    intro n reports taught
    have next := taught.learn epoch nullish (guarded false .notHelpful)
    rw [learn_guarded] at next
    exact next
  exact step 3 _ (step 2 _ (step 1 _ (step 0 [] (.start rfl))))

/-- The fix that asserts the value is not less confident after a success that was found helpful. -/
theorem helpful_success_lowers_iff_asserting : ∃ found found',
    (fixes MemoryKnowledge.store guards none .standard nullish).runOn (kbAfter discouraged) =
      (.ok found, kbAfter discouraged) ∧
    (fixes MemoryKnowledge.store guards none .standard nullish).runOn (kbAfter (guarded true .helpful :: discouraged)) =
      (.ok found', kbAfter (guarded true .helpful :: discouraged)) ∧
    ∃ fix ∈ found, ∃ fix' ∈ found', fix'.id = fix.id ∧ ¬fix'.confidence < fix.confidence := by
  obtain ⟨found, ran⟩ := guards_suggested discouraged (by decide +kernel)
  obtain ⟨found', ran'⟩ := guards_suggested (guarded true .helpful :: discouraged) (by decide +kernel)
  have recognises : asserting.recognises nullish.normalize = true := by decide +kernel
  obtain ⟨⟨fix, among, own⟩, ⟨fix', among', own'⟩, compared⟩ := helpful_success_lowers_iff taught_discouraged
    (by norm_num) (by decide) (by decide +kernel) (fun editor absent => by cases absent) rfl rfl ran
    (learn_guarded discouraged true .helpful) ran' asserting (List.mem_cons_of_mem _ List.mem_cons_self) recognises
  obtain ⟨same, lowered⟩ := compared fix among fix' among' own own'
  refine ⟨found, found', ran, ran', fix, among, fix', among', same, ?_⟩
  rw [lowered]
  rintro ⟨e, known, -, -, -, -, short⟩
  have entry := kbAfter_get? discouraged
  rw [known, Option.getD_some] at entry
  subst entry
  have enough : ¬((entryAfter discouraged).observed.toNat + 1) *
      BlendPolicy.historical (entryAfter (guarded true .helpful :: discouraged)) < asserting.rule.confidence := by
    decide +kernel
  exact enough short

/-- After four failures that were found not helpful, a success that was found helpful lowers a confidence. -/
theorem helpful_success_lowers : ∃ found found', MemoryKnowledge.Taught 4 (kbAfter discouraged) ∧
    (fixes MemoryKnowledge.store guards none .standard nullish).runOn (kbAfter discouraged) =
      (.ok found, kbAfter discouraged) ∧
    (MemoryKnowledge.store.learn epoch nullish (guarded true .helpful)).runOn (kbAfter discouraged) =
      (.ok (entryAfter (guarded true .helpful :: discouraged)), kbAfter (guarded true .helpful :: discouraged)) ∧
    (fixes MemoryKnowledge.store guards none .standard nullish).runOn (kbAfter (guarded true .helpful :: discouraged)) =
      (.ok found', kbAfter (guarded true .helpful :: discouraged)) ∧
    ∃ fix ∈ found, ∃ fix' ∈ found', fix.id = "2531-add-null-check" ∧ fix'.id = "2531-add-null-check" ∧
      fix.confidence = 0.684 ∧ fix'.confidence = 0.6830421 := by
  obtain ⟨found, ran⟩ := guards_suggested discouraged (by decide +kernel)
  obtain ⟨found', ran'⟩ := guards_suggested (guarded true .helpful :: discouraged) (by decide +kernel)
  have recognises : guarding.recognises nullish.normalize = true := by decide +kernel
  obtain ⟨-, suggested⟩ := suggested_fromRule (fun editor absent => by cases absent) ran
  obtain ⟨-, suggested'⟩ := suggested_fromRule (fun editor absent => by cases absent) ran'
  obtain ⟨fix, among, own⟩ := suggested guarding List.mem_cons_self recognises
  obtain ⟨fix', among', own'⟩ := suggested' guarding List.mem_cons_self recognises
  have id : Text.natText nullish.normalize.code.toNat ++ "-" ++ guarding.rule.id = "2531-add-null-check" := by
    decide +kernel
  refine ⟨found, found', taught_discouraged, ran, learn_guarded discouraged true .helpful, ran', fix, among, fix',
    among', own.id_eq.trans id, own'.id_eq.trans id, ?_, ?_⟩
  · have known := kbAfter_get? discouraged
    rw [own.confidence_eq (epoch 0)]
    change BlendPolicy.blend _ _ (Option.getD _ (entryAfter [])) = _
    rw [known]
    decide +kernel
  · have known := kbAfter_get? (guarded true .helpful :: discouraged)
    rw [own'.confidence_eq (epoch 0)]
    change BlendPolicy.blend _ _ (Option.getD _ (entryAfter [])) = _
    rw [known]
    decide +kernel

end Remedy.Suggest
