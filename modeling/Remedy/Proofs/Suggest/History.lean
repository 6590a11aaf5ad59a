import Remedy.Proofs.Knowledge.Accounts
import Remedy.Proofs.Suggest.Helpful

/-! What history can make of a confidence, with exact numbers. Main statement: it moves a confidence only as far as its
weight allows and only where the feedback points, and never past another one. -/

namespace Remedy

theorem Suggest.fromRule_of_isOk (policy : BlendPolicy ℚ) (past? : Option (Entry ℚ)) {r : ReadyRule ℚ} {d : Diagnostic}
    {captures? : Option Captures} {source? : Option Buffer} (recognised : r.recognise d = .yes captures?)
    (built : (r.rule.fix d captures? source?).isOk = true) : ∃ fix, FromRule policy past? r d fix := by
  cases made : r.rule.fix d captures? source? with
  | ok base => exact ⟨reviewed policy past? base, captures?, source?, base, recognised, made, rfl⟩
  | error e =>
      rw [made] at built
      cases built

namespace BlendPolicy

variable {policy : BlendPolicy ℚ} {e : Entry ℚ} {net : Int64} {base base' q q' : ℚ}

theorem bounded_mono (order : base ≤ base') (order' : q ≤ q') : bounded net base q ≤ bounded net base' q' := by
  unfold bounded
  split
  · rw [Scalar.max_exact, Scalar.max_exact]
    exact max_le_max order' order
  · split
    · rw [Scalar.min_exact, Scalar.min_exact]
      exact min_le_min order' order
    · exact order'

theorem abs_bounded_le (net : Int64) (base q : ℚ) : |bounded net base q - base| ≤ |q - base| := by
  unfold bounded
  split
  · rw [Scalar.max_exact]
    rcases le_total q base with below | above
    · rw [max_eq_right below, sub_self, abs_zero]
      exact abs_nonneg _
    · rw [max_eq_left above]
  · split
    · rw [Scalar.min_exact]
      rcases le_total q base with below | above
      · rw [min_eq_left below]
      · rw [min_eq_right above, sub_self, abs_zero]
        exact abs_nonneg _
    · exact le_refl _

theorem blend_uncapped (uncapped : policy.historyCap = 0) (base : ℚ) (e : Entry ℚ) : policy.blend base e = base := by
  unfold blend
  rw [decide_eq_true uncapped, Bool.or_true, if_pos rfl]

/-- Either history has no say, or the blend is the bounded mean of the base and what history says. -/
theorem blend_cases (policy : BlendPolicy ℚ) (e : Entry ℚ) :
    (∀ base, policy.blend base e = base) ∨
      ∃ w, 0 ≤ w ∧ w ≤ 1 ∧ w ≤ Scalar.clamp 0.0 1.0 policy.maxHistoryWeight ∧
        ∀ base, Scalar.isProportion base = true →
          policy.blend base e = bounded e.netFeedback base (base + w * (historical e - base)) := by
  by_cases uncapped : policy.historyCap = 0
  · exact .inl fun base => blend_uncapped uncapped base e
  · rcases Nat.eq_zero_or_pos e.observed.toNat with unseen | seen
    · exact .inl fun base => blend_unseen (UInt64.toNat_inj.mp unseen)
    · obtain ⟨light, heavy⟩ := weight_proportion uncapped e
      exact .inr ⟨policy.weight e, light, heavy, (weight_within uncapped e).2,
        fun base given => blend_exact uncapped given seen⟩

theorem blend_mono (policy : BlendPolicy ℚ) (e : Entry ℚ) (given : Scalar.isProportion base = true)
    (given' : Scalar.isProportion base' = true) (order : base ≤ base') :
    policy.blend base e ≤ policy.blend base' e := by
  rcases blend_cases policy e with own | ⟨w, light, heavy, -, mixed⟩
  · rw [own, own]
    exact order
  · rw [mixed base given, mixed base' given']
    refine bounded_mono order ?_
    have kept := mul_le_mul_of_nonneg_left order (sub_nonneg.mpr heavy)
    linarith

theorem abs_blend_le (policy : BlendPolicy ℚ) (e : Entry ℚ) (given : Scalar.isProportion base = true) :
    |policy.blend base e - base| ≤ Scalar.clamp 0.0 1.0 policy.maxHistoryWeight := by
  rcases blend_cases policy e with own | ⟨w, light, -, most, mixed⟩
  · rw [own, sub_self, abs_zero]
    exact (Scalar.clamp_within _).1
  · obtain ⟨low, high⟩ := Scalar.isProportion_exact.mp given
    obtain ⟨least, largest⟩ := historical_proportion e
    have near : |historical e - base| ≤ 1 := abs_le.mpr ⟨by linarith, by linarith⟩
    rw [mixed base given]
    calc
      _ ≤ |base + w * (historical e - base) - base| := abs_bounded_le _ _ _
      _ = w * |historical e - base| := by rw [add_sub_cancel_left, abs_mul, abs_of_nonneg light]
      _ ≤ w := mul_le_of_le_one_right light near
      _ ≤ _ := most

theorem le_blend (given : Scalar.isProportion base = true) (helpful : 0 < e.netFeedback) :
    base ≤ policy.blend base e := by
  rcases blend_cases policy e with own | ⟨w, -, -, -, mixed⟩
  · rw [own]
  · rw [mixed base given, bounded_of_pos helpful]
    exact le_max_right _ _

theorem blend_le (given : Scalar.isProportion base = true) (unhelpful : e.netFeedback < 0) :
    policy.blend base e ≤ base := by
  rcases blend_cases policy e with own | ⟨w, -, -, -, mixed⟩
  · rw [own]
  · rw [mixed base given, bounded_of_neg unhelpful]
    exact min_le_right _ _

/-- Whatever the policy and whatever was recorded in a new entry, the blend of a proportion is a proportion. It is the
base as long as nothing was recorded, it is on that side of the base to which most feedback points, and it is no farther
from it than the weight of history, cut to a proportion. A larger base never has the smaller blend, so that the fixes of
two rules are never put in the other order by what is known. -/
theorem blend_lawful (policy : BlendPolicy ℚ) (signature : Signature) (start : Instant)
    {reports : List (Resolution × Instant)} (few : reports.length < 2 ^ 63) :
    let told := reports.map Prod.fst
    let helpful := told.countP (·.feedback? = some .helpful)
    let unhelpful := told.countP (·.feedback? = some .notHelpful)
    let e : Entry ℚ := (Entry.new signature start).after reports
    (∀ base : ℚ, 0 ≤ base → base ≤ 1 →
      (0 ≤ policy.blend base e ∧ policy.blend base e ≤ 1) ∧
      (reports = [] → policy.blend base e = base) ∧
      (unhelpful < helpful → base ≤ policy.blend base e) ∧
      (helpful < unhelpful → policy.blend base e ≤ base) ∧
      |policy.blend base e - base| ≤ max 0 (min policy.maxHistoryWeight 1)) ∧
    (∀ base base' : ℚ, 0 ≤ base → base ≤ base' → base' ≤ 1 → policy.blend base e ≤ policy.blend base' e) ∧
    ∀ d rule rule' fix fix', Suggest.FromRule policy (some e) rule d fix →
      Suggest.FromRule policy (some e) rule' d fix' → rule.rule.confidence ≤ rule'.rule.confidence →
      fix.confidence ≤ fix'.confidence := by
  intro told helpful unhelpful e
  have accounts : e.Accounts told := Entry.accounts_after signature start (few.trans (by norm_num))
  have net : e.netFeedback.toInt = (helpful : ℤ) - unhelpful := accounts.netFeedback (by simpa [told] using few)
  refine ⟨fun base low high => ?_, fun base base' low order high => ?_, fun d rule rule' fix fix' own own' order => ?_⟩
  · have given := Scalar.isProportion_exact.mpr ⟨low, high⟩
    refine ⟨blend_proportion policy e given, fun nothing => blend_unseen ?_, fun favoured => le_blend given ?_,
      fun opposed => blend_le given ?_, ?_⟩
    · have none := accounts.observed
      rw [List.length_map, nothing] at none
      exact UInt64.toNat_inj.mp none
    · rw [Int64.lt_iff_toInt_lt, net, Int64.toInt_zero]
      omega
    · rw [Int64.lt_iff_toInt_lt, net, Int64.toInt_zero]
      omega
    · rw [← Scalar.clamp_proportion]
      exact abs_blend_le policy e given
  · exact blend_mono policy e (Scalar.isProportion_exact.mpr ⟨low, order.trans high⟩)
      (Scalar.isProportion_exact.mpr ⟨low.trans order, high⟩) order
  · rw [own.confidence_eq start, own'.confidence_eq start]
    exact blend_mono policy e own.proportion own'.proportion order

/-- History may count for all here, so that it is cut. -/
def credulous : BlendPolicy ℚ := ⟨2, 3 / 2⟩

def wavering : List (Resolution × Instant) :=
  [(Suggest.guarded true .helpful, ⟨0, 0⟩), (⟨2531, "null", "Guard the value", false, 1, none⟩, ⟨1, 0⟩)]

theorem blend_lawful_wavering : wavering.length < 2 ^ 63 ∧
    ∃ e : Entry ℚ, e = (Entry.new Suggest.nullish.normalize.signature ⟨0, 0⟩).after wavering ∧
      3 / 5 ≤ credulous.blend (3 / 5) e ∧ |credulous.blend (3 / 5) e - 3 / 5| ≤ 1 ∧
      ∃ fix fix', Suggest.FromRule credulous (some e) Suggest.asserting Suggest.nullish.normalize fix ∧
        Suggest.FromRule credulous (some e) Suggest.guarding Suggest.nullish.normalize fix' ∧
        fix.confidence ≤ fix'.confidence := by
  have few : wavering.length < 2 ^ 63 := by decide
  obtain ⟨bounds, -, ordered⟩ := blend_lawful credulous Suggest.nullish.normalize.signature ⟨0, 0⟩ few
  obtain ⟨-, -, favoured, -, near⟩ := bounds (3 / 5) (by norm_num) (by norm_num)
  set e : Entry ℚ := (Entry.new Suggest.nullish.normalize.signature ⟨0, 0⟩).after wavering
  have recognised : Suggest.asserting.recognise Suggest.nullish.normalize = .yes none := by decide +kernel
  have recognised' : Suggest.guarding.recognise Suggest.nullish.normalize = .yes none := by decide +kernel
  have built : (Suggest.asserting.rule.fix Suggest.nullish.normalize none none).isOk = true := by decide +kernel
  have built' : (Suggest.guarding.rule.fix Suggest.nullish.normalize none none).isOk = true := by decide +kernel
  obtain ⟨fix, own⟩ := Suggest.fromRule_of_isOk credulous (some e) recognised built
  obtain ⟨fix', own'⟩ := Suggest.fromRule_of_isOk credulous (some e) recognised' built'
  have less : Suggest.asserting.rule.confidence ≤ Suggest.guarding.rule.confidence := by decide +kernel
  refine ⟨few, _, rfl, favoured (by decide +kernel), ?_, fix, fix', own, own', ordered _ _ _ _ _ own own' less⟩
  exact near.trans (by norm_num [credulous])

end BlendPolicy

end Remedy
