import Mathlib.Data.List.Forall2
import Remedy.Proofs.Action.Run
import Remedy.Proofs.Fix.Settled
import Remedy.Suggest

/-! Where a suggested fix comes from: a rule, a solution that worked, or general advice. Main statements: every
candidate comes from one of them, and the fix of every rule is among the candidates. -/

namespace Remedy

variable {α : Type}

namespace RuleEdit

theorem resolve_of_not_needsSource {edit : RuleEdit} (free : edit.needsSource = false) (d : Diagnostic)
    (captures? : Option Captures) (a b : Option Buffer) :
    edit.resolve d captures? a = edit.resolve d captures? b := by
  cases edit <;> first | rfl | cases free

theorem resolve_none {edit : RuleEdit} (bound : edit.needsSource = true) (d : Diagnostic)
    (captures? : Option Captures) : edit.resolve d captures? Option.none = [] := by
  cases edit <;> first | rfl | cases bound

end RuleEdit

theorem exists_of_forall₂ {β γ : Type} {R : β → γ → Prop} {xs : List β} {ys : List γ} (along : List.Forall₂ R xs ys)
    {x : β} (member : x ∈ xs) : ∃ y ∈ ys, R x y := by
  induction along with
  | nil => cases member
  | @cons first counterpart xs ys own _ ih =>
      rcases List.mem_cons.mp member with rfl | later
      · exact ⟨counterpart, List.mem_cons_self, own⟩
      · obtain ⟨y, behind, related⟩ := ih later
        exact ⟨y, List.mem_cons_of_mem counterpart behind, related⟩

variable [Scalar α]

namespace Fix

theorem withConfidence_changes (fix : Fix α) (confidence : α) :
    (fix.withConfidence confidence).changes = fix.changes := settle_changes _

end Fix

namespace RuleBook

variable {d : Diagnostic} {source? : Option Buffer} {rules : List (ReadyRule α)} {fixes : List (Fix α)}

def Offers (d : Diagnostic) (source? : Option Buffer) (r : ReadyRule α) (fix : Fix α) : Prop :=
  ∃ captures?, r.recognise d = .yes captures? ∧ r.rule.fix d captures? source? = .ok fix

theorem fixesOf_offers (made : fixesOf d source? rules = .ok fixes) :
    List.Forall₂ (Offers d source?) (rules.filter (·.recognises d)) fixes := by
  induction rules generalizing fixes with
  | nil =>
      cases made
      exact .nil
  | cons r rest ih =>
      unfold fixesOf at made
      cases recognised : r.recognise d with
      | no =>
          rw [recognised] at made
          have skipped : r.recognises d = false := by rw [ReadyRule.recognises, recognised]
          rw [List.filter_cons, if_neg (by simp [skipped])]
          exact ih made
      | yes captures? =>
          rw [recognised] at made
          obtain ⟨first, firstMade, made⟩ := Except.bind_eq_ok.mp made
          obtain ⟨others, othersMade, made⟩ := Except.bind_eq_ok.mp made
          cases made
          have taken : r.recognises d = true := by rw [ReadyRule.recognises, recognised]
          rw [List.filter_cons, if_pos taken]
          exact .cons ⟨captures?, recognised, firstMade⟩ (ih othersMade)

/-- Every fix of a book is that of a rule in it that recognises the diagnostic. -/
theorem mem_fixesOf (made : fixesOf d source? rules = .ok fixes) {fix : Fix α} (member : fix ∈ fixes) :
    ∃ r ∈ rules, ∃ captures?, r.recognise d = .yes captures? ∧ r.rule.fix d captures? source? = .ok fix := by
  obtain ⟨r, recognising, offers⟩ := exists_of_forall₂ (fixesOf_offers made).flip member
  exact ⟨r, List.mem_of_mem_filter recognising, offers⟩

theorem fixesOf_mem (made : fixesOf d source? rules = .ok fixes) {r : ReadyRule α} (listed : r ∈ rules)
    {captures? : Option Captures} (recognised : r.recognise d = .yes captures?) :
    ∃ fix ∈ fixes, r.rule.fix d captures? source? = .ok fix := by
  have recognises : r.recognises d = true := by rw [ReadyRule.recognises, recognised]
  obtain ⟨fix, member, captures, known, offered⟩ :=
    exists_of_forall₂ (fixesOf_offers made) (List.mem_filter.mpr ⟨listed, recognises⟩)
  cases recognised.symm.trans known
  exact ⟨fix, member, offered⟩

end RuleBook

namespace Suggest

variable {policy : BlendPolicy α} {d : Diagnostic} {ruleFixes fixes all : List (Fix α)}
  {past? : Option (Entry α)} {e : Entry α} {fix : Fix α}

/-- What history makes of the fix of a rule. -/
def reviewed (policy : BlendPolicy α) (past? : Option (Entry α)) (fix : Fix α) : Fix α :=
  match past? with
  | none => fix
  | some e => fix.withConfidence (policy.blend fix.confidence e)

theorem reviewed_changes (policy : BlendPolicy α) (past? : Option (Entry α)) (fix : Fix α) :
    (reviewed policy past? fix).changes = fix.changes := by
  cases past? with
  | none => rfl
  | some e => exact Fix.withConfidence_changes fix _

theorem reviewed_description (policy : BlendPolicy α) (past? : Option (Entry α)) (fix : Fix α) :
    (reviewed policy past? fix).description = fix.description := by
  cases past? with
  | none => rfl
  | some e => exact Fix.settle_description _

/-- The fix is what history makes of the fix of a rule that recognises the diagnostic. -/
def FromRule (policy : BlendPolicy α) (past? : Option (Entry α)) (r : ReadyRule α) (d : Diagnostic) (fix : Fix α) :
    Prop :=
  ∃ captures? source? base, r.recognise d = .yes captures? ∧ r.rule.fix d captures? source? = .ok base ∧
    fix = reviewed policy past? base

/-- Where a candidate comes from. -/
inductive Comes (policy : BlendPolicy α) (d : Diagnostic) (ruleFixes : List (Fix α)) (past? : Option (Entry α)) :
    Fix α → Prop where
  | rule {base : Fix α} (given : base ∈ ruleFixes) : Comes policy d ruleFixes past? (reviewed policy past? base)
  | learned {e : Entry α} {s : LearnedSolution} {place : Nat} {fix : Fix α} (there : past? = some e)
      (among : s ∈ e.solutions) (made : learnedFix policy d e s place = .ok fix) :
      Comes policy d ruleFixes past? fix
  | advice {fix : Fix α} (unmatched : ruleFixes = []) (made : Fix.build (generic d) = .ok fix) :
      Comes policy d ruleFixes past? fix

omit [Scalar α] in
theorem mem_offered {existing : List (Fix α)} {s : LearnedSolution} (member : s ∈ offered e existing) :
    s ∈ e.solutions ∧ 0 < s.successes ∧ existing.any (describes s) = false := by
  obtain ⟨successful, fresh⟩ := List.mem_filter.mp (List.mem_of_mem_take member)
  obtain ⟨among, some⟩ := List.mem_filter.mp (List.mem_mergeSort.mp successful)
  exact ⟨among, of_decide_eq_true some, by simpa using fresh⟩

/-- The fix offers a solution that worked, in its place among those. -/
def Recalls (policy : BlendPolicy α) (d : Diagnostic) (past? : Option (Entry α)) (item : LearnedSolution × ℕ)
    (fix : Fix α) : Prop :=
  ∃ e, past? = some e ∧ learnedFix policy d e item.1 item.2 = .ok fix

theorem Recalls.description {item : LearnedSolution × ℕ} {fix : Fix α} (recalls : Recalls policy d past? item fix) :
    fix.description = item.1.solution := by
  obtain ⟨e, -, made⟩ := recalls
  rw [(Fix.build_kept made).2]
  rfl

theorem learnedFixes_recalls {place : ℕ} {solutions : List LearnedSolution}
    (made : learnedFixes policy d e place solutions = .ok fixes) :
    List.Forall₂ (Recalls policy d (some e)) (solutions.zipIdx place) fixes := by
  induction solutions generalizing place fixes with
  | nil =>
      cases made
      exact .nil
  | cons s rest ih =>
      obtain ⟨first, firstMade, made⟩ := Except.bind_eq_ok.mp made
      obtain ⟨others, othersMade, made⟩ := Except.bind_eq_ok.mp made
      cases made
      rw [List.zipIdx_cons]
      exact .cons ⟨e, rfl, firstMade⟩ (ih othersMade)

theorem mem_learnedFixes {place : ℕ} {solutions : List LearnedSolution}
    (made : learnedFixes policy d e place solutions = .ok fixes) (member : fix ∈ fixes) :
    ∃ s ∈ solutions, ∃ place, learnedFix policy d e s place = .ok fix := by
  obtain ⟨item, placed, _, same, own⟩ := exists_of_forall₂ (learnedFixes_recalls made).flip member
  cases same
  exact ⟨item.1, List.fst_mem_of_mem_zipIdx placed, item.2, own⟩

def known (policy : BlendPolicy α) (d : Diagnostic) (ruleFixes : List (Fix α)) :
    Option (Entry α) → Except DomainError (List (Fix α))
  | some e => withHistory policy d e ruleFixes
  | none => .ok ruleFixes

theorem candidates_eq (policy : BlendPolicy α) (d : Diagnostic) (ruleFixes : List (Fix α))
    (past? : Option (Entry α)) :
    candidates policy d ruleFixes past? =
      (known policy d ruleFixes past?).bind fun fixes =>
        if ruleFixes.isEmpty then (Fix.build (generic d)).bind fun last => .ok (fixes ++ [last])
        else .ok fixes := by
  cases past? <;> rfl

theorem known_comes (made : known policy d ruleFixes past? = .ok fixes) :
    (∀ fix ∈ fixes, Comes policy d ruleFixes past? fix) ∧ ∀ base ∈ ruleFixes, reviewed policy past? base ∈ fixes := by
  cases past? with
  | none =>
      cases made
      exact ⟨fun base given => .rule given, fun base given => given⟩
  | some e =>
      obtain ⟨learned, learnedMade, made⟩ := Except.bind_eq_ok.mp made
      cases made
      constructor
      · intro fix member
        rcases List.mem_append.mp member with blended | fromHistory
        · obtain ⟨base, given, rfl⟩ := List.mem_map.mp blended
          exact .rule given
        · obtain ⟨s, among, place, own⟩ := mem_learnedFixes learnedMade fromHistory
          exact .learned rfl (mem_offered among).1 own
      · intro base given
        exact List.mem_append_left learned (List.mem_map_of_mem given)

theorem candidates_comes (made : candidates policy d ruleFixes past? = .ok all) :
    (∀ fix ∈ all, Comes policy d ruleFixes past? fix) ∧
      (∀ base ∈ ruleFixes, reviewed policy past? base ∈ all) ∧ all ≠ [] := by
  rw [candidates_eq] at made
  obtain ⟨fixes, knownMade, made⟩ := Except.bind_eq_ok.mp made
  obtain ⟨come, given⟩ := known_comes knownMade
  cases ruleFixes with
  | nil =>
      obtain ⟨general, generalMade, made⟩ := Except.bind_eq_ok.mp made
      cases made
      refine ⟨?_, fun base among => List.mem_append_left _ (given base among), by simp⟩
      intro fix member
      rcases List.mem_append.mp member with among | last
      · exact come fix among
      · rw [List.mem_singleton.mp last]
        exact .advice rfl generalMade
  | cons first rest =>
      cases made
      refine ⟨come, given, ?_⟩
      intro none
      have among := given first List.mem_cons_self
      rw [none] at among
      cases among

theorem describes_reviewed (s : LearnedSolution) (policy : BlendPolicy α) (past? : Option (Entry α)) (fix : Fix α) :
    describes s (reviewed policy past? fix) = describes s fix := by
  rw [describes, describes, reviewed_description]

theorem candidates_of_described (some : ruleFixes ≠ [])
    (described : ∀ e, past? = .some e → ∀ s ∈ e.solutions, 0 < s.successes → ruleFixes.any (describes s) = true) :
    candidates policy d ruleFixes past? = .ok (ruleFixes.map (reviewed policy past?)) := by
  have known : known policy d ruleFixes past? = .ok (ruleFixes.map (reviewed policy past?)) := by
    cases past? with
    | none => exact congrArg Except.ok (List.map_id ruleFixes).symm
    | some e =>
        have nothing : offered e (ruleFixes.map (reviewed policy (.some e))) = [] := by
          rw [List.eq_nil_iff_forall_not_mem]
          intro s member
          obtain ⟨among, successful, fresh⟩ := mem_offered member
          simp only [List.any_map, Function.comp_def, describes_reviewed] at fresh
          rw [described e rfl s among successful] at fresh
          cases fresh
        change (learnedFixes policy d e 0 (offered e (ruleFixes.map (reviewed policy (.some e))))).bind _ = _
        rw [nothing]
        exact congrArg Except.ok (List.append_nil _)
  rw [candidates_eq, known]
  cases ruleFixes with
  | nil => exact (some rfl).elim
  | cons first rest => rfl

theorem mem_ranked : fix ∈ Fix.ranked all ↔ fix ∈ all := List.mem_mergeSort

/-- Every rule that recognises the diagnostic has its fix among the suggestions. -/
theorem ranked_fromRule {book : RuleBook α} {source? : Option Buffer}
    (matched : book.matchingFixes d source? = .ok ruleFixes) (gathered : candidates policy d ruleFixes past? = .ok all)
    {r : ReadyRule α} (listed : r ∈ book.rules) (recognises : r.recognises d = true) :
    ∃ fix ∈ Fix.ranked all, FromRule policy past? r d fix := by
  unfold ReadyRule.recognises at recognises
  cases recognised : r.recognise d with
  | no =>
      rw [recognised] at recognises
      cases recognises
  | yes captures? =>
      obtain ⟨base, member, made⟩ := RuleBook.fixesOf_mem matched listed recognised
      exact ⟨_, mem_ranked.mpr ((candidates_comes gathered).2.1 base member),
        captures?, source?, base, recognised, made, rfl⟩

theorem Comes.changes (comes : Comes policy d ruleFixes past? fix) :
    fix.changes = [] ∨ ∃ base ∈ ruleFixes, fix.changes = base.changes := by
  cases comes with
  | @rule base given => exact .inr ⟨base, given, reviewed_changes policy past? base⟩
  | learned there among made =>
      rw [(Fix.build_kept made).2]
      exact .inl rfl
  | advice unmatched made =>
      rw [(Fix.build_kept made).2]
      exact .inl rfl

end Suggest

end Remedy
