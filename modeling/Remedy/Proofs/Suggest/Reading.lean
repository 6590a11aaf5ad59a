import Remedy.Proofs.Suggest.Automatic

/-! Whether the source file is read. Main statement: where no rule for the diagnostic needs the file, its text makes no
difference to what is suggested, nor whether it is read. -/

namespace Remedy

variable {α : Type} [Scalar α]

theorem Rule.fix_of_not_needsSource {r : Rule α} (free : r.edit.needsSource = false) (d : Diagnostic)
    (captures? : Option Captures) (a b : Option Buffer) : r.fix d captures? a = r.fix d captures? b := by
  unfold Rule.fix
  rw [RuleEdit.resolve_of_not_needsSource free d captures? a b]

namespace RuleBook

variable {book : RuleBook α} {d : Diagnostic}

omit [Scalar α] in
theorem needsSource_eq_false_iff : book.needsSource d = false ↔
    ∀ r ∈ book.rules, r.recognises d = true → r.rule.edit.needsSource = false := by
  rw [needsSource, List.any_eq_false]
  refine forall₂_congr fun r _ => ?_
  rw [Bool.and_eq_true, not_and', Bool.not_eq_true]

theorem fixesOf_of_free {rules : List (ReadyRule α)}
    (free : ∀ r ∈ rules, r.recognises d = true → r.rule.edit.needsSource = false) (a b : Option Buffer) :
    fixesOf d a rules = fixesOf d b rules := by
  induction rules with
  | nil => rfl
  | cons r rest ih =>
      have later := ih fun other listed => free other (List.mem_cons_of_mem r listed)
      unfold fixesOf
      cases recognised : r.recognise d with
      | no => exact later
      | yes captures? =>
          have recognises : r.recognises d = true := by rw [ReadyRule.recognises, recognised]
          have own := Rule.fix_of_not_needsSource (free r List.mem_cons_self recognises) d captures? a b
          dsimp only
          rw [own, later]

/-- A book that does not need the text finds the same in any, fixes and refusals alike. -/
theorem matchingFixes_of_not_needsSource (free : book.needsSource d = false) (a b : Option Buffer) :
    book.matchingFixes d a = book.matchingFixes d b :=
  fixesOf_of_free (needsSource_eq_false_iff.mp free) a b

end RuleBook

namespace Suggest

variable {m : Type → Type} [Monad m] {σ : Type} [World m σ] {store : Store m α} {editor : Editor m}

def fixesSeen (look : Diagnostic → Action m (Option Buffer)) (store : Store m α) (book : RuleBook α)
    (policy : BlendPolicy α) (original : Diagnostic) : Action m (List (Fix α)) := do
  Action.ofDomain original.validate
  let d := original.normalize
  let source? ← look d
  let ruleFixes ← Action.ofDomain (book.matchingFixes d source?)
  let past? ← store.get d.signature
  return Fix.ranked (← Action.ofDomain (candidates policy d ruleFixes past?))

/-- The text of the file, if it can be read, whether or not a rule needs it. -/
def sourceAnyway (editor : Editor m) (d : Diagnostic) : Action m (Option Buffer) := do
  match ← (editor.read d.file).attempt with
  | .ok text => return some text
  | .error _ => return none

theorem fixes_eq_fixesSeen (store : Store m α) (book : RuleBook α) (editor? : Option (Editor m))
    (policy : BlendPolicy α) (original : Diagnostic) :
    fixes store book editor? policy original = fixesSeen (sourceFor book editor?) store book policy original := rfl

omit [Scalar α] in
theorem sourceFor_some (book : RuleBook α) (editor : Editor m) (d : Diagnostic) :
    sourceFor book (some editor) d = if book.needsSource d then sourceAnyway editor d else return none := rfl

omit [Scalar α] in
theorem sourceAnyway_runOn (editor : Editor m) (d : Diagnostic) (s : σ) :
    ∃ source?, (sourceAnyway editor d).runOn s = (.ok source?, ((editor.read d.file).runOn s).2) := by
  unfold sourceAnyway
  rw [ExceptT.runOn_bind, Action.runOn_attempt, ExceptT.andThen_ok]
  cases ((editor.read d.file).runOn s).1 with
  | ok text => exact ⟨some text, ExceptT.runOn_pure _ _⟩
  | error e => exact ⟨none, ExceptT.runOn_pure _ _⟩

/-- Two ways to look come to the same fixes or the same failure if the rules make the same of what they find and the
store answers the same after them. -/
theorem fixesSeen_result {look look' : Diagnostic → Action m (Option Buffer)} {book : RuleBook α} {original : Diagnostic}
    {source? source?' : Option Buffer} {s t t' : σ} (looked : (look original.normalize).runOn s = (.ok source?, t))
    (looked' : (look' original.normalize).runOn s = (.ok source?', t'))
    (same : book.matchingFixes original.normalize source? = book.matchingFixes original.normalize source?')
    (answers : ((store.get original.normalize.signature).runOn t).1 =
      ((store.get original.normalize.signature).runOn t').1) (policy : BlendPolicy α) :
    ((fixesSeen look store book policy original).runOn s).1 =
      ((fixesSeen look' store book policy original).runOn s).1 := by
  unfold fixesSeen
  rw [ExceptT.runOn_bind, ExceptT.runOn_bind]
  cases original.validate with
  | error e => simp only [Action.runOn_ofDomain_error, ExceptT.andThen_error]
  | ok _ =>
      simp only [Action.runOn_ofDomain_ok, ExceptT.andThen_ok, ExceptT.runOn_bind, looked, looked', same]
      cases book.matchingFixes original.normalize source?' with
      | error e => simp only [Action.runOn_ofDomain_error, ExceptT.andThen_error]
      | ok ruleFixes =>
          simp only [Action.runOn_ofDomain_ok, ExceptT.andThen_ok, ExceptT.runOn_bind]
          rcases got : (store.get original.normalize.signature).runOn t with ⟨result, u⟩
          rcases got' : (store.get original.normalize.signature).runOn t' with ⟨result', u'⟩
          rw [got, got'] at answers
          -- The states may differ from here on, but only the answer is used.
          obtain rfl : result = result' := answers
          cases result with
          | error e => rfl
          | ok past? =>
              simp only [ExceptT.andThen_ok, ExceptT.runOn_bind]
              cases candidates policy original.normalize ruleFixes past? with
              | error e => simp only [Action.runOn_ofDomain_error, ExceptT.andThen_error]
              | ok all => simp only [Action.runOn_ofDomain_ok, ExceptT.andThen_ok, ExceptT.runOn_pure]

/-- Reading a file changes nothing that the store answers. -/
def LeavesAnswers (editor : Editor m) (store : Store m α) : Prop :=
  ∀ path signature (s : σ), ((store.get signature).runOn ((editor.read path).runOn s).2).1 =
    ((store.get signature).runOn s).1

/-- If no rule that recognises a diagnostic needs the text of its file, the rules make the same of any text as of none, be
it fixes or a refusal. So leaving the file unread makes no difference to what is suggested: the list or the failure is
the same as if the file were always read. -/
theorem fixes_unread (still : LeavesAnswers editor store) (book : RuleBook α) (policy : BlendPolicy α)
    (original : Diagnostic) :
    (∀ d, book.needsSource d = false → ∀ source : Buffer,
      book.matchingFixes d none = book.matchingFixes d (some source)) ∧
    ∀ s : σ, ((fixes store book (some editor) policy original).runOn s).1 =
      ((fixesSeen (sourceAnyway editor) store book policy original).runOn s).1 := by
  refine ⟨fun d free source => RuleBook.matchingFixes_of_not_needsSource free none (some source), fun s => ?_⟩
  obtain ⟨source?, looked⟩ := sourceAnyway_runOn editor original.normalize s
  rw [fixes_eq_fixesSeen]
  cases needed : book.needsSource original.normalize with
  | true =>
      have read : sourceFor book (some editor) original.normalize = sourceAnyway editor original.normalize := by
        rw [sourceFor_some, if_pos needed]
      exact fixesSeen_result (read ▸ looked) looked rfl rfl policy
  | false =>
      have unread : (sourceFor book (some editor) original.normalize).runOn s = (.ok none, s) := by
        rw [sourceFor_some, if_neg (by simp [needed])]
        exact ExceptT.runOn_pure none s
      exact fixesSeen_result unread looked (RuleBook.matchingFixes_of_not_needsSource needed none source?)
        (still original.normalize.file original.normalize.signature s).symm policy

theorem Bench.leavesAnswers : LeavesAnswers Bench.files.editor Bench.store := fun _ _ _ => rfl

def marking : Rule Float :=
  { Rule.advice "mark" [6133] "Mark the file" .semiAutomatic 0.5 with edit := .insertAtStart "// unread" }

def dropping : Rule Float :=
  { Rule.advice "drop" [1] "Drop the line" .semiAutomatic 0.5 with edit := .deleteLine }

theorem fixes_unread_bench : ∃ b : RuleBook Float, RuleBook.ofRules [marking, dropping] = .ok b ∧
    b.needsSource unread.normalize = false ∧ (b.matchingFixes unread.normalize none).isOk = true ∧
    b.matchingFixes unread.normalize none = b.matchingFixes unread.normalize (some twoLines) ∧
    ((fixes Bench.store b (some Bench.files.editor) .standard unread).runOn bench).1 =
      ((fixesSeen (sourceAnyway Bench.files.editor) Bench.store b .standard unread).runOn bench).1 := by
  have made : RuleBook.ofRules [marking, dropping] = .ok ⟨[⟨marking, none⟩, ⟨dropping, none⟩]⟩ := rfl
  have free : RuleBook.needsSource ⟨[⟨marking, none⟩, ⟨dropping, none⟩]⟩ unread.normalize = false := by decide +kernel
  obtain ⟨alike, same⟩ := fixes_unread Bench.leavesAnswers ⟨[⟨marking, none⟩, ⟨dropping, none⟩]⟩ .standard unread
  exact ⟨_, made, free, by decide +kernel, alike unread.normalize free twoLines, same bench⟩

end Suggest

end Remedy
