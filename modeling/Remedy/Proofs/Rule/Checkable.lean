import Remedy.Fix.Apply
import Remedy.Proofs.Action.Run
import Remedy.Proofs.Fix.Condition
import Remedy.Proofs.Fix.Settled
import Remedy.Rule.Book

/-! Which conditions of an automatic rule can be checked. Main statement: the phrases of an accepted automatic rule are
known, so its post-conditions can be checked, but a pre-condition that asks for the edited text cannot, and keeps every
attempt from going further. -/

namespace Remedy

namespace Condition

def needsEdit : Condition → Bool
  | editsWithinBounds | targetPositionExists | importAbsent | balancedDelimiters => false
  | importPresent | insertedTextPresent | lineCountDecreased | bufferChanged => true

def Reason.isUncheckable : Reason → Bool
  | tooEarly | unknownPhrase => true
  | _ => false

/-- A phrase names a condition that is about the edited text. -/
def AsksForEdit (phrase : String) : Prop := ∃ c, ofPhrase? phrase = some c ∧ c.needsEdit = true

variable {ctx : Context} {changes : List Change} {reason : Reason}

theorem require_reason {holds : Bool} {given : Reason} (checkable : given.isUncheckable = false)
    (failed : require holds given = some reason) : reason.isUncheckable = false := by
  cases holds with
  | true => cases failed
  | false =>
      cases failed
      exact checkable

theorem missingFrom?_reason {cs : List Char} {shift : ℤ}
    (missing : missingFrom? cs shift changes = .ok (some reason)) : reason.isUncheckable = false := by
  induction changes generalizing shift with
  | nil => cases missing
  | cons c rest ih =>
      rw [missingFrom?] at missing
      obtain ⟨start, -, missing⟩ := Except.bind_eq_ok.mp missing
      obtain ⟨stop, -, missing⟩ := Except.bind_eq_ok.mp missing
      split at missing
      · obtain ⟨grown, -, missing⟩ := Except.bind_eq_ok.mp missing
        obtain ⟨shift', -, missing⟩ := Except.bind_eq_ok.mp missing
        exact ih missing
      · cases missing
        rfl

theorem importReason?_reason {wanted : List Char → Bool} {describe : String → Reason}
    (checkable : ∀ line, (describe line).isUncheckable = false)
    (failed : importReason? changes wanted describe = some reason) : reason.isUncheckable = false := by
  simp only [importReason?] at failed
  split at failed
  · cases failed
    rfl
  · obtain ⟨line, -, rfl⟩ := Option.map_eq_some_iff.mp failed
    exact checkable _

theorem Context.edited_reason {check : Buffer → Except Panic (Option Reason)}
    (checkable : ∀ after, check after = .ok (some reason) → reason.isUncheckable = false)
    (failed : ctx.edited check = .ok (some reason)) : reason.isUncheckable = ctx.after?.isNone := by
  rw [Context.edited] at failed
  cases edited : ctx.after? with
  | none =>
      rw [edited] at failed
      cases failed
      rfl
  | some after =>
      rw [edited] at failed
      exact checkable after failed

theorem reason?_uncheckable {c : Condition} (failed : c.reason? ctx = .ok (some reason)) :
    reason.isUncheckable = (c.needsEdit && ctx.after?.isNone) := by
  cases c with
  | editsWithinBounds =>
      rw [reason?] at failed
      split at failed
      · cases failed
      · cases failed
        rfl
      · cases failed
  | targetPositionExists => exact require_reason rfl (Except.ok.inj failed)
  | importAbsent => exact importReason?_reason (fun _ => rfl) (Except.ok.inj failed)
  | importPresent =>
      exact Context.edited_reason (fun _ failed => importReason?_reason (fun _ => rfl) (Except.ok.inj failed)) failed
  | insertedTextPresent => exact Context.edited_reason (fun _ failed => missingFrom?_reason failed) failed
  | lineCountDecreased =>
      exact Context.edited_reason (fun _ failed => require_reason rfl (Except.ok.inj failed)) failed
  | bufferChanged => exact Context.edited_reason (fun _ failed => require_reason rfl (Except.ok.inj failed)) failed
  | balancedDelimiters =>
      obtain ⟨fault, -, rfl⟩ := Option.map_eq_some_iff.mp (Except.ok.inj failed)
      rfl

theorem phraseReason?_uncheckable {phrase : String} (known : (ofPhrase? phrase).isSome = true)
    (failed : phraseReason? ctx phrase = .ok (some reason)) :
    reason.isUncheckable = true ↔ AsksForEdit phrase ∧ ctx.after? = none := by
  obtain ⟨c, names⟩ := Option.isSome_iff_exists.mp known
  rw [phraseReason?, names] at failed
  rw [reason?_uncheckable failed, AsksForEdit, names]
  simp

theorem AsksForEdit.phraseReason? {phrase : String} (asks : AsksForEdit phrase) (unedited : ctx.after? = none) :
    Condition.phraseReason? ctx phrase = .ok (some .tooEarly) := by
  obtain ⟨c, names, needs⟩ := asks
  simp only [Condition.phraseReason?, names]
  cases c <;> simp_all [needsEdit, reason?, Context.edited]

/-- Of a list of known phrases, one is left unchecked exactly if it asks for an edited text that is not there and those
before it hold. -/
theorem firstFailed?_uncheckable_iff {phrases : List String} (known : allKnown phrases = true) :
    (∃ failed, firstFailed? ctx phrases = .ok (some failed) ∧ failed.reason.isUncheckable = true) ↔
      ctx.after? = none ∧ ∃ front phrase back, phrases = front ++ phrase :: back ∧ AsksForEdit phrase ∧
        ∀ other ∈ front, Holds ctx other := by
  constructor
  · rintro ⟨failed, first, uncheckable⟩
    obtain ⟨front, back, rfl, held, given⟩ := firstFailed?_eq_some_iff.mp first
    have listed := List.all_eq_true.mp known failed.phrase (by simp)
    obtain ⟨asks, unedited⟩ := (phraseReason?_uncheckable listed given).mp uncheckable
    exact ⟨unedited, front, failed.phrase, back, rfl, asks, held⟩
  · rintro ⟨unedited, front, phrase, back, parts, asks, held⟩
    have first : firstFailed? ctx phrases = .ok (some ⟨phrase, .tooEarly⟩) :=
      firstFailed?_eq_some_iff.mpr ⟨front, back, parts, held, asks.phraseReason? unedited⟩
    exact ⟨_, first, rfl⟩

theorem AsksForEdit.firstFailed? {phrase : String} {phrases : List String} (asks : AsksForEdit phrase)
    (listed : phrase ∈ phrases) (unedited : ctx.after? = none) : Condition.firstFailed? ctx phrases ≠ .ok none := by
  intro unfailed
  have holds := (firstFailed?_eq_none_iff ctx phrases).mp unfailed phrase listed
  rw [← phraseReason?_eq_none_iff, asks.phraseReason? unedited] at holds
  cases holds

end Condition

namespace Rule

variable {α : Type} [Scalar α] {r : Rule α} {d : Diagnostic} {captures? : Option Captures} {source? : Option Buffer}
  {fix : Fix α}

theorem validate_eq_ok_iff : r.validate = .ok () ↔ r.flaw? = none := by
  unfold validate
  cases r.flaw? <;> simp

theorem known_of_valid (valid : r.validate = .ok ()) (automatic : r.autonomy = .automatic) :
    Condition.allKnown r.preConditions = true ∧ Condition.allKnown r.postConditions = true := by
  have unflawed := validate_eq_ok_iff.mp valid
  unfold flaw? at unflawed
  split_ifs at unflawed with _ _ _ _ _ unknown
  simpa [automatic] using unknown

theorem fix_checks (made : r.fix d captures? source? = .ok fix) :
    fix.checks.preConditions = r.preConditions ∧ fix.checks.postConditions = r.postConditions := by
  rw [(Fix.build_kept made).2]
  exact ⟨rfl, rfl⟩

/-- Whatever an accepted automatic rule makes of a diagnostic, the post-conditions are all checked, and of the
pre-conditions one is left unchecked exactly where one that asks for the edited text comes first of those that fail. A
rule with such a pre-condition never gets past it. -/
theorem unchecked_iff (valid : r.validate = .ok ()) (automatic : r.autonomy = .automatic)
    (made : r.fix d captures? source? = .ok fix) (before : Buffer) :
    (∀ after failed, fix.failedAfter? d before after = .ok (some failed) → failed.reason.isUncheckable = false) ∧
      ((∃ failed, fix.failedBefore? d before = .ok (some failed) ∧ failed.reason.isUncheckable = true) ↔
        ∃ front phrase back, r.preConditions = front ++ phrase :: back ∧ Condition.AsksForEdit phrase ∧
          ∀ other ∈ front, Condition.Holds ⟨d, fix.changes, before, none⟩ other) ∧
      ((∃ phrase ∈ r.preConditions, Condition.AsksForEdit phrase) → fix.failedBefore? d before ≠ .ok none) := by
  obtain ⟨known, known'⟩ := known_of_valid valid automatic
  obtain ⟨same, same'⟩ := fix_checks made
  rw [Fix.failedBefore?, same]
  refine ⟨?_, ?_, ?_⟩
  · intro after failed first
    rw [Fix.failedAfter?, same'] at first
    rw [← Bool.not_eq_true]
    intro uncheckable
    have unedited := ((Condition.firstFailed?_uncheckable_iff known').mp ⟨failed, first, uncheckable⟩).1
    cases unedited
  · rw [Condition.firstFailed?_uncheckable_iff known]
    simp
  · rintro ⟨phrase, listed, asks⟩
    exact asks.firstFailed? listed rfl

/-- An automatic rule that puts a comment in front and asks beforehand that the text has changed. -/
def hasty : Rule Float where
  id := "header"
  codes := [9999]
  category? := none
  messagePattern? := none
  description := "Add a header"
  autonomy := .automatic
  confidence := 0.9
  edit := .insertAtStart "// x\n"
  preConditions := ["edits within file bounds", "buffer changed"]
  postConditions := ["buffer changed"]
  sideEffects := []
  rollbackPossible := true

def odd : Diagnostic := ⟨⟨"a.ts"⟩, 1, 1, "Odd.", 9999, .error, .genericError⟩

theorem hasty_asks : Condition.AsksForEdit "buffer changed" := ⟨.bufferChanged, by decide +kernel, rfl⟩

/-- Its fix does not get past its pre-conditions, whatever the text. -/
theorem unchecked_iff_hasty : ∃ fix, hasty.fix odd none none = .ok fix ∧ fix.autonomy = .automatic ∧
    (∀ before, fix.failedBefore? odd before ≠ .ok none) ∧
      ∃ failed, fix.failedBefore? odd (.ofString "x") = .ok (some failed) ∧ failed.reason.isUncheckable = true := by
  cases made : hasty.fix odd none none with
  | error e =>
      have built : (hasty.fix odd none none).isOk = true := by decide +kernel
      rw [made] at built
      cases built
  | ok fix =>
      have autonomy : (hasty.fix odd none none).map Fix.autonomy = .ok .automatic := by decide +kernel
      have changes : (hasty.fix odd none none).map Fix.changes = .ok [.insert 0 "// x\n"] := by decide +kernel
      rw [made] at autonomy changes
      have valid : hasty.validate = .ok () := by decide +kernel
      refine ⟨fix, rfl, Except.ok.inj autonomy, ?_, ?_⟩
      · intro before
        exact (unchecked_iff valid rfl made before).2.2 ⟨"buffer changed", by simp [hasty], hasty_asks⟩
      · apply (unchecked_iff valid rfl made (.ofString "x")).2.1.mpr
        refine ⟨["edits within file bounds"], "buffer changed", [], rfl, hasty_asks, ?_⟩
        rw [← Condition.firstFailed?_eq_none_iff, Except.ok.inj changes]
        decide +kernel

/-- It is accepted, its diagnostic is recognised, and a condition of its automatic fix is left unchecked. -/
theorem hasty_unchecked : hasty.validate = .ok () ∧ (⟨hasty, none⟩ : ReadyRule Float).recognise odd = .yes none ∧
    (hasty.fix odd none none).map (fun fix => (fix.autonomy, fix.failedBefore? odd (.ofString "x"))) =
      .ok (.automatic, .ok (some ⟨"buffer changed", .tooEarly⟩)) := by
  decide +kernel

end Rule

end Remedy
