import Remedy.Proofs.Action.Stay
import Remedy.Proofs.Files.View
import Remedy.Proofs.Suggest.Origin

/-! Suggesting only looks at the source files. Main statement: the changes of a suggested fix are those that
its rule makes in the text that is there. -/

namespace Remedy

open ExceptT (Stays)

variable {m : Type → Type} [Monad m] {σ : Type} [World m σ] {α : Type}

/-- The changes of a fix for a diagnostic are those that some rule of the book makes in a text. -/
def Fix.Fits (fix : Fix α) (book : RuleBook α) (d : Diagnostic) (text : Buffer) : Prop :=
  fix.changes = [] ∨
    ∃ r ∈ book.rules, ∃ captures?, r.recognise d = .yes captures? ∧
      fix.changes = r.rule.edit.resolve d captures? (some text)

namespace Suggest

theorem sourceFor_stays {R : σ → σ → Prop} [IsPreorder σ R] (book : RuleBook α) (d : Diagnostic)
    {editor? : Option (Editor m)} (kept : ∀ editor ∈ editor?, ∀ path, Stays R (editor.read path)) :
    Stays R (sourceFor book editor? d) := by
  unfold sourceFor
  cases editor? with
  | none => exact ExceptT.stays_pure _
  | some editor =>
      dsimp only
      split
      · refine (Action.stays_attempt (kept editor rfl d.file)).bind ?_
        intro result
        cases result with
        | ok text => exact ExceptT.stays_pure _
        | error e => exact ExceptT.stays_pure _
      · exact ExceptT.stays_pure _

theorem sourceFor_shows {files : FileView m} {book : RuleBook α} {d : Diagnostic} {s s' : σ} {text : Buffer}
    (looked : (sourceFor book (some files.editor) d).runOn s = (.ok (some text), s')) :
    files.content s (files.place s d.file) = some (files.encode text) := by
  unfold sourceFor at looked
  dsimp only at looked
  split at looked
  · rw [ExceptT.bind_ok] at looked
    obtain ⟨result, t, ran, looked⟩ := looked
    rw [Action.runOn_attempt] at ran
    cases result with
    | error e => simp at looked
    | ok found =>
        simp only [ExceptT.runOn_pure, Prod.mk.injEq, Except.ok.injEq, Option.some.injEq] at looked ran
        rw [← looked.1]
        exact files.read_shows d.file s found ran.1
  · simp at looked

theorem sourceFor_there {editor : Editor m} {book : RuleBook α} {d : Diagnostic} {s : σ} {text : Buffer}
    (needed : book.needsSource d = true) (read : ((editor.read d.file).runOn s).1 = .ok text) :
    (sourceFor book (some editor) d).runOn s = (.ok (some text), ((editor.read d.file).runOn s).2) := by
  unfold sourceFor
  dsimp only
  rw [if_pos needed, ExceptT.runOn_bind, Action.runOn_attempt, read]
  exact ExceptT.runOn_pure _ _

/-- Where a file is there, what was found as the source makes no other changes than its text, or none. -/
theorem resolve_there {files : FileView m} {book : RuleBook α} {d : Diagnostic} {s s' : σ} {source? : Option Buffer}
    {text : Buffer} (looked : (sourceFor book (some files.editor) d).runOn s = (.ok source?, s'))
    (there : files.content s (files.place s d.file) = some (files.encode text)) (edit : RuleEdit)
    (captures? : Option Captures) :
    edit.resolve d captures? source? = [] ∨
      edit.resolve d captures? source? = edit.resolve d captures? (some text) := by
  cases source? with
  | some source =>
      have same : files.encode source = files.encode text := by
        rw [← Option.some.injEq, ← sourceFor_shows looked, ← there]
      exact .inr (by rw [files.encode_injective source text same])
  | none =>
      cases bound : edit.needsSource with
      | true => exact .inl (RuleEdit.resolve_none bound d captures?)
      | false => exact .inr (RuleEdit.resolve_of_not_needsSource bound d captures? none (some text))

variable [Scalar α]

theorem fixes_stays {R : σ → σ → Prop} [IsPreorder σ R] {store : Store m α} {editor? : Option (Editor m)}
    (book : RuleBook α) (policy : BlendPolicy α) (d : Diagnostic)
    (kept : ∀ editor ∈ editor?, ∀ path, Stays R (editor.read path))
    (steady : ∀ signature, Stays R (store.get signature)) : Stays R (fixes store book editor? policy d) := by
  unfold fixes
  refine (Action.stays_ofDomain _).bind fun _ => ?_
  refine (sourceFor_stays book _ kept).bind fun source? => ?_
  refine (Action.stays_ofDomain _).bind fun ruleFixes => ?_
  refine (steady _).bind fun past? => ?_
  exact (Action.stays_ofDomain _).bind fun all => ExceptT.stays_pure _

theorem fixes_ok {store : Store m α} {book : RuleBook α} {editor? : Option (Editor m)}
    {policy : BlendPolicy α} {original : Diagnostic} {found : List (Fix α)} {s s' : σ}
    (ran : (fixes store book editor? policy original).runOn s = (.ok found, s')) :
    ∃ source? t ruleFixes past? all,
      (sourceFor book editor? original.normalize).runOn s = (.ok source?, t) ∧
      book.matchingFixes original.normalize source? = .ok ruleFixes ∧
      (store.get original.normalize.signature).runOn t = (.ok past?, s') ∧
      candidates policy original.normalize ruleFixes past? = .ok all ∧ found = Fix.ranked all := by
  unfold fixes at ran
  dsimp only at ran
  obtain ⟨_, _, valid, validated⟩ := ExceptT.bind_ok.mp ran
  obtain ⟨-, rfl⟩ := Action.ofDomain_ok.mp valid
  obtain ⟨source?, t, looked, seen⟩ := ExceptT.bind_ok.mp validated
  obtain ⟨ruleFixes, _, matching, matched⟩ := ExceptT.bind_ok.mp seen
  obtain ⟨offered, rfl⟩ := Action.ofDomain_ok.mp matching
  obtain ⟨past?, last, got, remembered⟩ := ExceptT.bind_ok.mp matched
  obtain ⟨all, _, gathering, gathered⟩ := ExceptT.bind_ok.mp remembered
  obtain ⟨combined, rfl⟩ := Action.ofDomain_ok.mp gathering
  simp only [ExceptT.runOn_pure, Prod.mk.injEq, Except.ok.injEq] at gathered
  obtain ⟨rfl, rfl⟩ := gathered
  exact ⟨source?, _, ruleFixes, past?, all, looked, offered, got, combined, rfl⟩

/-- The changes of every suggested fix are made for the text that is there. -/
theorem fixes_fit {files : FileView m} {store : Store m α} {book : RuleBook α} {policy : BlendPolicy α}
    {original : Diagnostic} {found : List (Fix α)} {s s' : σ} {text : Buffer}
    (ran : (fixes store book (some files.editor) policy original).runOn s = (.ok found, s'))
    (there : files.content s (files.place s original.file) = some (files.encode text))
    {fix : Fix α} (member : fix ∈ found) : fix.Fits book original.normalize text := by
  obtain ⟨source?, t, ruleFixes, past?, all, looked, matched, -, gathered, rfl⟩ := fixes_ok ran
  have among : fix ∈ all := mem_ranked.mp member
  rcases ((candidates_comes gathered).1 fix among).changes with nothing | ⟨base, fromRules, changes⟩
  · exact .inl nothing
  · obtain ⟨r, inBook, captures?, recognised, made⟩ := RuleBook.mem_fixesOf matched fromRules
    have resolved : base.changes = r.rule.edit.resolve original.normalize captures? source? := by
      rw [(Fix.build_kept made).2]
    rcases resolve_there looked there r.rule.edit captures? with nothing | same
    · exact .inl (changes.trans (resolved.trans nothing))
    · exact .inr ⟨r, inBook, captures?, recognised, changes.trans (resolved.trans same)⟩

end Suggest

end Remedy
