import Remedy.Proofs.Files.Memory
import Remedy.Proofs.Fix.Success
import Remedy.Proofs.Rule.Edit
import Remedy.Proofs.Suggest.Ranking

/-! Automatic fixes of the rules of the program. Main statement: one that is applied to the text it was suggested for is
committed as soon as its pre-conditions hold. -/

namespace Remedy

variable {α : Type}

/-- Whatever a rule says of the text it leaves, its edit is meant to bring about. -/
def Rule.Keeps (r : Rule α) : Prop :=
  ∀ phrase ∈ r.postConditions, ∃ c ∈ r.edit.brings, Condition.ofPhrase? phrase = some c

theorem Catalog.automatic_keeps : ∀ r ∈ (rules : List (Rule Float)), r.autonomy = .automatic → r.Keeps := by
  unfold Rule.Keeps
  decide +kernel

theorem Catalog.book_keeps {b : RuleBook Float} (built : book = .ok b) :
    ∀ r ∈ b.rules, r.rule.autonomy = .automatic → r.rule.Keeps := by
  intro r listed
  exact automatic_keeps r.rule (book_rules built ▸ List.mem_map_of_mem listed)

theorem Autonomy.eq_automatic {a : Autonomy} (least : a.rank ≤ automatic.rank) : a = automatic := by
  cases a with
  | automatic => rfl
  | semiAutomatic => exact absurd least (by decide)
  | manual => exact absurd least (by decide)

namespace Suggest

section Origin

variable [Scalar α] {policy : BlendPolicy α} {d : Diagnostic} {past? : Option (Entry α)}

theorem reviewed_rank (policy : BlendPolicy α) (past? : Option (Entry α)) (fix : Fix α) :
    fix.autonomy.rank ≤ (reviewed policy past? fix).autonomy.rank := by
  cases past? with
  | none => exact le_refl _
  | some e => exact fix.rank_le_withConfidence _

theorem reviewed_postConditions (policy : BlendPolicy α) (past? : Option (Entry α)) (fix : Fix α) :
    (reviewed policy past? fix).checks.postConditions = fix.checks.postConditions := by
  cases past? with
  | none => rfl
  | some e => exact Fix.settle_postConditions _

theorem Comes.automatic {book : RuleBook α} {source? : Option Buffer} {ruleFixes : List (Fix α)} {fix : Fix α}
    (comes : Comes policy d ruleFixes past? fix) (matched : book.matchingFixes d source? = .ok ruleFixes)
    (automatic : fix.autonomy = .automatic) :
    ∃ r ∈ book.rules, ∃ captures?, r.rule.autonomy = .automatic ∧
      fix.changes = r.rule.edit.resolve d captures? source? ∧
      fix.checks.postConditions = r.rule.postConditions := by
  cases comes with
  | @rule base given =>
      obtain ⟨r, listed, captures?, -, made⟩ := RuleBook.mem_fixesOf matched given
      obtain ⟨less, kept⟩ := Fix.build_kept made
      have least := less.trans (reviewed_rank policy past? base)
      rw [automatic] at least
      refine ⟨r, listed, captures?, Autonomy.eq_automatic least, ?_, ?_⟩
      · rw [reviewed_changes, kept]
      · rw [reviewed_postConditions, kept]
  | learned there among made =>
      have less := (Fix.build_kept made).1
      rw [automatic] at less
      cases Autonomy.eq_automatic less
  | advice unmatched made =>
      have less := (Fix.build_kept made).1
      rw [automatic] at less
      cases Autonomy.eq_automatic less

end Origin

section Applied

variable {m : Type → Type} [Monad m] {σ : Type} [World m σ] {store : Store m Float} {book : RuleBook Float}
  {Holds : σ → Table Float → Prop} {files : FileView m} {Ready : σ → Prop} {policy : BlendPolicy Float}
  {d : Diagnostic} {s s' : σ} {t : Table Float} {found : List (Fix Float)} {fix : Fix Float} {text : Buffer}

/-- With history in a store that serves it, a suggested automatic fix is as it should be, and its changes make a text of
the one that is there of which its post-conditions hold. -/
theorem automatic_delivers (serves : store.Serves Holds) (apart : Apart (some files.editor) Holds) (holds : Holds s t)
    (tempered : t.Tempered) (keeps : ∀ r ∈ book.rules, r.rule.autonomy = .automatic → r.rule.Keeps)
    (number : Scalar.undefined policy.maxHistoryWeight = false)
    (there : files.content s (files.place s d.file) = some (files.encode text))
    (ran : (fixes store book (some files.editor) policy d).runOn s = (.ok found, s')) (member : fix ∈ found)
    (automatic : fix.autonomy = .automatic) (room : text.HasRoom fix.changes) :
    fix.WellFormed ∧ ∃ after, text.apply fix.changes = .ok after ∧
      ∀ phrase ∈ fix.checks.postConditions, Condition.Holds ⟨d, fix.changes, text, some after⟩ phrase := by
  obtain ⟨source?, s₁, ruleFixes, all, looked, matched, gathered, rfl⟩ := candidates_of_fixes serves apart holds ran
  have among := mem_ranked.mp member
  have formed := candidates_wellFormed number matched gathered (tempered d.normalize.signature) fix among
  obtain ⟨r, listed, captures?, own, changes, posts⟩ :=
    ((candidates_comes gathered).1 fix among).automatic matched automatic
  have some := (formed.automatic automatic).2.2
  rcases resolve_there looked there r.rule.edit captures? with nothing | same
  · exact (some (changes.trans nothing)).elim
  · rw [same] at changes
    rw [changes] at some room ⊢
    obtain ⟨after, made, brought⟩ := RuleEdit.resolve_brings some room
    refine ⟨formed, after, made, ?_⟩
    intro phrase promised
    rw [posts] at promised
    obtain ⟨c, meant, named⟩ := keeps r listed own phrase promised
    exact ⟨c, named, brought c meant d⟩

/-- After any reports, an automatic fix that the rules of the program offer for the text of a file is committed when it
is applied while the text is the same, its pre-conditions hold and files can be read and written: its changes can be
made, all its post-conditions hold, and the file has the new text. No text in memory is too long for that. -/
theorem automatic_committed (serves : store.Serves Holds) (apart : Apart (some files.editor) Holds)
    (holds : Holds s Table.empty) (reports : List Report) (built : Catalog.book = .ok book)
    (number : Scalar.undefined policy.maxHistoryWeight = false)
    (there : files.content (store.after s reports) (files.place (store.after s reports) d.file) =
      some (files.encode text))
    (ran : (fixes store book (some files.editor) policy d).runOn (store.after s reports) = (.ok found, s'))
    (member : fix ∈ found) (automatic : fix.autonomy = .automatic) (room : text.HasRoom fix.changes)
    (works : files.Works Ready) {u : σ} (ready : Ready u)
    (unchanged : files.content u (files.place u d.file) = some (files.encode text))
    (held : ∀ phrase ∈ fix.checks.preConditions, Condition.Holds ⟨d, fix.changes, text, none⟩ phrase) (id : String) :
    ∃ after o u', text.apply fix.changes = .ok after ∧
      (∀ phrase ∈ fix.checks.postConditions, Condition.Holds ⟨d, fix.changes, text, some after⟩ phrase) ∧
      (fix.apply files.editor id d).runOn u = (.ok o, u') ∧ o.success = true ∧ o.state = .committed ∧
      files.content u' (files.place u d.file) = some (files.encode after) := by
  obtain ⟨t, holds', tempered⟩ := Store.after_tempered serves holds Table.tempered_empty reports
  obtain ⟨formed, after, made, posts⟩ :=
    automatic_delivers serves apart holds' tempered (Catalog.book_keeps built) number there ran member automatic room
  have allowed : fix.refusal? = none := by
    have rollback := (formed.automatic automatic).2.1
    simp [Fix.refusal?, Fix.isAutomatic, automatic, rollback]
  obtain ⟨u', committed, put⟩ := Fix.apply_commits works ready unchanged id allowed formed.valid held made posts
  exact ⟨after, _, u', made, posts, committed, rfl, rfl, put⟩

end Applied

abbrev Bench := MemoryKnowledge Float × MemoryFiles

namespace Bench

def onKnowledge {β : Type} (step : StateM (MemoryKnowledge Float) β) : StateM Bench β := fun w =>
  ((step.run w.1).1, ((step.run w.1).2, w.2))

def onFiles {β : Type} (step : StateM MemoryFiles β) : StateM Bench β := fun w =>
  ((step.run w.2).1, (w.1, (step.run w.2).2))

theorem runOn_onKnowledge {β : Type} (step : Action (StateM (MemoryKnowledge Float)) β) (w : Bench) :
    (step.lifted onKnowledge).runOn w = ((step.runOn w.1).1, ((step.runOn w.1).2, w.2)) := rfl

def store : Store (StateM Bench) Float := MemoryKnowledge.store.lifted onKnowledge

def files : FileView (StateM Bench) where
  editor := MemoryFiles.editor.lifted onFiles
  Place := MemoryFiles.view.Place
  Content := MemoryFiles.view.Content
  place w := MemoryFiles.view.place w.2
  content w := MemoryFiles.view.content w.2
  encode := MemoryFiles.view.encode
  encode_injective := MemoryFiles.view.encode_injective
  place_read path w := MemoryFiles.view.place_read path w.2
  place_write path text w := MemoryFiles.view.place_write path text w.2
  content_read path w := MemoryFiles.view.content_read path w.2
  read_shows path w := MemoryFiles.view.read_shows path w.2
  write_puts path text w := MemoryFiles.view.write_puts path text w.2
  write_elsewhere path text w := MemoryFiles.view.write_elsewhere path text w.2
  write_fails path text w := MemoryFiles.view.write_fails path text w.2

theorem works : files.Works fun w => w.2.failingWrites = 0 where
  read path w := MemoryFiles.view_works.read path w.2
  write path text w := MemoryFiles.view_works.write path text w.2
  read_ready path w := MemoryFiles.view_works.read_ready path w.2
  write_ready path text w := MemoryFiles.view_works.write_ready path text w.2

def Holds (w : Bench) (t : Table Float) : Prop := w.1.Holds t

theorem serves : store.Serves Holds where
  get := by
    intro w t holds signature
    obtain ⟨kb, got, still⟩ := MemoryKnowledge.serves.get holds signature
    refine ⟨(kb, w.2), ?_, still⟩
    rw [store, Store.lifted, runOn_onKnowledge, got]
  put := by
    intro w t holds e
    rcases MemoryKnowledge.serves.put holds e with ⟨kb, put, still⟩ | ⟨failure, kb, put, still⟩
    · refine .inl ⟨(kb, w.2), ?_, still⟩
      rw [store, Store.lifted, runOn_onKnowledge, put]
    · refine .inr ⟨failure, (kb, w.2), ?_, still⟩
      rw [store, Store.lifted, runOn_onKnowledge, put]

theorem apart : Apart (some files.editor) Holds := by
  rintro editor ⟨⟩ path w t holds
  exact holds

end Bench

def unread : Diagnostic :=
  ⟨⟨"a.ts"⟩, 1, 5, "'a' is declared but its value is never read.", 6133, .error, .genericError⟩

def twoLines : Buffer := .ofString "let a = 1;\r\nlet b = 2;"

def bench : Bench := (unlearned, .ofList [(⟨"a.ts"⟩, twoLines)])

def applicable (fix : Fix Float) : Bool :=
  fix.isAutomatic && fix.failedBefore? unread twoLines = .ok none &&
    fix.changes.all fun change => twoLines.length + Text.byteLength change.newText.toList < 2 ^ 63

theorem removal_listed : ∃ r ∈ (Catalog.rules : List (Rule Float)), 6133 ∈ r.codes ∧
    r.category? = none ∧ r.messagePattern? = none ∧ r.edit.needsSource = true ∧
    (match r.fix unread.normalize none (some twoLines) with
      | .ok base => applicable base
      | .error _ => false) = true := by
  decide +kernel

theorem holds_bench : Bench.Holds bench Table.empty := holds_unlearned

theorem twoLines_there :
    Bench.files.content bench (Bench.files.place bench unread.file) = some (Bench.files.encode twoLines) := rfl

theorem unread_suggested {b : RuleBook Float} (made : Catalog.book = .ok b) : ∃ found s',
    (fixes Bench.store b (some Bench.files.editor) .standard unread).runOn bench = (.ok found, s') ∧
      ∃ fix ∈ found, applicable fix = true := by
  have accepted := (RuleBook.Grown.builtIn made).accepted
  have all := Catalog.book_rules made
  obtain ⟨rule, inRules, coded, uncategorised, unpatterned, needs, offers⟩ := removal_listed
  obtain ⟨r, listed, rfl⟩ : ∃ r ∈ b.rules, r.rule = rule := List.mem_map.mp (all ▸ inRules)
  have recognised : r.recognise unread.normalize = .yes none := by
    have read := (accepted r listed).2
    rw [RuleBook.readPattern, unpatterned, Except.ok.injEq] at read
    have code : unread.normalize.code = 6133 := rfl
    simp [ReadyRule.recognise, code, coded, uncategorised, ← read]
  have needed : b.needsSource unread.normalize = true := by
    refine List.any_eq_true.mpr ⟨r, listed, ?_⟩
    rw [needs, Bool.true_and, ReadyRule.recognises, recognised]
  have few : 0 < 2 ^ 64 := by decide
  have valid : unread.validate = .ok () := rfl
  rcases fixes_runOn Bench.serves Bench.apart holds_bench Table.sound_empty few accepted standard_weight valid with ⟨⟨found, s', ran, -⟩, -⟩ | ⟨r, member, -, silent⟩
  · obtain ⟨source?, s₁, ruleFixes, candidates, looked, matched, gathered, rfl⟩ :=
      candidates_of_fixes Bench.serves Bench.apart holds_bench ran
    cases looked.symm.trans (sourceFor_there needed (Bench.works.read unread.file bench twoLines rfl twoLines_there))
    obtain ⟨fix, among, built⟩ := RuleBook.fixesOf_mem matched listed recognised
    rw [built] at offers
    exact ⟨_, s', ran, fix, mem_ranked.mpr ((candidates_comes gathered).2.1 fix among), offers⟩
  · exact (silent (describes_of_listed (all ▸ List.mem_map_of_mem member) unread.normalize)).elim

theorem automatic_committed_unread : ∃ b : RuleBook Float, Catalog.book = .ok b ∧ ∃ found s',
    (fixes Bench.store b (some Bench.files.editor) .standard unread).runOn bench = (.ok found, s') ∧
    ∃ fix ∈ found, fix.autonomy = .automatic ∧ ∃ after o u', twoLines.apply fix.changes = .ok after ∧
      (fix.apply Bench.files.editor "attempt" unread).runOn bench = (.ok o, u') ∧ o.state = .committed ∧
      u'.2.content? unread.file = some after := by
  obtain ⟨b, made, -⟩ := Catalog.book_ok
  obtain ⟨found, s', ran, fix, member, offers⟩ := unread_suggested made
  simp only [applicable, Bool.and_eq_true, List.all_eq_true, decide_eq_true_eq] at offers
  obtain ⟨⟨own, held⟩, room⟩ := offers
  have automatic : fix.autonomy = .automatic := of_decide_eq_true own
  obtain ⟨after, o, u', applied, -, done, -, committed, put⟩ := automatic_committed Bench.serves Bench.apart
    holds_bench [] made rfl twoLines_there ran member automatic room Bench.works rfl twoLines_there
    ((Condition.firstFailed?_eq_none_iff _ _).mp held) "attempt"
  exact ⟨b, made, found, s', ran, fix, member, automatic, after, o, u', applied, done, committed,
    (MemoryFiles.content?_eq _ _).trans put⟩

end Suggest

end Remedy
