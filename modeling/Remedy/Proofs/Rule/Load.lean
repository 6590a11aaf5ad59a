import Remedy.Proofs.Files.Tree
import Remedy.Proofs.Rule.Book
import Remedy.Rule.Load

/-! Rule packs added to a book. Main statements: the packs are added as a whole or not at all unless one of their rules
has the id of a rule of the book; then the rules before the first such one stay in the book. No other rule that was
loaded is refused, and no attempt spoils a book. -/

namespace Remedy

namespace PackRule

variable {p : PackRule} {r : Rule Float}

def draft (p : PackRule) (category? : Option Category) (autonomy : Autonomy) (edit : RuleEdit) : Rule Float where
  id := p.id
  codes := p.codes
  category? := category?
  messagePattern? := p.messagePattern?
  description := p.description
  autonomy := autonomy
  confidence := p.confidence
  edit := edit
  preConditions := p.preConditions
  postConditions := p.postConditions
  sideEffects := p.sideEffects
  rollbackPossible := p.rollbackPossible

theorem rule_ok (made : p.rule = .ok r) :
    ∃ category? autonomy edit, r = p.draft category? autonomy edit ∧ p.checkPattern = .ok () ∧
      ofDomain r.validate = .ok () := by
  have steps : ∀ (category? : Except PackRuleFlaw (Option Category)) (edit : Except PackRuleFlaw RuleEdit),
      (category?.bind fun category? => (ofDomain (Autonomy.read p.autonomy)).bind fun autonomy =>
        p.checkPattern.bind fun _ => edit.bind fun edit =>
          (ofDomain (p.draft category? autonomy edit).validate).bind fun _ =>
            .ok (p.draft category? autonomy edit)) = .ok r →
      ∃ category? autonomy edit, r = p.draft category? autonomy edit ∧ p.checkPattern = .ok () ∧
        ofDomain r.validate = .ok () := by
    intro category? edit made
    obtain ⟨category?, -, made⟩ := Except.bind_eq_ok.mp made
    obtain ⟨autonomy, -, made⟩ := Except.bind_eq_ok.mp made
    obtain ⟨_, checked, made⟩ := Except.bind_eq_ok.mp made
    obtain ⟨edit, -, made⟩ := Except.bind_eq_ok.mp made
    obtain ⟨_, valid, made⟩ := Except.bind_eq_ok.mp made
    cases made
    exact ⟨category?, autonomy, edit, rfl, checked, valid⟩
  unfold rule at made
  cases word? : p.category? <;> cases edit? : p.edit? <;> rw [word?, edit?] at made <;> exact steps _ _ made

theorem rule_sound (made : p.rule = .ok r) : r.flaw? = none ∧ (RuleBook.readPattern r).isOk = true := by
  obtain ⟨category?, autonomy, edit, rfl, checked, valid⟩ := rule_ok made
  constructor
  · cases flaw : (p.draft category? autonomy edit).flaw? with
    | none => rfl
    | some f => simp [Rule.validate, flaw, ofDomain] at valid
  · have same : (p.draft category? autonomy edit).messagePattern? = p.messagePattern? := rfl
    unfold checkPattern at checked
    unfold RuleBook.readPattern
    rw [same]
    cases written : p.messagePattern? with
    | none => rfl
    | some s =>
        rw [written] at checked
        cases read : Pattern.read s with
        | ok pattern =>
            simp only [read]
            rfl
        | error fault => simp [read] at checked

end PackRule

theorem Toml.parse?_ofList {s : String} {cs : List Char} (spelled : s = String.ofList cs) :
    parse? s = (Progress.statements? (cs.length + 1) ⟨[], []⟩ (dropMark cs)).map fun p =>
      .table (Draft.finishFields p.root) := by
  rw [spelled, parse?, String.toList_ofList, String.length_ofList]

namespace Pack

open RuleBook (Fit Extended)

variable {path : Path} {loaded rules all : List (Rule Float)}

theorem rulesOf_sound {given : List PackRule} (made : rulesOf path given = .ok rules) :
    ∀ r ∈ rules, r.flaw? = none ∧ (RuleBook.readPattern r).isOk = true := by
  induction given generalizing rules with
  | nil =>
      cases made
      exact fun _ none => (List.not_mem_nil none).elim
  | cons p rest ih =>
      unfold rulesOf at made
      cases own : p.rule with
      | error flaw => simp [own] at made
      | ok rule =>
          rw [own] at made
          cases others : rulesOf path rest with
          | error e => simp [others, Except.map] at made
          | ok later =>
              simp only [others, Except.map, Except.ok.injEq] at made
              rw [← made]
              exact List.forall_mem_cons.mpr ⟨PackRule.rule_sound own, ih others⟩

theorem append_fit (fit : Fit loaded) (sound : ∀ r ∈ rules, r.flaw? = none ∧ (RuleBook.readPattern r).isOk = true)
    (appended : append path loaded rules = .ok all) : Fit all := by
  induction rules generalizing loaded with
  | nil =>
      cases appended
      exact fit
  | cons r rest ih =>
      unfold append at appended
      split at appended
      · cases appended
      · rename_i unlisted
        have own : r.id ∉ loaded.map (·.id) := by simpa using unlisted
        have first := sound r List.mem_cons_self
        refine ih ⟨?_, ?_, ?_⟩ (fun other later => sound other (List.mem_cons_of_mem r later)) appended
        · intro other member
          rcases List.mem_append.mp member with earlier | last
          · exact fit.valid other earlier
          · exact List.mem_singleton.mp last ▸ first.1
        · intro other member
          rcases List.mem_append.mp member with earlier | last
          · exact fit.readable other earlier
          · exact List.mem_singleton.mp last ▸ first.2
        · rw [List.map_append, List.nodup_append]
          refine ⟨fit.distinct, List.nodup_singleton _, ?_⟩
          rintro id earlier _ last rfl
          have same : id = r.id := List.mem_singleton.mp last
          exact own (same ▸ earlier)

variable {m : Type → Type} [Monad m] {σ : Type} [World m σ] {disk : Disk m} {s s' : σ}

theorem loadFile_sound (ran : (loadFile disk path).runOn s = (.ok rules, s')) :
    ∀ r ∈ rules, r.flaw? = none ∧ (RuleBook.readPattern r).isOk = true := by
  obtain ⟨result, t, -, ran⟩ := ExceptT.bind_ok.mp ran
  cases result with
  | error e =>
      rw [ExceptT.runOn_throw] at ran
      cases ran
  | ok text =>
      have read : World.step (pure (Pack.read path text) : m _) t = (.ok rules, s') := ran
      rw [World.step_pure, Prod.mk.injEq] at read
      have made := read.1
      unfold Pack.read at made
      split at made
      · exact rulesOf_sound made
      · cases made

theorem loadFiles_fit {paths : List Path} (fit : Fit loaded)
    (ran : (loadFiles disk loaded paths).runOn s = (.ok all, s')) : Fit all := by
  induction paths generalizing loaded s with
  | nil =>
      rw [loadFiles, ExceptT.runOn_pure] at ran
      cases ran
      exact fit
  | cons path rest ih =>
      obtain ⟨rules, t, read, ran⟩ := ExceptT.bind_ok.mp ran
      obtain ⟨more, u, joined, ran⟩ := ExceptT.bind_ok.mp ran
      have appended : World.step (pure (append path loaded rules) : m _) t = (.ok more, u) := joined
      rw [World.step_pure, Prod.mk.injEq] at appended
      exact ih (append_fit fit (loadFile_sound read) appended.1) ran

theorem loadFrom_fit {paths : List Path} (fit : Fit loaded)
    (ran : (loadFrom disk loaded paths).runOn s = (.ok all, s')) : Fit all := by
  induction paths generalizing loaded s with
  | nil =>
      rw [loadFrom, ExceptT.runOn_pure] at ran
      cases ran
      exact fit
  | cons path rest ih =>
      obtain ⟨found, t, -, ran⟩ := ExceptT.bind_ok.mp ran
      obtain ⟨more, u, read, ran⟩ := ExceptT.bind_ok.mp ran
      exact ih (loadFiles_fit fit read) ran

/-- Rules that were loaded may be added together: a book finds no flaw in them that is not found before. -/
theorem load_fit {paths : List Path} (ran : ((load disk paths).runOn s).1 = .ok rules) : Fit rules := by
  have nothing : Fit ([] : List (Rule Float)) := ⟨by simp, by simp, List.nodup_nil⟩
  exact loadFrom_fit nothing (Prod.ext ran rfl)

/-- A book is extended by what was loaded, if anything was. -/
theorem step_extend (disk : Disk m) (book : RuleBook Float) (paths : List Path) (s : σ) :
    (World.step (extend disk book paths) s).1 =
      match ((load disk paths).runOn s).1 with
      | .error e => (book, .error e.failure)
      | .ok rules => ((book.extend rules).1, ((book.extend rules).2.map fun _ => rules.length).mapError .domain) := by
  unfold extend ExceptT.runOn
  rw [World.step_bind]
  cases (World.step (load disk paths).run s).1 with
  | error e => rw [World.step_pure]
  | ok rules =>
      dsimp only
      rcases book.extend rules with ⟨book', result⟩
      cases result with
      | error e =>
          rw [World.step_pure]
          rfl
      | ok done =>
          rw [World.step_pure]
          rfl

/-- What comes of adding packs to a book: nothing was loaded, all that was loaded is added, or as much of it as comes
before a rule whose id the book has already. -/
inductive Ends (book : RuleBook Float) (loaded : Except PackError (List (Rule Float))) :
    RuleBook Float × Except Failure Nat → Prop
  | refused {e : PackError} (failed : loaded = .error e) : Ends book loaded (book, .error e.failure)
  | whole {rules : List (Rule Float)} {added : List (ReadyRule Float)} (found : loaded = .ok rules)
      (fresh : ∀ r ∈ rules, r.id ∉ book.ids) (same : added.map (·.rule) = rules) :
      Ends book loaded (⟨book.rules ++ added⟩, .ok rules.length)
  | cut {front back : List (Rule Float)} {r : Rule Float} {added : List (ReadyRule Float)}
      (found : loaded = .ok (front ++ r :: back)) (fresh : ∀ r ∈ front, r.id ∉ book.ids) (known : r.id ∈ book.ids)
      (same : added.map (·.rule) = front) :
      Ends book loaded (⟨book.rules ++ added⟩, .error (.domain (.invalidRule r.id .duplicateId)))

theorem extend_ends (disk : Disk m) (book : RuleBook Float) (paths : List Path) (s : σ) :
    Ends book ((load disk paths).runOn s).1 (World.step (extend disk book paths) s).1 := by
  rw [step_extend]
  cases ran : ((load disk paths).runOn s).1 with
  | error e => exact .refused rfl
  | ok rules =>
      have extended : Extended book rules (book.extend rules) := RuleBook.extend_of_fit (load_fit ran)
      dsimp only
      generalize book.extend rules = ended at extended ⊢
      cases extended with
      | whole fresh same => exact .whole rfl fresh same
      | cut divides fresh known same => exact .cut (congrArg Except.ok divides) fresh known same

/-- What was loaded stands behind the rules of the book, with their number as the answer, or the book is as it was and
the answer is a failure of the configuration. -/
def AllOrNothing (book : RuleBook Float) (loaded : Except PackError (List (Rule Float)))
    (ended : RuleBook Float × Except Failure Nat) : Prop :=
  (∃ rules added, loaded = .ok rules ∧ added.map ReadyRule.rule = rules ∧
      ended = (⟨book.rules ++ added⟩, .ok rules.length)) ∨
    ∃ message, ended = (book, .error (.configuration message))

theorem not_allOrNothing_of_domain {book b : RuleBook Float} {loaded : Except PackError (List (Rule Float))}
    (e : DomainError) : ¬AllOrNothing book loaded (b, .error (.domain e)) := by
  rintro (⟨_, _, _, _, kept⟩ | ⟨_, kept⟩) <;> simp at kept

/-- Packs are added as a whole or not at all exactly if no rule in them has the id of a rule of the book. Otherwise the
rules in front of the first that has one stay in the book, and the failure is not one of the configuration. -/
theorem extend_allOrNothing_iff (disk : Disk m) (book : RuleBook Float) (paths : List Path) (s : σ) :
    (AllOrNothing book ((load disk paths).runOn s).1 (World.step (extend disk book paths) s).1 ↔
        ∀ rules, ((load disk paths).runOn s).1 = .ok rules → ∀ r ∈ rules, r.id ∉ book.ids) ∧
      ∀ rules, ((load disk paths).runOn s).1 = .ok rules → (∃ r ∈ rules, r.id ∈ book.ids) →
        ∃ front r back added, rules = front ++ r :: back ∧ (∀ r ∈ front, r.id ∉ book.ids) ∧ r.id ∈ book.ids ∧
          added.map ReadyRule.rule = front ∧ (World.step (extend disk book paths) s).1 =
            (⟨book.rules ++ added⟩, .error (.domain (.invalidRule r.id .duplicateId))) := by
  have ends := extend_ends disk book paths s
  generalize ((load disk paths).runOn s).1 = loaded at ends ⊢
  generalize (World.step (extend disk book paths) s).1 = ended at ends ⊢
  cases ends with
  | @refused e failed =>
      rw [failed]
      exact ⟨iff_of_true (.inr ⟨e.message, rfl⟩) (by simp), by simp⟩
  | @whole rules added found fresh same =>
      rw [found]
      constructor
      · refine iff_of_true (.inl ⟨rules, added, rfl, same, rfl⟩) ?_
        rintro _ ⟨⟩
        exact fresh
      · rintro _ ⟨⟩ ⟨r, among, known⟩
        exact (fresh r among known).elim
  | @cut front back r added found fresh known same =>
      rw [found]
      constructor
      · refine iff_of_false (not_allOrNothing_of_domain _) ?_
        intro apart
        exact apart _ rfl r (by simp) known
      · rintro _ ⟨⟩ -
        exact ⟨front, r, back, added, rfl, fresh, known, same, rfl⟩

/-- Rules that were loaded are refused by a book only for an id that it has. Whatever attempts are made to add rules to
a book, ids come once, every rule is valid, and the rules that were there stay in front. -/
theorem load_extend_agree (disk : Disk m) (paths : List Path) (s : σ) (book : RuleBook Float) :
    (∀ rules, ((load disk paths).runOn s).1 = .ok rules →
      ((∃ e, (book.extend rules).2 = .error e) ↔ ∃ r ∈ rules, r.id ∈ book.ids)) ∧
    (book.Assembled → ∀ attempts, (book.extendAll attempts).ids.Nodup ∧
      (∀ r ∈ (book.extendAll attempts).rules, r.rule.validate = .ok ()) ∧
      book.rules <+: (book.extendAll attempts).rules) := by
  constructor
  · intro rules loaded
    exact (RuleBook.extend_of_fit (load_fit loaded)).refused_iff
  · intro assembled attempts
    obtain ⟨sound, behind⟩ := assembled.sound.extendAll attempts
    refine ⟨sound.distinct, fun r member => ?_, behind⟩
    rw [Rule.validate, (sound.accepted r member).1]

theorem load_file {text : String} (kind : World.step (disk.kind? path) s = (some .regular, s))
    (held : World.step (disk.readText path) s = (.ok text, s)) :
    ((load disk [path]).runOn s).1 = (Pack.read path text).bind (append path []) := by
  have parsed : ∀ {β : Type} (result : Except PackError β),
      (ExceptT.mk (pure result) : Loading m β).runOn s = (result, s) := fun result => World.step_pure result s
  have one : (files disk path).runOn s = (.ok [path], s) := by
    rw [files, ExceptT.runOn_bind, ExceptT.runOn_lift, kind, ExceptT.andThen_ok]
    exact ExceptT.runOn_pure _ s
  have opened : (loadFile disk path).runOn s = (Pack.read path text, s) := by
    rw [loadFile, ExceptT.runOn_bind, ExceptT.runOn_lift, held, ExceptT.andThen_ok]
    exact parsed _
  rw [load, loadFrom, ExceptT.runOn_bind, one, ExceptT.andThen_ok, ExceptT.runOn_bind, loadFiles, ExceptT.runOn_bind,
    opened]
  cases Pack.read path text with
  | error e => rfl
  | ok rules =>
      rw [ExceptT.andThen_ok, ExceptT.runOn_bind, parsed]
      cases joined : append path [] rules with
      | error e => simp only [ExceptT.andThen_error, Except.bind, joined]
      | ok all =>
          simp only [ExceptT.andThen_ok, loadFiles, loadFrom, ExceptT.runOn_pure, Except.bind, joined]

/-- A rule of its own, and one with the id of a rule of the program. -/
def overlapping : String :=
  "[[rule]]
id = \"wrap-value\"
codes = [9999]
description = \"Wrap the value\"
fix_type = \"manual\"
confidence = 0.5
post_conditions = [\"diagnostic no longer reported\"]

[[rule]]
id = \"add-null-check\"
codes = [9999]
description = \"Guard the value\"
fix_type = \"manual\"
confidence = 0.5
post_conditions = [\"diagnostic no longer reported\"]
"

def packPath : Path := ⟨"pack.toml"⟩

def holding (text : String) : Tree := ⟨[(["pack.toml"], .file text.toUTF8)], []⟩

theorem readText_holding (text : String) :
    World.step (Tree.disk.readText packPath) (holding text) = (.ok text, holding text) := by
  have there : (holding text).read packPath = .ok text.toUTF8 := rfl
  rw [Tree.step_readText, there]
  simp only [Except.bind, Tree.fromUTF8?_toUTF8]

theorem load_holding (text : String) :
    ((load Tree.disk [packPath]).runOn (holding text)).1 = (Pack.read packPath text).bind (append packPath []) :=
  load_file rfl (readText_holding text)

set_option maxRecDepth 2000 in
theorem overlapping_read : ((Pack.read packPath overlapping).bind (append packPath [])).toOption.map (·.map (·.id)) =
    some ["wrap-value", "add-null-check"] := by
  have spelled : overlapping = String.ofList _ := rfl
  rw [Pack.read, parse?, Toml.parse?_ofList spelled]
  decide +kernel

theorem Ends.of_pair {book : RuleBook Float} {loaded : Except PackError (List (Rule Float))}
    {ended : RuleBook Float × Except Failure Nat} (ends : Ends book loaded ended) {first second : String}
    (ids : loaded.toOption.map (·.map (·.id)) = some [first, second]) (fresh : first ∉ book.ids)
    (known : second ∈ book.ids) : ∃ added : ReadyRule Float, added.rule.id = first ∧
      ended = (⟨book.rules ++ [added]⟩, .error (.domain (.invalidRule second .duplicateId))) := by
  cases ends with
  | refused failed => simp [failed, Except.toOption] at ids
  | @whole rules added found others same =>
      simp only [found, Except.toOption, Option.map_some, Option.some.injEq] at ids
      have listed : second ∈ rules.map (·.id) := by simp [ids]
      obtain ⟨r, among, rfl⟩ := List.mem_map.mp listed
      exact (others r among known).elim
  | @cut front back r added found others taken same =>
      simp only [found, Except.toOption, Option.map_some, Option.some.injEq, List.map_append, List.map_cons] at ids
      rcases front with _ | ⟨f, _ | ⟨g, rest⟩⟩
      · obtain ⟨own, -⟩ := List.cons.inj ids
        exact (fresh (own ▸ taken)).elim
      · obtain ⟨a, rfl, rfl⟩ := List.map_eq_singleton_iff.mp same
        simp only [List.map_cons, List.map_nil, List.singleton_append, List.cons.injEq] at ids
        exact ⟨a, ids.1, by rw [ids.2.1]⟩
      · simp at ids

/-- With that pack a rule stays in the book although the pack is refused, and the failure is not one of the
configuration. -/
theorem refused_pack_stays : ∃ b : RuleBook Float, Catalog.book = .ok b ∧
    (∃ added : ReadyRule Float, added.rule.id = "wrap-value" ∧
      (World.step (extend Tree.disk b [packPath]) (holding overlapping)).1 =
        (⟨b.rules ++ [added]⟩, .error (.domain (.invalidRule "add-null-check" .duplicateId)))) ∧
    ¬AllOrNothing b ((load Tree.disk [packPath]).runOn (holding overlapping)).1
      (World.step (extend Tree.disk b [packPath]) (holding overlapping)).1 := by
  obtain ⟨b, made, all⟩ := Catalog.book_ok
  have ids : b.ids = (Catalog.rules : List (Rule Float)).map (·.id) := by
    rw [RuleBook.ids, ← all, List.map_map]
    rfl
  have fresh : "wrap-value" ∉ b.ids := by
    rw [ids]
    decide +kernel
  have known : "add-null-check" ∈ b.ids := by
    rw [ids]
    decide +kernel
  have ends := extend_ends Tree.disk b [packPath] (holding overlapping)
  rw [load_holding] at ends
  obtain ⟨added, own, ended⟩ := ends.of_pair overlapping_read fresh known
  refine ⟨b, made, ⟨added, own, ended⟩, ?_⟩
  rw [ended]
  exact not_allOrNothing_of_domain _

theorem overlapping_loaded : ∃ rules, ((load Tree.disk [packPath]).runOn (holding overlapping)).1 = .ok rules ∧
    rules.map (·.id) = ["wrap-value", "add-null-check"] := by
  obtain ⟨rules, found, ids⟩ := Option.map_eq_some_iff.mp overlapping_read
  rw [load_holding]
  exact ⟨rules, Except.toOption_eq_some_iff.mp found, ids⟩

/-- That pack is refused, and trying it again keeps the ids apart. -/
theorem load_extend_agree_overlapping : ∃ b : RuleBook Float, ∃ rules, Catalog.book = .ok b ∧
    ((load Tree.disk [packPath]).runOn (holding overlapping)).1 = .ok rules ∧
    (∃ e, (b.extend rules).2 = .error e) ∧ (b.extendAll [rules, rules]).ids.Nodup ∧
    b.rules <+: (b.extendAll [rules, rules]).rules := by
  obtain ⟨b, made, -⟩ := Catalog.book_ok
  have known : "add-null-check" ∈ b.ids := by
    rw [Catalog.book_ids made]
    decide +kernel
  obtain ⟨rules, loaded, named⟩ := overlapping_loaded
  have listed : "add-null-check" ∈ rules.map (·.id) := by simp [named]
  obtain ⟨r, among, own⟩ := List.mem_map.mp listed
  obtain ⟨refused, kept⟩ := load_extend_agree Tree.disk [packPath] (holding overlapping) b
  obtain ⟨distinct, -, behind⟩ := kept (.made made) [rules, rules]
  exact ⟨b, rules, made, loaded, (refused rules loaded).mpr ⟨r, among, own ▸ known⟩, distinct, behind⟩

end Pack

end Remedy
