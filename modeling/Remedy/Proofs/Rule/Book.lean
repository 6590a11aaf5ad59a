import Mathlib.Data.List.Nodup
import Remedy.Catalog.Rule
import Remedy.Proofs.Action.Run

/-! Rule books that grew from the rules that come with the program. Main statement: the fixes of such a book can
all be built unless a description is blank when it is filled in. -/

namespace Remedy

theorem Text.not_isAllBlank {s : String} {c : Char} {cs : List Char} (same : s = String.ofList (c :: cs))
    (solid : isBlank c = false) : isAllBlank s = false := by
  rw [same, isAllBlank, String.toList_ofList, List.all_cons, solid, Bool.false_and]

/-- The template begins with a character that stands for itself and is not white space. -/
def Captures.BeginsPlain (template : String) : Prop :=
  ∃ c cs, template = String.ofList (c :: cs) ∧ Text.isBlank c = false ∧ c ≠ '$'

theorem Captures.BeginsPlain.fill {template : String} (begins : BeginsPlain template)
    (captures? : Option Captures) : Text.isAllBlank (Captures.fill captures? template) = false := by
  obtain ⟨c, cs, rfl, solid, plain⟩ := begins
  cases captures? with
  | none => exact Text.not_isAllBlank rfl solid
  | some captured =>
      have expanded : captured.expand (String.ofList (c :: cs)) =
          String.ofList (c :: captured.expandFrom (cs.length + 1) cs) := by
        rw [expand, String.toList_ofList, List.length_cons]
        congr 1
        rw [expandFrom] <;> simp [plain]
      exact Text.not_isAllBlank expanded solid

variable {α : Type} [Scalar α]

namespace Rule

variable {r : Rule α}

theorem flaw?_texts (named : Text.isAllBlank r.id = false) (described : Text.isAllBlank r.description = false) :
    r.flaw? = flaw? { r with id := "id", description := "text" } := by
  have solid : Text.isAllBlank "id" = false := Text.not_isAllBlank rfl rfl
  have solid' : Text.isAllBlank "text" = false := Text.not_isAllBlank rfl rfl
  simp only [flaw?, named, described, solid, solid']

theorem build_of_flaw? (valid : r.flaw? = none) :
    Scalar.isProportion r.confidence = true ∧ r.postConditions.isEmpty = false := by
  unfold flaw? at valid
  split_ifs at valid with _ _ confident ends
  exact ⟨by simpa using confident, by simpa using ends⟩

def blank (r : Rule α) (d : Diagnostic) : DomainError :=
  .invalidFix (Text.natText d.code.toNat ++ "-" ++ r.id) .emptyDescription

theorem fix_of_valid (valid : r.flaw? = none) (d : Diagnostic) (captures? : Option Captures)
    (source? : Option Buffer) :
    if Text.isAllBlank (Captures.fill captures? r.description) then
      r.fix d captures? source? = .error (r.blank d)
    else ∃ fix, r.fix d captures? source? = .ok fix := by
  obtain ⟨confident, ends⟩ := build_of_flaw? valid
  unfold fix Fix.build
  cases Text.isAllBlank (Captures.fill captures? r.description) with
  | true => simp [blank]
  | false => simp [confident, ends]

end Rule

namespace ReadyRule

def Describes (d : Diagnostic) (r : ReadyRule α) : Prop :=
  ∀ captures?, r.recognise d = .yes captures? →
    Text.isAllBlank (Captures.fill captures? r.rule.description) = false

end ReadyRule

namespace RuleBook

variable {b b' : RuleBook α} {rules : List (Rule α)} {d : Diagnostic} {source? : Option Buffer}

def Accepted (b : RuleBook α) : Prop :=
  ∀ r ∈ b.rules, r.rule.flaw? = none ∧ readPattern r.rule = .ok r.pattern?

theorem accept_eq_ok {r : Rule α} {ready : ReadyRule α} :
    b.accept r = .ok ready ↔
      r.flaw? = none ∧ r.id ∉ b.ids ∧ readPattern r = .ok ready.pattern? ∧ ready.rule = r := by
  unfold accept Rule.validate
  cases flaw : r.flaw? with
  | some f => simp [bind, Except.bind]
  | none =>
      by_cases known : r.id ∈ b.ids
      · simp [known, bind, Except.bind, throw, throwThe, MonadExceptOf.throw]
      · cases read : readPattern r with
        | error e => simp [known, bind, Except.bind]
        | ok pattern? =>
            obtain ⟨rule, own⟩ := ready
            have fresh : b.ids.contains r.id = false := by simpa using known
            simp only [fresh, Bool.false_eq_true, ↓reduceIte, bind, Except.bind, pure, Except.pure]
            simp [known, eq_comm, and_comm]

/-- Whether or not all rules are added, those that are have no flaw, and their patterns were read. -/
theorem accepted_extend (accepted : b.Accepted) (rules : List (Rule α)) : (b.extend rules).1.Accepted := by
  induction rules generalizing b with
  | nil => exact accepted
  | cons r rest ih =>
      unfold extend
      cases ready : b.accept r with
      | error e => exact accepted
      | ok added =>
          obtain ⟨valid, -, read, rfl⟩ := accept_eq_ok.mp ready
          refine ih ?_
          intro other member
          rcases List.mem_append.mp member with earlier | last
          · exact accepted other earlier
          · rw [List.mem_singleton.mp last]
            exact ⟨valid, read⟩

theorem accepted_of_extend (accepted : b.Accepted) (extended : b.extend rules = (b', .ok ())) : b'.Accepted := by
  have kept := accepted_extend accepted rules
  rwa [extended] at kept

theorem prefix_extend (b : RuleBook α) (rules : List (Rule α)) : b.rules <+: (b.extend rules).1.rules := by
  induction rules generalizing b with
  | nil => exact List.prefix_refl _
  | cons r rest ih =>
      unfold extend
      cases b.accept r with
      | error e => exact List.prefix_refl _
      | ok added => exact (List.prefix_append _ _).trans (ih ⟨b.rules ++ [added]⟩)

/-- Rules that may be added together: none has a flaw, all patterns can be read, and no id comes twice. -/
structure Fit (rules : List (Rule α)) : Prop where
  valid : ∀ r ∈ rules, r.flaw? = none
  readable : ∀ r ∈ rules, (readPattern r).isOk = true
  distinct : (rules.map (·.id)).Nodup

theorem Fit.rest {r : Rule α} {rest : List (Rule α)} (fit : Fit (r :: rest)) : Fit rest where
  valid other later := fit.valid other (List.mem_cons_of_mem r later)
  readable other later := fit.readable other (List.mem_cons_of_mem r later)
  distinct := (List.nodup_cons.mp fit.distinct).2

/-- What comes of adding such rules: all of them stand behind those of the book, or those do that come before one
whose id the book has already. -/
inductive Extended (b : RuleBook α) (rules : List (Rule α)) : RuleBook α × Except DomainError Unit → Prop
  | whole {added : List (ReadyRule α)} (fresh : ∀ r ∈ rules, r.id ∉ b.ids) (same : added.map (·.rule) = rules) :
      Extended b rules (⟨b.rules ++ added⟩, .ok ())
  | cut {front back : List (Rule α)} {r : Rule α} {added : List (ReadyRule α)} (divides : rules = front ++ r :: back)
      (fresh : ∀ r ∈ front, r.id ∉ b.ids) (known : r.id ∈ b.ids) (same : added.map (·.rule) = front) :
      Extended b rules (⟨b.rules ++ added⟩, .error (.invalidRule r.id .duplicateId))

omit [Scalar α] in
theorem Extended.cons {first : ReadyRule α} {ended : RuleBook α × Except DomainError Unit}
    (fresh : first.rule.id ∉ b.ids) (alone : first.rule.id ∉ rules.map (·.id))
    (extended : Extended ⟨b.rules ++ [first]⟩ rules ended) : Extended b (first.rule :: rules) ended := by
  have ids : (⟨b.rules ++ [first]⟩ : RuleBook α).ids = b.ids ++ [first.rule.id] := by simp [RuleBook.ids]
  cases extended with
  | @whole added others same =>
      rw [List.append_assoc, List.singleton_append]
      refine .whole (List.forall_mem_cons.mpr ⟨fresh, ?_⟩) (by rw [List.map_cons, same])
      intro r later known
      exact others r later (ids ▸ List.mem_append_left _ known)
  | @cut front back r added divides others known same =>
      rw [List.append_assoc, List.singleton_append]
      have own : r.id ≠ first.rule.id := by
        intro twice
        exact alone (twice ▸ List.mem_map_of_mem (by rw [divides]; simp))
      refine .cut (by rw [divides, List.cons_append]) (List.forall_mem_cons.mpr ⟨fresh, ?_⟩) ?_
        (by rw [List.map_cons, same])
      · intro r earlier known
        exact others r earlier (ids ▸ List.mem_append_left _ known)
      · rw [ids, List.mem_append, List.mem_singleton] at known
        exact known.resolve_right own

theorem extend_of_fit (fit : Fit rules) : Extended b rules (b.extend rules) := by
  induction rules generalizing b with
  | nil =>
      have nothing : Extended b [] (⟨b.rules ++ []⟩, .ok ()) := .whole (by simp) rfl
      rwa [List.append_nil] at nothing
  | cons r rest ih =>
      have readFirst := fit.readable r List.mem_cons_self
      cases read : readPattern r with
      | error e =>
          rw [read] at readFirst
          cases readFirst
      | ok pattern? =>
          unfold extend
          by_cases known : r.id ∈ b.ids
          · have refused : b.accept r = .error (.invalidRule r.id .duplicateId) := by
              have listed : b.ids.contains r.id = true := by simpa using known
              simp only [accept, Rule.validate, fit.valid r List.mem_cons_self, listed]
              rfl
            simp only [refused]
            have stopped : Extended b (r :: rest) (⟨b.rules ++ []⟩, .error (.invalidRule r.id .duplicateId)) :=
              .cut (List.nil_append _).symm (by simp) known rfl
            rwa [List.append_nil] at stopped
          · have ready : b.accept r = .ok ⟨r, pattern?⟩ :=
              accept_eq_ok.mpr ⟨fit.valid r List.mem_cons_self, known, read, rfl⟩
            have alone := (List.nodup_cons.mp fit.distinct).1
            have later : Extended ⟨b.rules ++ [⟨r, pattern?⟩]⟩ rest _ := ih fit.rest
            simp only [ready]
            exact later.cons known alone

omit [Scalar α] in
/-- Of rules that may be added together only one with an id of the book is refused. -/
theorem Extended.refused_iff {ended : RuleBook α × Except DomainError Unit} (extended : Extended b rules ended) :
    (∃ e, ended.2 = .error e) ↔ ∃ r ∈ rules, r.id ∈ b.ids := by
  cases extended with
  | whole fresh same =>
      refine iff_of_false (by simp) ?_
      rintro ⟨r, member, known⟩
      exact fresh r member known
  | @cut front back r added divides fresh known same =>
      exact iff_of_true ⟨_, rfl⟩ ⟨r, by rw [divides]; simp, known⟩

theorem extend_ok (valid : ∀ r ∈ rules, r.flaw? = none) (readable : ∀ r ∈ rules, (readPattern r).isOk = true)
    (distinct : (b.ids ++ rules.map (·.id)).Nodup) :
    ∃ b', b.extend rules = (b', .ok ()) ∧ b'.rules.map (·.rule) = b.rules.map (·.rule) ++ rules := by
  obtain ⟨-, own, apart⟩ := List.nodup_append.mp distinct
  have extended := extend_of_fit (b := b) ⟨valid, readable, own⟩
  generalize b.extend rules = ended at extended ⊢
  cases extended with
  | @whole added fresh same => exact ⟨_, rfl, by rw [List.map_append, same]⟩
  | @cut front back r added divides fresh known same =>
      have twice : r.id ∈ rules.map (·.id) := List.mem_map_of_mem (by rw [divides]; simp)
      exact (apart _ known _ twice rfl).elim

theorem extend_ids_nodup (distinct : b.ids.Nodup) (rules : List (Rule α)) : (b.extend rules).1.ids.Nodup := by
  induction rules generalizing b with
  | nil => exact distinct
  | cons r rest ih =>
      unfold extend
      cases ready : b.accept r with
      | error e => exact distinct
      | ok added =>
          obtain ⟨-, fresh, -, rfl⟩ := accept_eq_ok.mp ready
          have ids : (⟨b.rules ++ [added]⟩ : RuleBook α).ids = b.ids.concat added.rule.id := by simp [RuleBook.ids]
          exact ih (ids ▸ distinct.concat fresh)

inductive Assembled : RuleBook α → Prop
  | made {rules : List (Rule α)} {b : RuleBook α} (made : ofRules rules = .ok b) : Assembled b
  | extended {b : RuleBook α} (assembled : Assembled b) (rules : List (Rule α)) : Assembled (b.extend rules).1

/-- What is kept of books: ids come once, and no rule has a flaw. -/
structure Sound (b : RuleBook α) : Prop where
  distinct : b.ids.Nodup
  accepted : b.Accepted

theorem Sound.extend (sound : b.Sound) (rules : List (Rule α)) : (b.extend rules).1.Sound :=
  ⟨extend_ids_nodup sound.distinct rules, accepted_extend sound.accepted rules⟩

theorem sound_of_ofRules (made : ofRules rules = .ok b) : b.Sound := by
  have nothing : (empty : RuleBook α).Sound := ⟨List.nodup_nil, fun _ none => (List.not_mem_nil none).elim⟩
  have sound := nothing.extend rules
  unfold ofRules at made
  split at made
  · rename_i extended
    cases made
    rwa [extended] at sound
  · cases made

theorem Assembled.sound (assembled : b.Assembled) : b.Sound := by
  induction assembled with
  | made made => exact sound_of_ofRules made
  | extended assembled rules ih => exact ih.extend rules

theorem Assembled.ids_nodup (assembled : b.Assembled) : b.ids.Nodup := assembled.sound.distinct

def extendAll (b : RuleBook α) (attempts : List (List (Rule α))) : RuleBook α :=
  attempts.foldl (fun b rules => (b.extend rules).1) b

/-- No attempt changes what is kept of books, and none changes the rules that are there. -/
theorem Sound.extendAll (sound : b.Sound) (attempts : List (List (Rule α))) :
    (b.extendAll attempts).Sound ∧ b.rules <+: (b.extendAll attempts).rules := by
  induction attempts generalizing b with
  | nil => exact ⟨sound, List.prefix_refl _⟩
  | cons rules rest ih =>
      obtain ⟨kept, behind⟩ := ih (sound.extend rules)
      exact ⟨kept, (prefix_extend b rules).trans behind⟩

theorem fixesOf_of_valid {rules : List (ReadyRule α)} (valid : ∀ r ∈ rules, r.rule.flaw? = none) (d : Diagnostic)
    (source? : Option Buffer) :
    (∃ fixes, fixesOf d source? rules = .ok fixes) ∧ (∀ r ∈ rules, r.Describes d) ∨
      ∃ r ∈ rules, fixesOf d source? rules = .error (r.rule.blank d) ∧ ¬r.Describes d := by
  induction rules with
  | nil => exact .inl ⟨⟨[], rfl⟩, fun _ none => (List.not_mem_nil none).elim⟩
  | cons r rest ih =>
      have first := valid r List.mem_cons_self
      have later := ih fun other member => valid other (List.mem_cons_of_mem r member)
      unfold fixesOf
      cases recognised : r.recognise d with
      | no =>
          have idle : r.Describes d := by
            intro captures? yes
            rw [recognised] at yes
            cases yes
          rcases later with ⟨made, describe⟩ | ⟨other, member, failed, silent⟩
          · exact .inl ⟨made, List.forall_mem_cons.mpr ⟨idle, describe⟩⟩
          · exact .inr ⟨other, List.mem_cons_of_mem r member, failed, silent⟩
      | yes captures? =>
          have built := Rule.fix_of_valid first d captures? source?
          split at built
          · rename_i empty
            refine .inr ⟨r, List.mem_cons_self, ?_, ?_⟩
            · simp only [built]
              rfl
            · intro describes
              rw [describes captures? recognised] at empty
              cases empty
          · rename_i solid
            have own : r.Describes d := by
              intro others? yes
              rw [recognised] at yes
              cases yes
              simpa using solid
            obtain ⟨fix, made⟩ := built
            rcases later with ⟨⟨fixes, all⟩, describe⟩ | ⟨other, member, failed, silent⟩
            · left
              refine ⟨⟨fix :: fixes, ?_⟩, List.forall_mem_cons.mpr ⟨own, describe⟩⟩
              simp only [made, all]
              rfl
            · right
              refine ⟨other, List.mem_cons_of_mem r member, ?_, silent⟩
              simp only [made, failed]
              rfl

inductive Grown : RuleBook Float → Prop where
  | builtIn {b : RuleBook Float} (made : Catalog.book = .ok b) : Grown b
  | extend {b b' : RuleBook Float} {rules : List (Rule Float)} (grown : Grown b)
      (extended : b.extend rules = (b', .ok ())) : Grown b'

theorem ofRules_of_extend (extended : empty.extend rules = (b, .ok ())) : ofRules rules = .ok b := by
  unfold ofRules
  rw [extended]

theorem accepted_of_ofRules {b : RuleBook Float} {rules : List (Rule Float)} (made : ofRules rules = .ok b) :
    b.Accepted := (sound_of_ofRules made).accepted

theorem Grown.accepted {b : RuleBook Float} (grown : b.Grown) : b.Accepted := by
  induction grown with
  | builtIn made => exact accepted_of_ofRules made
  | extend grown extended ih => exact accepted_of_extend ih extended

end RuleBook

namespace Catalog

theorem rules_named : ∀ r ∈ (rules : List (Rule Float)), Text.isAllBlank r.id = false := by
  unfold rules
  simp only [List.forall_mem_cons]
  and_intros <;> first | exact Text.not_isAllBlank rfl rfl | exact fun _ none => (List.not_mem_nil none).elim

theorem rules_begin : ∀ r ∈ (rules : List (Rule Float)), Captures.BeginsPlain r.description := by
  unfold rules
  simp only [List.forall_mem_cons]
  and_intros <;>
    first | exact ⟨_, _, rfl, rfl, by decide⟩ | exact fun _ none => (List.not_mem_nil none).elim

theorem rules_valid : ∀ r ∈ (rules : List (Rule Float)), r.flaw? = none := by
  have formed : ∀ r ∈ (rules : List (Rule Float)),
      Rule.flaw? { r with id := "id", description := "text" } = none := by decide +kernel
  intro r member
  obtain ⟨c, cs, same, solid, -⟩ := rules_begin r member
  rw [Rule.flaw?_texts (rules_named r member) (Text.not_isAllBlank same solid)]
  exact formed r member

theorem book_ok : ∃ b : RuleBook Float, book = .ok b ∧ b.rules.map (·.rule) = rules := by
  have readable : ∀ r ∈ (rules : List (Rule Float)), (RuleBook.readPattern r).isOk = true := by decide +kernel
  have distinct : ((RuleBook.empty : RuleBook Float).ids ++ (rules : List (Rule Float)).map (·.id)).Nodup := by
    decide +kernel
  obtain ⟨b, extended, all⟩ := RuleBook.extend_ok rules_valid readable distinct
  exact ⟨b, RuleBook.ofRules_of_extend extended, all⟩

theorem book_rules {b : RuleBook Float} (built : book = .ok b) : b.rules.map (·.rule) = rules := by
  obtain ⟨b', made, all⟩ := book_ok
  cases made.symm.trans built
  exact all

theorem book_ids {b : RuleBook Float} (built : book = .ok b) : b.ids = (rules : List (Rule Float)).map (·.id) := by
  rw [RuleBook.ids, ← book_rules built, List.map_map]
  rfl

end Catalog

end Remedy
