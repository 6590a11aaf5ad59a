import Mathlib.Data.List.Induction
import Remedy.Proofs.Command.Apply

/-! What becomes of every diagnostic in a plan. Main statement: the first diagnostic of each file that a fix is wanted
for is planned with this fix, all others that one is wanted for are deferred, and only if there are none at all is a
fix that was asked for not found. -/

namespace Remedy

namespace Plan

variable {α : Type} {requested? : Option String} {found : List Diagnostic} {suggested : List (List (Fix α))}

def Wanted (requested? : Option String) (fix : Fix α) : Prop :=
  match requested? with
  | some id => fix.id = id
  | none => fix.isAutomatic = true

/-- The diagnostic at a place in the list, with the first wanted fix among those suggested for it. -/
structure Candidate (requested? : Option String) (found : List Diagnostic) (suggested : List (List (Fix α))) (i : ℕ)
    (step : PlannedFix α) : Prop where
  listed : found[i]? = some step.diagnostic
  ranked : ∃ before after, suggested[i]? = some (before ++ step.fix :: after) ∧
    ∀ other ∈ before, ¬Wanted requested? other
  wanted : Wanted requested? step.fix

/-- A candidate before which there is none for the same file. -/
structure Leading (requested? : Option String) (found : List Diagnostic) (suggested : List (List (Fix α))) (i : ℕ)
    (step : PlannedFix α) : Prop where
  candidate : Candidate requested? found suggested i step
  first : ∀ j < i, ∀ other, Candidate requested? found suggested j other → other.file.same step.file = false

theorem choose_eq_some_iff {fixes : List (Fix α)} {fix : Fix α} :
    choose requested? fixes = some fix ↔
      (∃ before after, fixes = before ++ fix :: after ∧ ∀ other ∈ before, ¬Wanted requested? other) ∧
        Wanted requested? fix := by
  cases requested? with
  | some id => simp [choose, Wanted, List.find?_eq_some_iff_append, and_comm]
  | none => simp [choose, Wanted, List.find?_eq_some_iff_append, and_comm]

def candidates (requested? : Option String) (found : List Diagnostic) (suggested : List (List (Fix α))) :
    List (ℕ × PlannedFix α) :=
  (found.zip suggested).zipIdx.filterMap fun row => (choose requested? row.1.2).map fun fix => (row.2, ⟨row.1.1, fix⟩)

theorem mem_candidates {i : ℕ} {step : PlannedFix α} :
    (i, step) ∈ candidates requested? found suggested ↔ Candidate requested? found suggested i step := by
  have chosen : (i, step) ∈ candidates requested? found suggested ↔
      ∃ fixes, found[i]? = some step.diagnostic ∧ suggested[i]? = some fixes ∧
        choose requested? fixes = some step.fix := by
    rw [candidates, List.mem_filterMap]
    constructor
    · rintro ⟨⟨⟨d, fixes⟩, k⟩, member, picked⟩
      rw [List.mk_mem_zipIdx_iff_getElem?, List.getElem?_zip_eq_some] at member
      obtain ⟨fix, choice, made⟩ := Option.map_eq_some_iff.mp picked
      cases made
      exact ⟨fixes, member.1, member.2, choice⟩
    · rintro ⟨fixes, listed, known, choice⟩
      refine ⟨((step.diagnostic, fixes), i), ?_, by simp [choice]⟩
      rw [List.mk_mem_zipIdx_iff_getElem?, List.getElem?_zip_eq_some]
      exact ⟨listed, known⟩
  rw [chosen]
  constructor
  · rintro ⟨fixes, listed, known, choice⟩
    obtain ⟨⟨before, after, rfl, unwanted⟩, wanted⟩ := choose_eq_some_iff.mp choice
    exact ⟨listed, ⟨before, after, known, unwanted⟩, wanted⟩
  · rintro ⟨listed, ⟨before, after, known, unwanted⟩, wanted⟩
    exact ⟨_, listed, known, choose_eq_some_iff.mpr ⟨⟨before, after, rfl, unwanted⟩, wanted⟩⟩

theorem candidates_pairwise (requested? : Option String) (found : List Diagnostic) (suggested : List (List (Fix α))) :
    (candidates requested? found suggested).Pairwise fun a b => a.1 < b.1 := by
  have places : ((found.zip suggested).zipIdx.map Prod.snd).Pairwise (· < ·) := by
    rw [List.zipIdx_map_snd]
    exact List.pairwise_lt_range' 1
  rw [candidates, List.pairwise_filterMap]
  refine (List.pairwise_map.mp places).imp ?_
  intro a b before r picked r' picked'
  obtain ⟨fix, -, rfl⟩ := Option.map_eq_some_iff.mp picked
  obtain ⟨fix', -, rfl⟩ := Option.map_eq_some_iff.mp picked'
  exact before

section Gathering

variable {rows : List (ℕ × PlannedFix α)} {r : ℕ × PlannedFix α}

def leads (rows : List (ℕ × PlannedFix α)) (r : ℕ × PlannedFix α) : Bool :=
  rows.all fun other => !(decide (other.1 < r.1) && other.2.file.same r.2.file)

theorem leads_iff :
    leads rows r = true ↔ ∀ other ∈ rows, other.1 < r.1 → other.2.file.same r.2.file = false := by
  rw [leads, List.all_eq_true]
  refine forall₂_congr fun other _ => ?_
  by_cases before : other.1 < r.1 <;> simp [before]

theorem leads_candidates_iff {i : ℕ} {step : PlannedFix α} :
    (i, step) ∈ candidates requested? found suggested ∧ leads (candidates requested? found suggested) (i, step) = true ↔
      Leading requested? found suggested i step := by
  rw [mem_candidates, leads_iff]
  constructor
  · rintro ⟨candidate, leads⟩
    exact ⟨candidate, fun j before other earlier => leads (j, other) (mem_candidates.mpr earlier) before⟩
  · rintro ⟨candidate, first⟩
    exact ⟨candidate, fun other member before => first other.1 before other.2 (mem_candidates.mp member)⟩

theorem leads_concat {last : ℕ × PlannedFix α} (behind : ∀ r ∈ rows, r.1 < last.1) (member : r ∈ rows) :
    leads (rows ++ [last]) r = leads rows r := by
  have later : ¬last.1 < r.1 := (behind r member).not_gt
  simp [leads, later]

theorem touches_gather_iff (picked : List (PlannedFix α)) (file : Path) :
    (gather empty picked).touches file = true ↔ ∃ a ∈ picked, a.file.same file = true := by
  constructor
  · intro touched
    obtain ⟨a, planned, same⟩ := (touches_iff _ file).mp touched
    exact ⟨a, (mem_gather planned).resolve_left (by simp [empty]), same⟩
  · rintro ⟨a, member, same⟩
    obtain ⟨b, planned, alike⟩ := (touches_iff _ a.file).mp (gather_touches (p := empty) member)
    refine (touches_iff _ file).mpr ⟨b, planned, ?_⟩
    rw [Path.same, beq_iff_eq] at same alike ⊢
    exact alike.trans same

theorem leads_last {last : ℕ × PlannedFix α} (behind : ∀ r ∈ rows, r.1 < last.1) :
    leads (rows ++ [last]) last = !(gather empty (rows.map Prod.snd)).touches last.2.file := by
  rw [Bool.eq_iff_iff, leads_iff, Bool.not_eq_true', ← Bool.not_eq_true, touches_gather_iff]
  constructor
  · rintro leads ⟨a, member, same⟩
    obtain ⟨r, row, rfl⟩ := List.mem_map.mp member
    rw [leads r (List.mem_append_left _ row) (behind r row)] at same
    cases same
  · intro untouched r member before
    rcases List.mem_append.mp member with earlier | itself
    · exact Bool.eq_false_iff.mpr fun same => untouched ⟨r.2, List.mem_map_of_mem earlier, same⟩
    · rw [List.mem_singleton.mp itself] at before
      exact (lt_irrefl _ before).elim

theorem gather_concat (p : Plan α) (picked : List (PlannedFix α)) (s : PlannedFix α) :
    p.gather (picked ++ [s]) = (p.gather picked).add s.diagnostic (some s.fix) := by
  rw [gather, List.foldl_append]
  rfl

/-- Gathering plans the rows that lead and defers the others. -/
theorem gather_rows (ordered : rows.Pairwise fun a b => a.1 < b.1) :
    (gather empty (rows.map Prod.snd)).steps = (rows.filter (leads rows)).map Prod.snd ∧
      (gather empty (rows.map Prod.snd)).deferred = (rows.filter fun r => !leads rows r).length := by
  induction rows using List.reverseRecOn with
  | nil => exact ⟨rfl, rfl⟩
  | append_singleton rows last ih =>
      obtain ⟨ordered, -, behind⟩ := List.pairwise_append.mp ordered
      have behind : ∀ r ∈ rows, r.1 < last.1 := fun r member => behind r member last (List.mem_singleton_self last)
      obtain ⟨steps, deferred⟩ := ih ordered
      have kept : rows.filter (leads (rows ++ [last])) = rows.filter (leads rows) :=
        List.filter_congr fun r member => leads_concat behind member
      have waiting : (rows.filter fun r => !leads (rows ++ [last]) r) = rows.filter fun r => !leads rows r :=
        List.filter_congr fun r member => congrArg not (leads_concat behind member)
      have touched : (gather empty (rows.map Prod.snd)).touches last.2.diagnostic.file =
          !leads (rows ++ [last]) last := by rw [leads_last behind, Bool.not_not]; rfl
      rw [List.map_append, List.map_singleton, gather_concat, List.filter_append, List.filter_append, kept, waiting,
        add]
      cases leading : leads (rows ++ [last]) last with
      | true => simp [touched, leading, steps, deferred]
      | false => simp [touched, leading, steps, deferred]

theorem gather_steps_eq_nil_iff (ordered : rows.Pairwise fun a b => a.1 < b.1) :
    (gather empty (rows.map Prod.snd)).steps = [] ↔ rows = [] := by
  constructor
  · intro none
    cases rows with
    | nil => rfl
    | cons r rest =>
        have first : r.2 ∈ (r :: rest).map Prod.snd := List.mem_map_of_mem List.mem_cons_self
        obtain ⟨a, planned, -⟩ := (touches_iff _ r.2.file).mp (gather_touches (p := empty) first)
        rw [none] at planned
        cases planned
  · rintro rfl
    rfl

end Gathering

theorem map_snd_candidates (requested? : Option String) (found : List Diagnostic) (suggested : List (List (Fix α))) :
    (candidates requested? found suggested).map Prod.snd =
      (found.zip suggested).filterMap fun p => (choose requested? p.2).map (⟨p.1, ·⟩) := by
  conv_rhs => rw [← List.zipIdx_map_fst 0 (found.zip suggested), List.filterMap_map]
  rw [candidates, List.map_filterMap]
  congr 1
  funext row
  rw [Option.map_map]
  rfl

variable {m : Type → Type} [Monad m] {σ : Type} [World m σ] [Scalar α]

/-- What is chosen for diagnostics are the candidates of all that is suggested for them. -/
theorem runOn_picks (engine : Engine m α) (requested? : Option String) (found : List Diagnostic) (s : σ) :
    (picks engine requested? found).runOn s =
      (((found.mapM' engine.suggest).runOn s).1.map fun suggested =>
        (candidates requested? found suggested).map Prod.snd, ((found.mapM' engine.suggest).runOn s).2) := by
  simp only [map_snd_candidates]
  induction found generalizing s with
  | nil =>
      rw [picks, List.mapM'_nil, ExceptT.runOn_pure, ExceptT.runOn_pure]
      rfl
  | cons d rest ih =>
      rw [picks, List.mapM'_cons, ExceptT.runOn_bind, ExceptT.runOn_bind]
      rcases (engine.suggest d).runOn s with ⟨result, t⟩
      cases result with
      | error e => rfl
      | ok fixes =>
          rw [ExceptT.andThen_ok, ExceptT.andThen_ok, ExceptT.runOn_bind, ExceptT.runOn_bind, ih]
          rcases (rest.mapM' engine.suggest).runOn t with ⟨others, t'⟩
          cases others with
          | error e => rfl
          | ok suggested =>
              simp only [Except.map, ExceptT.andThen_ok, ExceptT.runOn_pure, List.zip_cons_cons, List.filterMap_cons]
              cases choose requested? fixes <;> rfl

theorem length_of_suggested {engine : Engine m α} {s t : σ}
    (suggests : (found.mapM' engine.suggest).runOn s = (.ok suggested, t)) : suggested.length = found.length := by
  induction found generalizing s suggested with
  | nil =>
      rw [List.mapM'_nil, ExceptT.runOn_pure] at suggests
      cases suggests
      rfl
  | cons d rest ih =>
      rw [List.mapM'_cons] at suggests
      obtain ⟨fixes, u, -, suggests⟩ := ExceptT.bind_ok.mp suggests
      obtain ⟨others, u', further, made⟩ := ExceptT.bind_ok.mp suggests
      rw [ExceptT.runOn_pure] at made
      cases made
      rw [List.length_cons, List.length_cons, ih further]

/-- What a plan is to be for what is suggested: its steps are the leading candidates in the order of the list, and it
counts the places of all other candidates. -/
structure Accounts (requested? : Option String) (found : List Diagnostic) (suggested : List (List (Fix α)))
    (plan : Plan α) : Prop where
  steps : ∃ rows : List (ℕ × PlannedFix α), plan.steps = rows.map Prod.snd ∧ rows.Pairwise (fun a b => a.1 < b.1) ∧
    ∀ i step, (i, step) ∈ rows ↔ Leading requested? found suggested i step
  deferred : ∃ places : List ℕ, plan.deferred = places.length ∧ places.Pairwise (· < ·) ∧
    ∀ i, i ∈ places ↔ ∃ step, Candidate requested? found suggested i step ∧ ¬Leading requested? found suggested i step

omit [Scalar α] in
theorem gather_accounts (requested? : Option String) (found : List Diagnostic) (suggested : List (List (Fix α))) :
    Accounts requested? found suggested (gather empty ((candidates requested? found suggested).map Prod.snd)) := by
  have ordered := candidates_pairwise requested? found suggested
  obtain ⟨steps, deferred⟩ := gather_rows ordered
  constructor
  · refine ⟨_, steps, ordered.filter _, ?_⟩
    intro i step
    rw [List.mem_filter, leads_candidates_iff]
  · refine ⟨((candidates requested? found suggested).filter fun r =>
      !leads (candidates requested? found suggested) r).map Prod.fst, ?_, ?_, ?_⟩
    · rw [List.length_map, deferred]
    · exact List.pairwise_map.mpr (ordered.filter _)
    · intro i
      rw [List.mem_map]
      constructor
      · rintro ⟨⟨i, step⟩, member, rfl⟩
        obtain ⟨member, behind⟩ := List.mem_filter.mp member
        refine ⟨step, mem_candidates.mp member, fun leading => ?_⟩
        rw [(leads_candidates_iff.mpr leading).2] at behind
        cases behind
      · rintro ⟨step, candidate, behind⟩
        refine ⟨(i, step), List.mem_filter.mpr ⟨mem_candidates.mpr candidate, ?_⟩, rfl⟩
        rw [Bool.not_eq_true', ← Bool.not_eq_true]
        exact fun leads => behind (leads_candidates_iff.mp ⟨mem_candidates.mpr candidate, leads⟩)

omit [Scalar α] in
theorem candidates_eq_nil_iff {id : String} (whole : suggested.length = found.length) :
    candidates (some id) found suggested = [] ↔ ∀ fixes ∈ suggested, ∀ fix ∈ fixes, fix.id ≠ id := by
  have all : (found.zip suggested).map Prod.snd = suggested := List.map_snd_zip whole.le
  rw [← List.map_eq_nil_iff (f := Prod.snd), map_snd_candidates, List.filterMap_eq_nil_iff]
  conv_rhs => rw [← all, List.forall_mem_map]
  refine forall₂_congr fun p _ => ?_
  simp [choose]

end Plan

namespace Command

variable {m : Type → Type} [Monad m] {σ : Type} [World m σ]

/-- A plan for diagnostics that fixes are suggested for accounts for all of them, unless a fix was asked for that is
suggested for none. -/
theorem makePlan_accounts {engine : CommandEngine m} {requested? : Option String} {found : List Diagnostic}
    {suggested : List (List (Fix Float))} {session : Session} {seen : Table Float} {s t : σ}
    (suggests : (found.mapM' engine.suggest).runOn (session.seen, s) = (.ok suggested, (seen, t))) :
    (∀ id, ((makePlan engine requested? found).runOn (session, s)).1 = .error (.fixNotFound id) ↔
      requested? = some id ∧ ∀ fixes ∈ suggested, ∀ fix ∈ fixes, fix.id ≠ id) ∧
    ((∃ id, ((makePlan engine requested? found).runOn (session, s)).1 = .error (.fixNotFound id)) ∨
      ∃ plan, ((makePlan engine requested? found).runOn (session, s)).1 = .ok plan ∧
        Plan.Accounts requested? found suggested plan) := by
  have planned : (Task.action (Plan.extend engine requested? .empty found)).runOn (session, s) =
      (.ok (Plan.gather .empty ((Plan.candidates requested? found suggested).map Prod.snd)),
        ({ session with seen := seen }, t)) := by
    rw [Task.runOn_action, Plan.runOn_extend, Plan.runOn_picks, suggests]
    rfl
  have accounts := Plan.gather_accounts requested? found suggested
  have none := Plan.gather_steps_eq_nil_iff (Plan.candidates_pairwise requested? found suggested)
  unfold makePlan
  rw [ExceptT.runOn_bind, planned, ExceptT.andThen_ok]
  generalize Plan.gather .empty ((Plan.candidates requested? found suggested).map Prod.snd) = plan at accounts none ⊢
  cases requested? with
  | none =>
      dsimp only
      rw [ExceptT.runOn_pure]
      exact ⟨by simp, .inr ⟨plan, rfl, accounts⟩⟩
  | some id =>
      rw [Plan.candidates_eq_nil_iff (Plan.length_of_suggested suggests)] at none
      dsimp only
      by_cases idle : plan.steps = []
      · have unknown := none.mp idle
        rw [if_pos (List.isEmpty_iff.mpr idle), Task.fail, ExceptT.runOn_throw]
        refine ⟨fun other => ?_, .inl ⟨id, rfl⟩⟩
        constructor
        · rintro ⟨⟩
          exact ⟨rfl, unknown⟩
        · rintro ⟨⟨⟩, -⟩
          rfl
      · rw [if_neg (by simpa using idle), ExceptT.runOn_pure]
        refine ⟨fun other => ?_, .inr ⟨plan, rfl, accounts⟩⟩
        constructor
        · rintro ⟨⟩
        · rintro ⟨⟨⟩, unknown⟩
          exact (idle (none.mpr unknown)).elim

def Spelling.sharing : List Diagnostic := [unused "a.ts" 1, unused "b.ts" 1, unused "a.ts" 2]

open Spelling in
/-- The second finding in a file waits. -/
theorem makePlan_accounts_sharing :
    ∃ suggested later plan,
      (sharing.mapM' Spelling.engine.suggest).runOn (.empty, tree) = (.ok suggested, later) ∧
      ((makePlan Spelling.engine none sharing).runOn (⟨.empty, []⟩, tree)).1 = .ok plan ∧
      plan.steps.map PlannedFix.file = [⟨"a.ts"⟩, ⟨"b.ts"⟩] ∧ plan.deferred = 1 ∧
      Plan.Accounts none sharing suggested plan := by
  have planned : (((makePlan Spelling.engine none sharing).runOn (⟨.empty, []⟩, tree)).1.toOption.map fun plan =>
      (plan.steps.map PlannedFix.file, plan.deferred)) = some ([⟨"a.ts"⟩, ⟨"b.ts"⟩], 1) := by
    decide +kernel
  have suggesting : ((sharing.mapM' Spelling.engine.suggest).runOn (.empty, tree)).1.isOk = true := by
    decide +kernel
  rcases suggests : (sharing.mapM' Spelling.engine.suggest).runOn (.empty, tree) with ⟨result, seen, t⟩
  rw [suggests] at suggesting
  cases result with
  | error e => cases suggesting
  | ok suggested =>
      have outcome : (∃ id, ((makePlan Spelling.engine none sharing).runOn (⟨.empty, []⟩, tree)).1 =
          .error (.fixNotFound id)) ∨
          ∃ plan, ((makePlan Spelling.engine none sharing).runOn (⟨.empty, []⟩, tree)).1 = .ok plan ∧
            Plan.Accounts none sharing suggested plan :=
        (makePlan_accounts suggests).2
      obtain ⟨id, missing⟩ | ⟨plan, made, accounts⟩ := outcome
      · rw [missing] at planned
        cases planned
      · rw [made] at planned
        simp only [Except.toOption, Option.map_some, Option.some.injEq, Prod.mk.injEq] at planned
        exact ⟨suggested, (seen, t), plan, suggests, made, planned.1, planned.2, accounts⟩

end Command

end Remedy
