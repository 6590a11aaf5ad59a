import Remedy.Proofs.Files.Tree
import Remedy.Proofs.Knowledge.Document

/-! Knowledge files in a tree. Main statement: a file that lies where relative paths start can be relied on. -/

namespace Remedy.Tree

/-- The path is a single name. -/
structure IsName (p : Path) : Prop where
  whole : Text.split '/' p.text.toList = [p.text.toList]
  present : p.text.toList ≠ []
  dot : p.text.toList ≠ ['.']
  dots : p.text.toList ≠ ['.', '.']
  relative : p.text.toList.head? ≠ some '/'

instance (p : Path) : Decidable (IsName p) :=
  decidable_of_iff
    (Text.split '/' p.text.toList = [p.text.toList] ∧ p.text.toList ≠ [] ∧ p.text.toList ≠ ['.'] ∧
      p.text.toList ≠ ['.', '.'] ∧ p.text.toList.head? ≠ some '/')
    ⟨fun ⟨whole, present, dot, dots, relative⟩ => ⟨whole, present, dot, dots, relative⟩,
      fun ⟨whole, present, dot, dots, relative⟩ => ⟨whole, present, dot, dots, relative⟩⟩

variable {p : Path} {t t' : Tree}

theorem IsName.isEmpty (named : IsName p) : p.isEmpty = false := by
  rw [Path.isEmpty, beq_eq_false_iff_ne]
  intro blank
  exact named.present (by rw [blank]; rfl)

theorem IsName.start (named : IsName p) (t : Tree) : t.start p = (t.home, [p.text.toList]) := by
  have relative : p.isAbsolute = false := by simpa [Path.isAbsolute] using named.relative
  rw [Tree.start, relative, named.whole]
  rfl

def namedPlace (t : Tree) (p : Path) : Place := t.home ++ [p.text]

theorem IsName.locate (named : IsName p) (t : Tree) :
    t.locate p = (t.enter t.home).map fun _ => t.namedPlace p := by
  rw [Tree.locate, named.isEmpty, named.start]
  simp only [Bool.false_eq_true, ↓reduceIte]
  cases entered : t.enter t.home with
  | error e =>
      unfold follow
      rw [entered]
      rfl
  | ok done =>
      rw [follow_name entered named.present named.dot named.dots, String.ofList_toList]
      rfl

theorem IsName.target (named : IsName p) (t : Tree) :
    t.target p = (t.enter t.home).map fun _ => .name (t.namedPlace p) false := by
  have kept : dropSlashes [p.text.toList] = [p.text.toList] := by
    simp [dropSlashes, named.present]
  unfold Tree.target
  rw [named.isEmpty, named.start]
  simp only [Bool.false_eq_true, ↓reduceIte, kept, List.getLast?_singleton, List.dropLast_singleton]
  cases entered : t.enter t.home with
  | error e => simp [follow, entered, Except.map, bind, Except.bind]
  | ok done =>
      simp only [follow, entered, Except.map, bind, Except.bind, pure, Except.pure]
      split
      · rename_i dot
        exact absurd dot named.dot
      · rename_i dots
        exact absurd dots named.dots
      · rw [String.ofList_toList]
        rfl

theorem namedPlace_ne_root : t.namedPlace p ≠ [] := by simp [namedPlace]

theorem namedPlace_ne_home : t.namedPlace p ≠ t.home := by simp [namedPlace]

theorem namedPlace_ne {q : Path} (other : q.text ≠ p.text) : t.namedPlace q ≠ t.namedPlace p := by
  simpa [namedPlace] using other

theorem IsName.read (named : IsName p) (t : Tree) :
    t.read p = (t.enter t.home).bind fun _ =>
      match t.node? (t.namedPlace p) with
      | some (.file bytes) => .ok bytes
      | some .directory => .error .isDirectory
      | none => .error .missing := by
  unfold Tree.read
  rw [named.locate]
  cases t.enter t.home with
  | error e => rfl
  | ok done =>
      simp only [Except.map, bind, Except.bind]
      cases t.node? (t.namedPlace p) with
      | none => rfl
      | some n => cases n <;> rfl

theorem enter_insert {place : Place} (inner : place ≠ []) (away : place ≠ t.home) (n : Node) :
    (t.insert place n).enter t.home = t.enter t.home := by
  unfold enter
  rw [node?_insert inner, if_neg away.symm]

theorem IsName.read_insert_elsewhere (named : IsName p) {place : Place} (inner : place ≠ [])
    (away : place ≠ t.home) (other : place ≠ t.namedPlace p) (n : Node) :
    (t.insert place n).read p = t.read p := by
  have entered : (t.insert place n).enter (t.insert place n).home = t.enter t.home := enter_insert inner away n
  have node : (t.insert place n).node? ((t.insert place n).namedPlace p) = t.node? (t.namedPlace p) :=
    (node?_insert inner n _).trans (if_neg other.symm)
  rw [named.read, named.read, entered, node]

theorem IsName.read_insert (named : IsName p) (entered : t.enter t.home = .ok ()) (bytes : ByteArray) :
    (t.insert (t.namedPlace p) (.file bytes)).read p = .ok bytes := by
  have still : (t.insert (t.namedPlace p) (.file bytes)).enter (t.insert (t.namedPlace p) (.file bytes)).home =
      .ok () := (enter_insert namedPlace_ne_root namedPlace_ne_home _).trans entered
  have node : (t.insert (t.namedPlace p) (.file bytes)).node?
      ((t.insert (t.namedPlace p) (.file bytes)).namedPlace p) = some (.file bytes) :=
    (node?_insert namedPlace_ne_root _ _).trans (if_pos rfl)
  rw [named.read, still, node]
  rfl

theorem IsName.touch (named : IsName p) (touched : t.touch p = .ok t') :
    t' = t ∨ t' = t.insert (t.namedPlace p) (.file .empty) := by
  unfold Tree.touch writable at touched
  rw [named.target] at touched
  obtain ⟨place, found, made⟩ := Except.bind_eq_ok.mp touched
  obtain ⟨target, aimed, opened⟩ := Except.bind_eq_ok.mp found
  cases entered : t.enter t.home with
  | error e =>
      rw [entered] at aimed
      cases aimed
  | ok done =>
      rw [entered] at aimed
      cases aimed
      have here : place = t.namedPlace p := by
        cases barred : t.hasDirectory (t.namedPlace p) with
        | true =>
            simp only [barred] at opened
            cases opened
        | false =>
            simp only [barred] at opened
            cases opened
            rfl
      rw [here] at made
      cases made
      split
      · exact .inl rfl
      · exact .inr rfl

theorem IsName.replace (named : IsName p) {text : String} (replaced : t.replace p text = .ok t') :
    t.enter t.home = .ok () ∧ t' = t.insert (t.namedPlace p) (.file text.toUTF8) := by
  unfold Tree.replace at replaced
  rw [named.target] at replaced
  obtain ⟨target, aimed, put⟩ := Except.bind_eq_ok.mp replaced
  cases entered : t.enter t.home with
  | error e =>
      rw [entered] at aimed
      cases aimed
  | ok done =>
      rw [entered] at aimed
      cases aimed
      refine ⟨rfl, ?_⟩
      cases occupied : t.hasDirectory (t.namedPlace p) with
      | true =>
          simp only [occupied] at put
          cases put
      | false =>
          simp only [occupied] at put
          cases put
          rfl

theorem text_eq (p : Path) (t : Tree) :
    (⟨disk, p⟩ : KnowledgeFile (StateM Tree)).text t = (t.read p).bind fun bytes =>
      match String.fromUTF8? bytes with
      | some s => .ok s
      | none => .error .undecodable := congrArg Prod.fst (step_readText p t)

theorem text_of_read (same : t'.read p = t.read p) :
    (⟨disk, p⟩ : KnowledgeFile (StateM Tree)).text t' = (⟨disk, p⟩ : KnowledgeFile (StateM Tree)).text t := by
  rw [text_eq, text_eq, same]

theorem IsName.makeParent (named : IsName p) : disk.makeParent p = pure (.ok ()) := by
  have parent : p.parent? = some ⟨""⟩ := by
    unfold Path.parent? Path.piecesBack
    rw [named.whole]
    simp [Path.dropIdle, named.present]
  unfold Disk.makeParent
  rw [parent]
  rfl

/-- A knowledge file in a tree can be relied on, if it lies where relative paths start and its lock does. -/
theorem lawful (named : IsName p) (locked : IsName (KnowledgeFile.lockPath p))
    (apart : (KnowledgeFile.lockPath p).text ≠ p.text) :
    (⟨disk, p⟩ : KnowledgeFile (StateM Tree)).Lawful := by
  constructor
  case read_stays =>
    refine Disk.readText_stays ?_
    intro t
    rfl
  case parent_stays =>
    intro t
    rw [named.makeParent]
    rfl
  case lock_stays =>
    intro t
    change KnowledgeFile.text _ (World.step (change _) t).2 = _
    rw [step_change]
    cases touched : t.touch (KnowledgeFile.lockPath p) with
    | error e => rfl
    | ok t' =>
        rcases locked.touch touched with rfl | rfl
        · rfl
        · exact text_of_read
            (named.read_insert_elsewhere namedPlace_ne_root namedPlace_ne_home (namedPlace_ne apart) _)
  case replace_puts =>
    intro text t put
    change (World.step (change _) t).1 = _ at put
    change KnowledgeFile.text _ (World.step (change _) t).2 = _
    rw [step_change] at put ⊢
    cases replaced : t.replace p text with
    | error e => simp [replaced] at put
    | ok t' =>
        obtain ⟨entered, rfl⟩ := named.replace replaced
        rw [text_eq, named.read_insert entered]
        simp only [Except.bind, fromUTF8?_toUTF8]
  case replace_fails =>
    intro text t e failed
    change (World.step (change _) t).1 = _ at failed
    change KnowledgeFile.text _ (World.step (change _) t).2 = _
    rw [step_change] at failed ⊢
    cases replaced : t.replace p text with
    | error e => rfl
    | ok t' => simp [replaced] at failed

end Remedy.Tree
