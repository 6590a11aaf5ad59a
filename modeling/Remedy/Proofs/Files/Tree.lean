import Mathlib.Data.List.Basic
import Remedy.Files.Tree
import Remedy.Proofs.Files.Disk
import Remedy.Proofs.Path

/-! Where paths lead in a tree. Main statement: a path that leads somewhere leads to the place that its
components name once up-steps are dropped; so a tree is a disk whose files can be looked at by these names. -/

namespace Remedy.Tree

def spot (place : Place) : List Path.Component := .root :: place.map .name

theorem spot_append (place : Place) (name : String) : spot (place ++ [name]) = spot place ++ [.name name] := by
  simp [spot]

theorem fold_spot_up (place : Place) (rest : List Path.Component) :
    Path.fold (spot place).reverse (.up :: rest) = Path.fold (spot place.dropLast).reverse rest := by
  rcases List.eq_nil_or_concat place with rfl | ⟨before, last, rfl⟩
  · simp [spot, Path.fold]
  · rw [List.concat_eq_append, spot_append, List.reverse_append, List.dropLast_concat]
    rfl

theorem canonical_eq {t : Tree} {p : Path} (named : p.isEmpty = false) :
    p.canonical (spot t.home) =
      Path.fold (spot (t.start p).1).reverse ((t.start p).2.filterMap Path.componentOf?) := by
  unfold Path.canonical start
  simp only [named, Bool.false_eq_true, ↓reduceIte]
  cases absolute : p.isAbsolute with
  | true =>
      simp only [Path.components, absolute, ↓reduceIte, spot]
      rw [Path.fold] <;> simp
  | false =>
      have home : Path.fold [] (spot t.home) = spot t.home := by
        rw [spot, Path.fold]
        · rw [Path.fold_names]
          rfl
        · simp
        · simp
        · simp
      simp only [Bool.false_eq_true, ↓reduceIte]
      rw [Path.fold_append, home]
      simp only [Path.components, absolute, Bool.false_eq_true, ↓reduceIte]
      split
      · rw [Path.fold]
      · rfl

theorem spot_of_follow {t : Tree} {place q : Place} {pieces : List (List Char)}
    (found : t.follow place pieces = .ok q) :
    Path.fold (spot place).reverse (pieces.filterMap Path.componentOf?) = spot q := by
  induction pieces generalizing place with
  | nil =>
      cases found
      simp [Path.fold]
  | cons piece rest ih =>
      unfold follow at found
      cases entered : t.enter place with
      | error e =>
          rw [entered] at found
          cases found
      | ok done =>
          rw [entered] at found
          simp only [bind, Except.bind] at found
          rw [List.filterMap_cons]
          split at found
          · exact ih found
          · exact ih found
          · exact (fold_spot_up place _).trans (ih found)
          · rename_i blank dot dots
            have named := Path.componentOf?_eq_name blank dot dots
            have deeper := ih found
            rw [spot_append, List.reverse_append] at deeper
            rw [named]
            simp only
            rw [Path.fold_name]
            exact deeper

theorem follow_name {t : Tree} {place : Place} {done : Unit} (entered : t.enter place = .ok done)
    {piece : List Char} (present : piece ≠ []) (dot : piece ≠ ['.']) (dots : piece ≠ ['.', '.'])
    (rest : List (List Char)) :
    t.follow place (piece :: rest) = t.follow (place ++ [String.ofList piece]) rest := by
  rw [follow, entered]
  · rfl
  · exact present
  · exact dot
  · exact dots

theorem spot_of_locate {t : Tree} {p : Path} {q : Place} (found : t.locate p = .ok q) :
    p.canonical (spot t.home) = spot q := by
  unfold locate at found
  cases named : p.isEmpty with
  | true => simp [named] at found
  | false =>
      simp only [named, Bool.false_eq_true, ↓reduceIte] at found
      rw [canonical_eq named]
      exact spot_of_follow found

theorem filterMap_dropSlashes (pieces : List (List Char)) :
    (dropSlashes pieces).filterMap Path.componentOf? = pieces.filterMap Path.componentOf? := by
  have whole : pieces = dropSlashes pieces ++ (pieces.reverse.takeWhile (· = [])).reverse := by
    rw [dropSlashes, ← List.reverse_append, List.takeWhile_append_dropWhile, List.reverse_reverse]
  have idle : (pieces.reverse.takeWhile (· = [])).reverse.filterMap Path.componentOf? = [] := by
    apply List.filterMap_eq_nil_iff.mpr
    intro piece member
    have blank := List.all_eq_true.mp List.all_takeWhile piece (List.mem_reverse.mp member)
    rw [Path.componentOf?_eq_none_iff]
    exact .inl (by simpa using blank)
  conv => rhs; rw [whole]
  rw [List.filterMap_append, idle, List.append_nil]

theorem getLast?_dropSlashes {pieces : List (List Char)} {last : List Char}
    (ended : (dropSlashes pieces).getLast? = some last) : last ≠ [] := by
  rw [dropSlashes, List.getLast?_reverse] at ended
  have kept := List.head?_dropWhile_not (fun piece : List Char => decide (piece = [])) pieces.reverse
  rw [ended] at kept
  simpa using kept

theorem spot_of_target {t : Tree} {p : Path} {place : Place} {slash : Bool}
    (found : t.target p = .ok (.name place slash)) : p.canonical (spot t.home) = spot place ∧ place ≠ [] := by
  unfold target at found
  cases named : p.isEmpty with
  | true => simp [named, throw, throwThe, MonadExceptOf.throw, bind, Except.bind] at found
  | false =>
      rw [canonical_eq named]
      simp only [named, Bool.false_eq_true, ↓reduceIte] at found
      cases ended : (dropSlashes (t.start p).2).getLast? with
      | none => simp [ended, pure, Except.pure] at found
      | some last =>
          simp only [ended] at found
          obtain ⟨dir, entered, found⟩ := Except.bind_eq_ok.mp found
          obtain ⟨_, -, found⟩ := Except.bind_eq_ok.mp found
          have parent := spot_of_follow entered
          have split : dropSlashes (t.start p).2 = (dropSlashes (t.start p).2).dropLast ++ [last] :=
            (List.dropLast_append_getLast? last ended).symm
          split at found
          · simp [pure, Except.pure] at found
          · simp [pure, Except.pure] at found
          · rename_i dot dots
            simp only [pure, Except.pure, Except.ok.injEq, Target.name.injEq] at found
            have named := Path.componentOf?_eq_name (getLast?_dropSlashes ended) dot dots
            rw [← filterMap_dropSlashes, split, List.filterMap_append, Path.fold_append, parent, ← found.1,
              spot_append]
            simp [named, Path.fold]

theorem lookup?_put (place q : Place) (n : Node) (nodes : List (Place × Node)) :
    lookup? q (put place n nodes) = if q = place then some n else lookup? q nodes := by
  induction nodes with
  | nil =>
      by_cases here : q = place
      · simp [put, lookup?, here]
      · simp [put, lookup?, here, Ne.symm here]
  | cons first rest ih =>
      obtain ⟨p, old⟩ := first
      by_cases found : p = place
      · by_cases here : q = place
        · simp [put, lookup?, found, here]
        · simp [put, lookup?, found, here, Ne.symm here]
      · by_cases here : p = q
        · have elsewhere : q ≠ place := fun same => found (here.trans same)
          simp [put, lookup?, here, elsewhere]
        · simpa [put, lookup?, found, here] using ih

theorem node?_insert {t : Tree} {place : Place} (inner : place ≠ []) (n : Node) (q : Place) :
    (t.insert place n).node? q = if q = place then some n else t.node? q := by
  unfold node? insert
  rw [lookup?_put]
  by_cases here : q = place
  · simp [here, inner]
  · simp [here]

def names? : List Path.Component → Option Place
  | [] => some []
  | .name s :: rest => (names? rest).map (s :: ·)
  | _ => none

def unspot? : List Path.Component → Option Place
  | .root :: rest => names? rest
  | _ => none

theorem unspot?_spot (place : Place) : unspot? (spot place) = some place := by
  change names? (place.map .name) = some place
  induction place with
  | nil => rfl
  | cons s rest ih => simp [names?, ih]

theorem spot_of_unspot? {k : List Path.Component} {place : Place} (named : unspot? k = some place) :
    k = spot place := by
  unfold unspot? at named
  split at named
  · rename_i rest
    congr 1
    induction rest generalizing place with
    | nil =>
        cases named
        rfl
    | cons c rest ih =>
        cases c with
        | name s =>
            simp only [names?, Option.map_eq_some_iff] at named
            obtain ⟨inner, found, rfl⟩ := named
            rw [ih found]
            rfl
        | root => cases named
        | here => cases named
        | up => cases named
  · cases named

def fileAt (t : Tree) (place : Place) : Option ByteArray :=
  match t.node? place with
  | some (.file bytes) => some bytes
  | _ => none

def bytesAt (t : Tree) (k : List Path.Component) : Option ByteArray := (unspot? k).bind t.fileAt

theorem bytesAt_spot (t : Tree) (place : Place) : t.bytesAt (spot place) = t.fileAt place := by
  simp [bytesAt, unspot?_spot]

theorem bytesAt_insert_elsewhere {t : Tree} {place : Place} (inner : place ≠ []) (n : Node)
    {k : List Path.Component} (other : k ≠ spot place) : (t.insert place n).bytesAt k = t.bytesAt k := by
  unfold bytesAt
  cases named : unspot? k with
  | none => rfl
  | some q =>
      have apart : q ≠ place := by
        rintro rfl
        exact other (spot_of_unspot? named)
      simp [fileAt, node?_insert inner, apart]

theorem bytesAt_insert_file {t : Tree} {place : Place} (inner : place ≠ []) (bytes : ByteArray) :
    (t.insert place (.file bytes)).bytesAt (spot place) = some bytes := by
  simp [bytesAt_spot, fileAt, node?_insert inner]

theorem bytesAt_insert_directory {t : Tree} {place : Place} (inner : place ≠ [])
    (free : t.node? place = none) : (t.insert place .directory).bytesAt = t.bytesAt := by
  funext k
  by_cases here : k = spot place
  · rw [here, bytesAt_spot, bytesAt_spot, fileAt, fileAt, node?_insert inner, free]
    simp
  · exact bytesAt_insert_elsewhere inner .directory here

theorem replace_ok {t t' : Tree} {p : Path} {text : String} (replaced : t.replace p text = .ok t') :
    ∃ place, place ≠ [] ∧ p.canonical (spot t.home) = spot place ∧ t' = t.insert place (.file text.toUTF8) := by
  obtain ⟨target, found, replaced⟩ := Except.bind_eq_ok.mp replaced
  cases target with
  | nameless => cases replaced
  | name place slash =>
      obtain ⟨named, inner⟩ := spot_of_target found
      refine ⟨place, inner, named, ?_⟩
      cases slash with
      | true => cases replaced
      | false =>
          cases occupied : t.hasDirectory place with
          | true =>
              simp only [occupied] at replaced
              cases replaced
          | false =>
              simp only [occupied] at replaced
              cases replaced
              rfl

theorem writable_ok {t : Tree} {p : Path} {place : Place} (found : t.writable p = .ok place) :
    place ≠ [] ∧ p.canonical (spot t.home) = spot place := by
  obtain ⟨target, found, opened⟩ := Except.bind_eq_ok.mp found
  cases target with
  | nameless => cases opened
  | name q slash =>
      obtain ⟨named, inner⟩ := spot_of_target found
      cases barred : slash || t.hasDirectory q with
      | true =>
          simp only [barred] at opened
          cases opened
      | false =>
          simp only [barred] at opened
          cases opened
          exact ⟨inner, named⟩

theorem touch_ok {t t' : Tree} {p : Path} (touched : t.touch p = .ok t') :
    ∃ place, place ≠ [] ∧ p.canonical (spot t.home) = spot place ∧
      (t' = t ∨ t' = t.insert place (.file .empty)) := by
  obtain ⟨place, found, made⟩ := Except.bind_eq_ok.mp touched
  obtain ⟨inner, named⟩ := writable_ok found
  refine ⟨place, inner, named, ?_⟩
  cases made
  split
  · exact .inl rfl
  · exact .inr rfl

theorem makeDirectory_ok {t t' : Tree} {p : Path} (made : t.makeDirectory p = .ok t') :
    ∃ place, place ≠ [] ∧ t.node? place = none ∧ t' = t.insert place .directory := by
  obtain ⟨target, found, made⟩ := Except.bind_eq_ok.mp made
  cases target with
  | nameless => cases made
  | name place slash =>
      cases free : t.node? place with
      | some n =>
          simp only [free] at made
          cases made
      | none =>
          simp only [free] at made
          cases made
          exact ⟨place, (spot_of_target found).2, free, rfl⟩

theorem step_change (alter : Tree → Except DiskError Tree) (t : Tree) :
    World.step (change alter) t =
      match alter t with
      | .ok t' => (.ok (), t')
      | .error e => (.error e, t) := by
  change change alter t = _
  unfold change
  cases alter t <;> rfl

theorem fromUTF8?_toUTF8 (s : String) : String.fromUTF8? s.toUTF8 = some s := by
  unfold String.fromUTF8?
  exact dif_pos s.isValidUTF8

theorem step_readText (p : Path) (t : Tree) :
    World.step (disk.readText p) t =
      ((t.read p).bind fun bytes =>
        match String.fromUTF8? bytes with
        | some s => .ok s
        | none => .error .undecodable, t) := by
  unfold Disk.readText
  rw [World.step_bind]
  have shown : World.step (disk.read p) t = (t.read p, t) := rfl
  rw [shown]
  cases t.read p with
  | error e => rfl
  | ok bytes =>
      simp only [Except.bind]
      cases String.fromUTF8? bytes <;> rfl

theorem read_ok {t : Tree} {p : Path} {bytes : ByteArray} (read : t.read p = .ok bytes) :
    t.bytesAt (p.canonical (spot t.home)) = some bytes := by
  obtain ⟨place, found, read⟩ := Except.bind_eq_ok.mp read
  rw [spot_of_locate found, bytesAt_spot, fileAt]
  cases node : t.node? place with
  | none =>
      rw [node] at read
      cases read
  | some n =>
      cases n with
      | directory =>
          rw [node] at read
          cases read
      | file found =>
          rw [node] at read
          cases read
          rfl

def view : DiskView (StateM Tree) where
  disk := disk
  Place := List Path.Component
  place t p := p.canonical (spot t.home)
  bytes := bytesAt
  kind_stays _ _ := ⟨rfl, rfl⟩
  read_stays _ _ := ⟨rfl, rfl⟩
  read_shows _ _ _ read := read_ok read
  makeDirectory_stays path t := by
    change SameView _ _ t (World.step (change (·.makeDirectory path)) t).2
    rw [step_change]
    cases made : t.makeDirectory path with
    | error e => exact ⟨rfl, rfl⟩
    | ok t' =>
        obtain ⟨place, inner, free, rfl⟩ := makeDirectory_ok made
        exact ⟨rfl, bytesAt_insert_directory inner free⟩
  touch_stays_named path t := by
    change (fun p => Path.canonical (spot (World.step (change _) t).2.home) p) = _
    rw [step_change]
    cases touched : t.touch path with
    | error e => rfl
    | ok t' =>
        obtain ⟨place, -, -, rfl | rfl⟩ := touch_ok touched
        · rfl
        · rfl
  touch_elsewhere path t k other := by
    change bytesAt (World.step (change _) t).2 k = _
    rw [step_change]
    cases touched : t.touch path with
    | error e => rfl
    | ok t' =>
        obtain ⟨place, inner, named, rfl | rfl⟩ := touch_ok touched
        · rfl
        · exact bytesAt_insert_elsewhere inner _ (named ▸ other)
  replace_isPut := by
    constructor
    case stays_named =>
      intro path text t
      change (fun p => Path.canonical (spot (World.step (change _) t).2.home) p) = _
      rw [step_change]
      cases replaced : t.replace path text with
      | error e => rfl
      | ok t' =>
          obtain ⟨place, -, -, rfl⟩ := replace_ok replaced
          rfl
    case puts =>
      intro path text t put
      change (World.step (change _) t).1 = _ at put
      change bytesAt (World.step (change _) t).2 _ = _
      rw [step_change] at put ⊢
      cases replaced : t.replace path text with
      | error e => simp [replaced] at put
      | ok t' =>
          obtain ⟨place, inner, named, rfl⟩ := replace_ok replaced
          rw [named]
          exact bytesAt_insert_file inner text.toUTF8
    case elsewhere =>
      intro path text t k other
      change bytesAt (World.step (change _) t).2 k = _
      rw [step_change]
      cases replaced : t.replace path text with
      | error e => rfl
      | ok t' =>
          obtain ⟨place, inner, named, rfl⟩ := replace_ok replaced
          exact bytesAt_insert_elsewhere inner _ (named ▸ other)
    case fails =>
      intro path text t e failed
      change (World.step (change _) t).1 = _ at failed
      change bytesAt (World.step (change _) t).2 = _
      rw [step_change] at failed ⊢
      cases replaced : t.replace path text with
      | error e => rfl
      | ok t' => simp [replaced] at failed

end Remedy.Tree
