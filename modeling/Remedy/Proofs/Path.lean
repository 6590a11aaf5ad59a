import Remedy.Path
import Remedy.Proofs.Text.Basic

/-! Spellings of paths. Main statement: what a path comes to from a home is told by its components. -/

namespace Remedy

namespace Path

theorem componentOf?_ne_root (piece : List Char) : componentOf? piece ≠ some .root := by
  unfold componentOf?
  split <;> simp

theorem componentOf?_eq_none_iff (piece : List Char) :
    componentOf? piece = none ↔ piece = [] ∨ piece = ['.'] := by
  unfold componentOf?
  split <;> simp_all

theorem componentOf?_eq_name {piece : List Char} (blank : piece ≠ []) (dot : piece ≠ ['.'])
    (dots : piece ≠ ['.', '.']) : componentOf? piece = some (.name (String.ofList piece)) := by
  unfold componentOf?
  split
  · exact absurd rfl blank
  · exact absurd rfl dot
  · exact absurd rfl dots
  · rfl

theorem body_no_root (pieces : List (List Char)) : .root ∉ pieces.filterMap componentOf? := by
  intro member
  obtain ⟨piece, -, named⟩ := List.mem_filterMap.mp member
  exact componentOf?_ne_root piece named

theorem isAbsolute_iff (p : Path) : p.isAbsolute = true ↔ p.components.head? = some .root := by
  unfold components
  cases absolute : p.isAbsolute with
  | true => simp
  | false =>
      have elsewhere := body_no_root (Text.split '/' p.text.toList)
      simp only [Bool.false_eq_true, ↓reduceIte, false_iff]
      split
      · simp
      · intro first
        exact elsewhere (List.mem_of_head? first)

theorem isEmpty_iff (p : Path) : p.isEmpty = true ↔ p.components = [] := by
  constructor
  · intro blank
    have nothing : p.text = "" := by simpa [isEmpty] using blank
    simp [components, isAbsolute, nothing, Text.split, componentOf?]
  · intro none
    unfold components at none
    cases absolute : p.isAbsolute with
    | true => simp [absolute] at none
    | false =>
        rw [absolute] at none
        simp only [Bool.false_eq_true, ↓reduceIte] at none
        split at none
        · cases none
        case isFalse dotless =>
          have nameless := List.filterMap_eq_nil_iff.mp none
          obtain ⟨first, rest, pieces⟩ := List.exists_cons_of_ne_nil (Text.split_ne_nil '/' p.text.toList)
          have idle := (componentOf?_eq_none_iff first).mp (nameless first (by simp [pieces]))
          rcases idle with idle | idle
          · have started : (Text.split '/' p.text.toList).head? = some [] := by simp [pieces, idle]
            rcases Text.split_head?_eq_nil started with ended | slash
            · simpa [isEmpty] using ended
            · simp [isAbsolute, slash] at absolute
          · simp [pieces, idle] at dotless

theorem fold_append (done cs rest : List Component) :
    fold done (cs ++ rest) = fold (fold done cs).reverse rest := by
  fun_induction fold done cs with
  | case1 done => simp
  | case2 done cs ih => simpa [fold] using ih
  | case3 s done cs ih => simpa [fold] using ih
  | case4 done cs ih => simpa [fold] using ih
  | case5 done c cs plain drops tops ih =>
      rw [List.cons_append, fold]
      · exact ih
      · exact plain
      · exact drops
      · exact tops

theorem fold_name (done : List Component) (s : String) (rest : List Component) :
    fold done (.name s :: rest) = fold (.name s :: done) rest := by
  rw [fold] <;> simp

theorem fold_names (done : List Component) (names : List String) :
    fold done (names.map .name) = done.reverse ++ names.map .name := by
  induction names generalizing done with
  | nil => simp [fold]
  | cons s rest ih =>
      rw [List.map_cons, fold_name, ih]
      simp

theorem canonical_eq_of_same {p q : Path} (home : List Component) (same : p.same q = true) :
    p.canonical home = q.canonical home := by
  have parts : p.components = q.components := by simpa [Path.same] using same
  have blank : p.isEmpty = q.isEmpty := by
    rw [Bool.eq_iff_iff, isEmpty_iff, isEmpty_iff, parts]
  have rooted : p.isAbsolute = q.isAbsolute := by
    rw [Bool.eq_iff_iff, isAbsolute_iff, isAbsolute_iff, parts]
  unfold canonical
  rw [blank, rooted, parts]

end Path

end Remedy
