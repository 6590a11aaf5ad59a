import Mathlib.Data.List.Infix
import Remedy.Edit.Difference

/-! The lines in which two texts differ. Main statement: they are a patch that makes the one text of the other, no patch
takes away fewer lines or puts in fewer, and the ranges of lines that it is cut out by are ranges of the texts. -/

namespace Remedy

/-- What to put in place of a range of items to make one list of another. -/
structure Patch (old new : List String) where
  front : List String
  removed : List String
  added : List String
  back : List String
  old_eq : old = front ++ removed ++ back
  new_eq : new = front ++ added ++ back

namespace Patch

variable {old new : List String}

/-- What is taken away and what is put in neither begin nor end with the same item. -/
def Tight (p : Patch old new) : Prop :=
  p.removed ≠ [] → p.added ≠ [] → p.removed.head? ≠ p.added.head? ∧ p.removed.getLast? ≠ p.added.getLast?

/-- Every patch takes away and puts in at least as much. -/
def Least (p : Patch old new) : Prop :=
  ∀ q : Patch old new, p.removed.length ≤ q.removed.length ∧ p.added.length ≤ q.added.length

theorem Least.idle_iff {p : Patch old new} (least : p.Least) : (p.removed = [] ∧ p.added = []) ↔ old = new := by
  constructor
  · rintro ⟨nothing, nothing'⟩
    calc
      old = p.front ++ p.removed ++ p.back := p.old_eq
      _ = p.front ++ p.added ++ p.back := by rw [nothing, nothing']
      _ = new := p.new_eq.symm
  · intro same
    have idle := least ⟨old, [], [], [], by simp, by simp [same]⟩
    simpa using idle

end Patch

namespace Difference

variable {old new front x y removed added back : List String}

structure Rests (old new x y : List String) : Prop where
  front : ∃ front, old = front ++ x ∧ new = front ++ y
  apart : x ≠ [] → y ≠ [] → x.head? ≠ y.head?
  longest : ∀ front a b, old = front ++ a → new = front ++ b → x.length ≤ a.length ∧ y.length ≤ b.length

theorem Rests.cons (rests : Rests old new x y) (a : String) : Rests (a :: old) (a :: new) x y where
  front := by
    obtain ⟨front, here, there⟩ := rests.front
    exact ⟨a :: front, congrArg (a :: ·) here, congrArg (a :: ·) there⟩
  apart := rests.apart
  longest := by
    intro front b c here there
    cases front with
    | nil =>
        have within := rests.longest [] old new rfl rfl
        rw [List.nil_append] at here there
        rw [← here, ← there, List.length_cons, List.length_cons]
        omega
    | cons first front =>
        rw [List.cons_append, List.cons.injEq] at here there
        exact rests.longest front b c here.2 there.2

theorem Rests.whole (apart : old ≠ [] → new ≠ [] → old.head? ≠ new.head?) : Rests old new old new where
  front := ⟨[], rfl, rfl⟩
  apart := apart
  longest := by
    intro front a b here there
    cases front with
    | nil => exact ⟨(congrArg List.length here).le, (congrArg List.length there).le⟩
    | cons first front => exact (apart (by simp [here]) (by simp [there]) (by simp [here, there])).elim

theorem dropCommon_rests (old new : List String) : Rests old new (dropCommon old new).1 (dropCommon old new).2 := by
  fun_induction dropCommon old new with
  | case1 as b bs ih => exact ih.cons b
  | case2 a as b bs differ => exact .whole (by simpa using differ)
  | case3 as bs short =>
      refine .whole ?_
      intro some some'
      obtain ⟨a, as, rfl⟩ := List.exists_cons_of_ne_nil some
      obtain ⟨b, bs, rfl⟩ := List.exists_cons_of_ne_nil some'
      exact (short a as b bs rfl rfl).elim

theorem exists_back (ends : x <:+ old) (ends' : y <:+ new) (here : back <:+ old) (there : back <:+ new) :
    ∃ shared, shared <:+ x ∧ shared <:+ y ∧ shared.length = min back.length (min x.length y.length) := by
  have size : (back.drop (back.length - min x.length y.length)).length = min back.length (min x.length y.length) := by
    rw [List.length_drop]
    omega
  have inside : back.drop (back.length - min x.length y.length) <:+ back := List.drop_suffix _ _
  refine ⟨_, ?_, ?_, size⟩
  · exact List.suffix_of_suffix_length_le (inside.trans here) ends (by omega)
  · exact List.suffix_of_suffix_length_le (inside.trans there) ends' (by omega)

/-- What is left of both lists without their longest start and then their longest end in common is no longer than
what any other patch changes. -/
theorem Rests.least (rests : Rests old new x y) (rests' : Rests x.reverse y.reverse removed added)
    (q : Patch old new) : removed.length ≤ q.removed.length ∧ added.length ≤ q.added.length := by
  obtain ⟨front, here, there⟩ := rests.front
  have longest := rests.longest q.front (q.removed ++ q.back) (q.added ++ q.back)
    (by rw [← List.append_assoc, ← q.old_eq]) (by rw [← List.append_assoc, ← q.new_eq])
  have back : q.back <:+ old := ⟨q.front ++ q.removed, q.old_eq.symm⟩
  have back' : q.back <:+ new := ⟨q.front ++ q.added, q.new_eq.symm⟩
  obtain ⟨shared, ends, ends', size⟩ := exists_back ⟨front, here.symm⟩ ⟨front, there.symm⟩ back back'
  obtain ⟨a, rfl⟩ := ends
  obtain ⟨b, rfl⟩ := ends'
  have longest' := rests'.longest shared.reverse a.reverse b.reverse List.reverse_append List.reverse_append
  have lengths := congrArg List.length (here.symm.trans q.old_eq)
  have lengths' := congrArg List.length (there.symm.trans q.new_eq)
  simp only [List.length_append, List.length_reverse] at longest longest' size lengths lengths'
  omega

/-- The lines of a difference are a patch. It is tight, and there is none that changes less. -/
theorem exists_patch (old new : List String) :
    ∃ p : Patch old new, ofLines old new = ⟨p.removed, p.added⟩ ∧ p.Tight ∧ p.Least := by
  have rests := dropCommon_rests old new
  unfold ofLines
  generalize dropCommon old new = left at rests ⊢
  obtain ⟨x, y⟩ := left
  have rests' := dropCommon_rests x.reverse y.reverse
  dsimp only
  generalize dropCommon x.reverse y.reverse = left at rests' ⊢
  obtain ⟨removed, added⟩ := left
  obtain ⟨front, here, there⟩ := rests.front
  obtain ⟨back, ends, ends'⟩ := rests'.front
  have cut : x = removed.reverse ++ back.reverse := by rw [← List.reverse_append, ← ends, List.reverse_reverse]
  have cut' : y = added.reverse ++ back.reverse := by rw [← List.reverse_append, ← ends', List.reverse_reverse]
  refine ⟨⟨front, removed.reverse, added.reverse, back.reverse, ?_, ?_⟩, rfl, ?_, ?_⟩
  · rw [here, cut, List.append_assoc]
  · rw [there, cut', List.append_assoc]
  · intro some some'
    have first := rests.apart (by simp [cut, some]) (by simp [cut', some'])
    rw [cut, cut', List.head?_append_of_ne_nil _ some, List.head?_append_of_ne_nil _ some'] at first
    rw [List.getLast?_reverse, List.getLast?_reverse]
    exact ⟨first, rests'.apart (by simpa using some) (by simpa using some')⟩
  · intro q
    rw [List.length_reverse, List.length_reverse]
    exact rests.least rests' q

section Ranges

def shared (old new : List String) : Nat := ((old.zip new).takeWhile fun p => p.1 == p.2).length

def slice? (items : List String) (start stop : Nat) : Option (List String) :=
  if start ≤ stop ∧ stop ≤ items.length then some ((items.take stop).drop start) else none

def fromEnd? (items : List String) (n : Nat) : Option Nat := if n ≤ items.length then some (items.length - n) else none

/-- The difference as it is cut out of the lists by ranges; nothing if one of the ranges is not in its list. -/
def cut? (old new : List String) : Option Difference := do
  let start := shared old new
  let x ← slice? old start old.length
  let y ← slice? new start new.length
  let ending := shared x.reverse y.reverse
  let stop ← fromEnd? old ending
  let stop' ← fromEnd? new ending
  return ⟨← slice? old start stop, ← slice? new start stop'⟩

theorem shared_le (old new : List String) : shared old new ≤ old.length ∧ shared old new ≤ new.length := by
  have within : shared old new ≤ (old.zip new).length := (List.takeWhile_sublist _).length_le
  rw [List.length_zip] at within
  omega

theorem dropCommon_eq (old new : List String) :
    dropCommon old new = (old.drop (shared old new), new.drop (shared old new)) := by
  fun_induction dropCommon old new with
  | case1 as b bs ih => simpa [shared] using ih
  | case2 a as b bs differ => simp [shared, differ]
  | case3 as bs short =>
      cases as with
      | nil => simp [shared]
      | cons a as =>
          cases bs with
          | nil => simp [shared]
          | cons b bs => exact (short a as b bs rfl rfl).elim

theorem slice?_eq {items : List String} {start stop : Nat} (ordered : start ≤ stop) (within : stop ≤ items.length) :
    slice? items start stop = some ((items.take stop).drop start) := if_pos ⟨ordered, within⟩

theorem fromEnd?_eq {items : List String} {n : Nat} (within : n ≤ items.length) :
    fromEnd? items n = some (items.length - n) := if_pos within

theorem reverse_drop_reverse (items : List String) (start ending : Nat) :
    ((items.drop start).reverse.drop ending).reverse = (items.take (items.length - ending)).drop start := by
  rw [List.drop_reverse, List.reverse_reverse, List.drop_take, List.length_drop, Nat.sub_right_comm]

/-- All ranges are in their lists. -/
theorem cut?_eq (old new : List String) : cut? old new = some (ofLines old new) := by
  have front := shared_le old new
  have whole : slice? old (shared old new) old.length = some (old.drop (shared old new)) := by
    rw [slice?_eq front.1 le_rfl, List.take_length]
  have whole' : slice? new (shared old new) new.length = some (new.drop (shared old new)) := by
    rw [slice?_eq front.2 le_rfl, List.take_length]
  have back := shared_le (old.drop (shared old new)).reverse (new.drop (shared old new)).reverse
  unfold cut? ofLines
  simp only [dropCommon_eq, reverse_drop_reverse, whole, whole', Option.bind_eq_bind, Option.bind_some]
  generalize shared (old.drop (shared old new)).reverse (new.drop (shared old new)).reverse = ending at back ⊢
  rw [List.length_reverse, List.length_reverse, List.length_drop, List.length_drop] at back
  rw [fromEnd?_eq (by omega), fromEnd?_eq (by omega), Option.bind_some, Option.bind_some,
    slice?_eq (by omega) (Nat.sub_le _ _), slice?_eq (by omega) (Nat.sub_le _ _)]
  rfl

end Ranges

/-- The lines in which two texts differ are a patch of the one to the other: those that are taken away come first, those
that are put in follow, neither begin or end alike, and no other patch changes fewer lines. There are none exactly if
the texts have the same lines; and no range of lines that is looked at lies outside of its text. -/
theorem lines_patch (before after : String) :
    (∃ p : Patch (Text.linesOfString before) (Text.linesOfString after),
      (of before after).lines = p.removed.map ("- " ++ ·) ++ p.added.map ("+ " ++ ·) ∧ p.Tight ∧ p.Least) ∧
    ((of before after).lines = [] ↔ Text.linesOfString before = Text.linesOfString after) ∧
    cut? (Text.linesOfString before) (Text.linesOfString after) = some (of before after) := by
  obtain ⟨p, same, tight, least⟩ := exists_patch (Text.linesOfString before) (Text.linesOfString after)
  have made : of before after = ⟨p.removed, p.added⟩ := same
  refine ⟨⟨p, by rw [made, lines], tight, least⟩, ?_, cut?_eq _ _⟩
  rw [made, ← least.idle_iff]
  simp [lines]

/-- One of three equal lines is taken away. -/
example : (of "a\na\na\n" "a\na\n").lines = ["- a"] := by decide +kernel

end Difference

end Remedy
