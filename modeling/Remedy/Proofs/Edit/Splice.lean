import Mathlib.Algebra.BigOperators.Group.List.Basic
import Mathlib.Algebra.Order.Ring.Int
import Remedy.Proofs.Edit.Batch
import Remedy.Proofs.Sorting

/-! What a batch leaves of a text. Main statement: a batch that fits is made as if its changes were made one at a time,
from the last to the first, and in which order it lists them matters only for insertions at one offset. -/

namespace Remedy

namespace Span

theorem le_refl (a : Span) : a.le a = true := by
  rw [le_iff]
  omega

theorem eq_of_le_of_le {a b : Span} (first : a.le b = true) (second : b.le a = true) : a = b := by
  rw [le_iff] at first second
  have start : a.start = b.start := UInt64.toNat_inj.mp (by omega)
  have length : a.length = b.length := UInt64.toNat_inj.mp (by omega)
  cases a
  cases b
  simp_all

end Span

namespace Change

variable {changes others : List Change}

/-- By how many bytes changes make a text longer. -/
def growth (changes : List Change) : ℤ :=
  (changes.map fun c => (Text.byteLength c.newText.toList : ℤ) - c.span.length.toNat).sum

theorem growth_cons (c : Change) (rest : List Change) :
    growth (c :: rest) = Text.byteLength c.newText.toList - c.span.length.toNat + growth rest := by
  simp [growth]

theorem growth_sorted (changes : List Change) : growth (sorted changes) = growth changes :=
  ((List.mergeSort_perm _ _).map _).sum_eq

theorem filter_sorted (changes : List Change) (s : Span) :
    (sorted changes).filter (·.span = s) = changes.filter (·.span = s) := by
  refine @filter_mergeSort Change (fun a c => a.span.le c.span) (fun _ _ _ => Span.le_trans)
    (fun _ _ => Span.le_total _ _) _ ?_ changes
  intro a c first second
  rw [of_decide_eq_true first, of_decide_eq_true second]
  exact s.le_refl

theorem eq_of_filter (ordered : changes.Pairwise fun a c => a.span.le c.span = true)
    (ordered' : others.Pairwise fun a c => a.span.le c.span = true)
    (same : ∀ s : Span, changes.filter (·.span = s) = others.filter (·.span = s)) : changes = others := by
  -- Each list has the head of the other, so both heads have the least span, and are the first change of it.
  induction changes generalizing others with
  | nil =>
      cases others with
      | nil => rfl
      | cons d later => simpa using same d.span
  | cons c rest ih =>
      cases others with
      | nil => simpa using same c.span
      | cons d later =>
          rw [List.pairwise_cons] at ordered ordered'
          have mem_later : c ∈ d :: later := by
            have kept : c ∈ (c :: rest).filter (·.span = c.span) := by simp
            rw [same] at kept
            exact List.mem_of_mem_filter kept
          have mem_rest : d ∈ c :: rest := by
            have kept : d ∈ (d :: later).filter (·.span = d.span) := by simp
            rw [← same] at kept
            exact List.mem_of_mem_filter kept
          have below : c.span.le d.span = true := by
            rcases List.mem_cons.mp mem_rest with rfl | behind
            · exact Span.le_refl _
            · exact ordered.1 d behind
          have above : d.span.le c.span = true := by
            rcases List.mem_cons.mp mem_later with rfl | behind
            · exact Span.le_refl _
            · exact ordered'.1 c behind
          have spans : c.span = d.span := Span.eq_of_le_of_le below above
          have first : c = d := by
            have heads := same d.span
            simp only [List.filter_cons, spans, decide_true, if_true, List.cons.injEq] at heads
            exact heads.1
          subst first
          congr 1
          apply ih ordered.2 ordered'.2
          intro s
          have tails := same s
          by_cases own : c.span = s
          · simpa [List.filter_cons, own] using tails
          · simpa [List.filter_cons, own] using tails

theorem sorted_congr (same : ∀ s : Span, others.filter (·.span = s) = changes.filter (·.span = s)) :
    sorted others = sorted changes := by
  apply eq_of_filter (sorted_ordered others) (sorted_ordered changes)
  intro s
  rw [filter_sorted, filter_sorted, same]

end Change

namespace Buffer

open Text

variable {b after : Buffer} {changes others : List Change} {cursor : ℕ} {old new : List Char}

theorem newText_part_splice {c : Change} (listed : c ∈ changes) (cs : List Char) (cursor : ℕ) :
    c.newText.toList <:+: splice cs cursor changes := by
  induction changes generalizing cursor with
  | nil => cases listed
  | cons first rest ih =>
      rw [splice]
      cases List.mem_cons.mp listed with
      | inl own =>
          rw [own]
          exact List.infix_append _ _ _
      | inr later =>
          have behind := ih later first.span.limit
          exact behind.trans (List.suffix_append _ _).isInfix

theorem newText_part_of_apply {c : Change} (made : b.apply changes = .ok after) (listed : c ∈ changes) :
    c.newText.toList <:+: after.chars := by
  unfold apply at made
  split at made
  · cases made
  · cases made
    exact newText_part_splice (Change.mem_sorted.mpr listed) b.chars 0

/-- Sorted changes make one text of another, both from the offset on that the changes before them have come to: what
stands between the spans stays, and what stands in a span gives way to the new text. -/
inductive Spliced : ℕ → List Change → List Char → List Char → Prop where
  | done {cursor : ℕ} (text : List Char) : Spliced cursor [] text text
  | change {cursor : ℕ} {c : Change} {rest : List Change} {kept removed old new : List Char}
      (starts : cursor + byteLength kept = c.span.start.toNat) (covers : byteLength removed = c.span.length.toNat)
      (later : Spliced c.span.limit rest old new) :
      Spliced cursor (c :: rest) (kept ++ removed ++ old) (kept ++ c.newText.toList ++ new)

theorem offsets_of_parts {front kept removed : List Char} {c : Change}
    (starts : byteLength front + byteLength kept = c.span.start.toNat)
    (covers : byteLength removed = c.span.length.toNat) :
    byteLength (front ++ kept) = c.span.start.toNat ∧ byteLength (front ++ kept ++ removed) = c.span.limit := by
  constructor
  · rw [byteLength_append, starts]
  · rw [byteLength_append, byteLength_append, starts, covers]
    rfl

theorem exists_spliced {front : List Char} (chars : b.chars = front ++ old)
    (inside : ∀ c ∈ changes, b.Holds c.span.start.toNat c.span.limit)
    (apart : changes.Pairwise fun a c => a.span.limit ≤ c.span.start.toNat)
    (ahead : ∀ c ∈ changes, byteLength front ≤ c.span.start.toNat) :
    ∃ new, Spliced (byteLength front) changes old new := by
  induction changes generalizing front old with
  | nil => exact ⟨old, .done old⟩
  | cons c rest ih =>
      rw [List.forall_mem_cons] at inside ahead
      rw [List.pairwise_cons] at apart
      obtain ⟨⟨-, ⟨opened, behind, opens, start⟩, ⟨closed, back, closes, stop⟩⟩, inside⟩ := inside
      have begins : front <+: opened := by
        apply prefix_of_byteLength_le ⟨old, chars.symm⟩ ⟨behind, opens.symm⟩
        omega
      have continues : opened <+: closed := by
        apply prefix_of_byteLength_le ⟨behind, opens.symm⟩ ⟨back, closes.symm⟩
        rw [start, stop]
        exact Nat.le_add_right _ _
      obtain ⟨kept, rfl⟩ := begins
      obtain ⟨removed, rfl⟩ := continues
      obtain ⟨new, later⟩ := ih closes inside apart.2 fun d listed => stop.trans_le (apart.1 d listed)
      have parts : old = kept ++ removed ++ back := by
        apply List.append_cancel_left
        rw [← chars, closes, List.append_assoc, List.append_assoc, List.append_assoc]
      rw [stop] at later
      rw [byteLength_append] at start stop
      rw [parts]
      refine ⟨kept ++ c.newText.toList ++ new, .change start ?_ later⟩
      rw [byteLength_append, start] at stop
      exact Nat.add_left_cancel stop

namespace Spliced

theorem fits {front : List Char} (spliced : Spliced cursor changes old new) (size : byteLength front = cursor)
    (chars : b.chars = front ++ old) :
    (∀ c ∈ changes, cursor ≤ c.span.start.toNat ∧ b.Holds c.span.start.toNat c.span.limit) ∧
      changes.Pairwise fun a c => a.span.limit ≤ c.span.start.toNat := by
  induction spliced generalizing front with
  | done text => simp
  | @change cursor c rest kept removed old new starts covers later ih =>
      subst size
      obtain ⟨opens, closes⟩ := offsets_of_parts starts covers
      have parts : b.chars = front ++ kept ++ removed ++ old := by
        rw [chars, List.append_assoc, List.append_assoc, List.append_assoc]
      obtain ⟨inside, apart⟩ := ih closes parts
      have held : b.Holds c.span.start.toNat c.span.limit := by
        constructor
        · rw [length, parts, byteLength_append, closes]
          exact Nat.le_add_right _ _
        · exact ⟨front ++ kept, removed ++ old, by rw [parts, List.append_assoc], opens⟩
        · exact ⟨front ++ kept ++ removed, old, parts, closes⟩
      have reached : byteLength front ≤ c.span.start.toNat := by omega
      have opensFirst : c.span.start.toNat ≤ c.span.limit := Nat.le_add_right _ _
      constructor
      · rw [List.forall_mem_cons]
        refine ⟨⟨reached, held⟩, fun d listed => ?_⟩
        obtain ⟨later, held⟩ := inside d listed
        exact ⟨by omega, held⟩
      · exact List.pairwise_cons.mpr ⟨fun d listed => (inside d listed).1, apart⟩

/-- One pass with a cursor makes what is spliced. -/
theorem splice_eq {front : List Char} (spliced : Spliced cursor changes old new) (size : byteLength front = cursor) :
    splice (front ++ old) cursor changes = new := by
  induction spliced generalizing front with
  | done text => rw [splice, ← size, dropBytes_append]
  | @change cursor c rest kept removed old new starts covers later ih =>
      subst size
      obtain ⟨-, closes⟩ := offsets_of_parts starts covers
      have slice : sliceBytes (byteLength front) c.span.start.toNat (front ++ (kept ++ removed ++ old)) = kept := by
        rw [← starts, List.append_assoc, ← List.append_assoc]
        exact sliceBytes_append front kept (removed ++ old)
      have made := ih closes
      rw [List.append_assoc, List.append_assoc, ← List.append_assoc kept] at made
      rw [splice, slice, made]

theorem grows (spliced : Spliced cursor changes old new) :
    (byteLength new : ℤ) = byteLength old + Change.growth changes := by
  induction spliced with
  | done text => simp [Change.growth]
  | change starts covers later ih =>
      simp only [byteLength_append, Nat.cast_add, Change.growth_cons, ih, ← covers]
      omega

end Spliced

theorem Fit.spliced (fit : b.Fit changes) : ∃ new, Spliced 0 (Change.sorted changes) b.chars new := by
  have whole : b.chars = [] ++ b.chars := rfl
  apply exists_spliced whole _ fit.apart
  · intro c listed
    exact Nat.zero_le _
  · exact Change.forall_mem_sorted.mpr fit.inside

theorem apply_fits (made : b.apply changes = .ok after) : b.Fit changes ∧ ∀ c ∈ changes, c.span.limit < 2 ^ 64 := by
  unfold apply at made
  split at made
  · cases made
  · rename_i accepted
    exact check_eq_ok_iff.mp accepted

theorem Spliced.fit (spliced : Spliced 0 (Change.sorted changes) b.chars new) : b.Fit changes := by
  have whole : b.chars = [] ++ b.chars := rfl
  obtain ⟨inside, apart⟩ := spliced.fits rfl whole
  exact ⟨fun c listed => (inside c (Change.mem_sorted.mpr listed)).2, apart⟩

/-- A batch is accepted and leaves a text exactly if its changes, in order, make that text. -/
theorem apply_eq_ok_iff (near : ∀ c ∈ changes, c.span.limit < 2 ^ 64) :
    b.apply changes = .ok after ↔ Spliced 0 (Change.sorted changes) b.chars after.chars := by
  have made : ∀ {new}, Spliced 0 (Change.sorted changes) b.chars new → b.apply changes = .ok ⟨new⟩ := by
    intro new spliced
    have pass : splice ([] ++ b.chars) 0 (Change.sorted changes) = new := spliced.splice_eq rfl
    have accepted := check_eq_ok_iff.mpr ⟨spliced.fit, near⟩
    rw [List.nil_append] at pass
    simp only [apply, accepted, pass]
  constructor
  · intro taken
    cases checked : b.check changes with
    | error e => simp [apply, checked] at taken
    | ok done =>
        obtain ⟨new, spliced⟩ := (check_eq_ok_iff.mp checked).1.spliced
        rw [made spliced] at taken
        cases taken
        exact spliced
  · intro spliced
    exact made spliced

theorem apply_singleton {kept removed : List Char} {c : Change} (back : List Char)
    (starts : byteLength kept = c.span.start.toNat) (covers : byteLength removed = c.span.length.toNat)
    (near : c.span.limit < 2 ^ 64) :
    (⟨kept ++ removed ++ back⟩ : Buffer).apply [c] = .ok ⟨kept ++ c.newText.toList ++ back⟩ := by
  rw [apply_eq_ok_iff (by simpa using near), Change.sorted, List.mergeSort_singleton]
  exact .change (by rw [Nat.zero_add, starts]) covers (.done back)

/-- Changes can be made one at a time from the last to the first: the text before a change is still as it was when its
turn comes. -/
theorem Spliced.one_at_a_time {front : List Char} (spliced : Spliced cursor changes old new)
    (near : ∀ c ∈ changes, c.span.limit < 2 ^ 64) (size : byteLength front = cursor) :
    changes.foldrM (fun c text => Buffer.apply text [c]) ⟨front ++ old⟩ = .ok ⟨front ++ new⟩ := by
  induction spliced generalizing front with
  | done text => rfl
  | @change cursor c rest kept removed old new starts covers later ih =>
      subst size
      rw [List.forall_mem_cons] at near
      obtain ⟨opens, closes⟩ := offsets_of_parts starts covers
      have others := ih near.2 closes
      have last := apply_singleton new opens covers near.1
      rw [List.foldrM_cons]
      calc
        _ = (rest.foldrM (fun c text => Buffer.apply text [c]) ⟨front ++ kept ++ removed ++ old⟩ >>=
              fun text => text.apply [c]) := by simp only [List.append_assoc]
        _ = (⟨front ++ kept ++ removed ++ new⟩ : Buffer).apply [c] := by
            rw [others]
            rfl
        _ = _ := by
            rw [last]
            simp only [List.append_assoc]

/-- Among changes that fit, only insertions can share a span, so they are all whose order can matter. -/
theorem Fit.sorted_eq (fit : b.Fit changes) (perm : others.Perm changes)
    (insertions : ∀ offset, others.filter (·.span = .at_ offset) = changes.filter (·.span = .at_ offset)) :
    Change.sorted others = Change.sorted changes := by
  apply Change.sorted_congr
  intro s
  by_cases empty : s.length = 0
  · have insertion : s = .at_ s.start := by
      cases s
      simp_all [Span.at_]
    rw [insertion]
    exact insertions s.start
  · have apart : (changes.filter (·.span = s)).Pairwise fun a c => a.span.limit ≤ c.span.start.toNat := by
      rw [← Change.filter_sorted]
      exact fit.apart.sublist List.filter_sublist
    have same := perm.filter (·.span = s)
    cases found : changes.filter (·.span = s) with
    | nil =>
        rw [found] at same
        exact same.eq_nil
    | cons c more =>
        cases more with
        | nil =>
            rw [found] at same
            exact same.eq_singleton
        | cons d more =>
            exfalso
            have spans : ∀ e ∈ changes.filter (·.span = s), e.span = s := by simp
            rw [found] at apart spans
            have first := List.rel_of_pairwise_cons apart List.mem_cons_self
            rw [spans c (by simp), spans d (by simp), Span.limit] at first
            have positive : s.length.toNat ≠ 0 := fun zero => empty (UInt64.toNat_inj.mp zero)
            omega

/-- Changes that fit are made at their places in the text as it was: made one at a time from the last to the first they
come to the same, what is outside their spans stays in order, and the text grows by what they add and take. How they
are listed does not matter but for insertions at one offset. -/
theorem apply_snapshot (fit : b.Fit changes) (near : ∀ c ∈ changes, c.span.limit < 2 ^ 64) :
    ∃ after, b.apply changes = .ok after ∧
      (Change.sorted changes).foldrM (fun c text => Buffer.apply text [c]) b = .ok after ∧
      Spliced 0 (Change.sorted changes) b.chars after.chars ∧
      (after.length : ℤ) = b.length + Change.growth changes ∧
      ∀ others : List Change, others.Perm changes →
        (∀ offset, others.filter (·.span = .at_ offset) = changes.filter (·.span = .at_ offset)) →
        b.apply others = .ok after := by
  obtain ⟨new, spliced⟩ := fit.spliced
  refine ⟨⟨new⟩, (apply_eq_ok_iff near).mpr spliced, ?_, spliced, ?_, ?_⟩
  · have whole : byteLength [] = 0 := rfl
    exact spliced.one_at_a_time (Change.forall_mem_sorted.mpr near) whole
  · have grown := spliced.grows
    rwa [Change.growth_sorted] at grown
  · intro others perm insertions
    rw [apply_eq_ok_iff fun c listed => near c (perm.mem_iff.mp listed), fit.sorted_eq perm insertions]
    exact spliced

def marks : List Change := [.insert 4 "!", .insert 0 ">>", ⟨⟨1, 2⟩, "B"⟩, .insert 4 "?"]

def marksReordered : List Change := [⟨⟨1, 2⟩, "B"⟩, .insert 4 "!", .insert 4 "?", .insert 0 ">>"]

theorem apply_snapshot_marks : (ofString "aéc").Fit marks ∧ (∀ c ∈ marks, c.span.limit < 2 ^ 64) ∧
    marksReordered.Perm marks ∧
    (∀ offset, marksReordered.filter (·.span = .at_ offset) = marks.filter (·.span = .at_ offset)) ∧
    (ofString "aéc").apply marks = .ok (ofString ">>aBc!?") ∧
    (ofString "aéc").apply marksReordered = .ok (ofString ">>aBc!?") := by
  have near : ∀ c ∈ marks, c.span.limit < 2 ^ 64 := by decide
  have order : Change.sorted marks = [.insert 0 ">>", ⟨⟨1, 2⟩, "B"⟩, .insert 4 "!", .insert 4 "?"] := by
    simp [marks, Change.sorted, List.mergeSort, Change.insert, Span.at_, Span.le]
  have accepted : (ofString "aéc").check marks = .ok () := by
    rw [check, order]
    decide +kernel
  have fit := (check_eq_ok_iff.mp accepted).1
  have perm : marksReordered.Perm marks := by decide
  have insertions : ∀ offset, marksReordered.filter (·.span = .at_ offset) = marks.filter (·.span = .at_ offset) := by
    intro offset
    simp only [marks, marksReordered, List.filter_cons, Span.at_, Change.insert]
    by_cases start : 0 = offset
    · subst start
      simp
    · simp [start]
  have shown : (ofString "aéc").apply marks = .ok (ofString ">>aBc!?") := by
    rw [apply, accepted, order]
    decide +kernel
  obtain ⟨after, made, -, -, -, reordered⟩ := apply_snapshot fit near
  rw [shown] at made
  cases made
  exact ⟨fit, near, perm, insertions, shown, reordered marksReordered perm insertions⟩

end Buffer

end Remedy
