import Remedy.Fix.Condition
import Remedy.Proofs.Edit.Splice
import Remedy.Proofs.Text.Basic

/-! Conditions that hold. Main statement: each new text of a batch stands where the changes before it have moved its place
to, so the condition that looks for them holds of the text the batch leaves. -/

namespace Remedy

open Text

namespace Buffer

theorem Spliced.inserted {cursor : ℕ} {before later : List Change} {c : Change} {old new : List Char}
    (spliced : Spliced cursor (before ++ c :: later) old new) :
    ∃ front back, new = front ++ c.newText.toList ++ back ∧
      (cursor + byteLength front : ℤ) = c.span.start.toNat + Change.growth before := by
  induction before generalizing cursor old new with
  | nil =>
      cases spliced with
      | @change _ _ _ kept removed old new starts covers later =>
          refine ⟨kept, new, rfl, ?_⟩
          simp [Change.growth, ← starts]
  | cons a rest ih =>
      cases spliced with
      | @change _ _ _ kept removed old new starts covers later =>
          obtain ⟨front, back, rfl, place⟩ := ih later
          refine ⟨kept ++ a.newText.toList ++ front, back, by simp only [List.append_assoc], ?_⟩
          simp only [Span.limit, Nat.cast_add] at place
          simp only [byteLength_append, Nat.cast_add, Change.growth_cons]
          omega

end Buffer

namespace Condition

/-- A phrase names a condition, and the condition holds. -/
def Holds (ctx : Context) (phrase : String) : Prop :=
  ∃ c, ofPhrase? phrase = some c ∧ c.reason? ctx = .ok none

variable {ctx : Context} {phrase : String} {front phrases : List String} {failed : Failed} {p : Panic}

theorem phraseReason?_eq_none_iff (ctx : Context) (phrase : String) :
    phraseReason? ctx phrase = .ok none ↔ Holds ctx phrase := by
  unfold phraseReason? Holds
  cases ofPhrase? phrase with
  | none => simp
  | some c => simp

theorem firstFailed?_append (held : ∀ phrase ∈ front, Holds ctx phrase) (phrases : List String) :
    firstFailed? ctx (front ++ phrases) = firstFailed? ctx phrases := by
  induction front with
  | nil => rfl
  | cons phrase rest ih =>
      obtain ⟨first, others⟩ := List.forall_mem_cons.mp held
      rw [List.cons_append, firstFailed?, (phraseReason?_eq_none_iff ctx phrase).mpr first]
      exact ih others

/-- How looking for a phrase that does not hold ends: there is none, or one behind phrases that hold fails, or cannot be
checked. -/
inductive Search (ctx : Context) (phrases : List String) : Except Panic (Option Failed) → Prop
  | passed (held : ∀ phrase ∈ phrases, Holds ctx phrase) : Search ctx phrases (.ok none)
  | failed {front back : List String} {phrase : String} {reason : Reason} (parts : phrases = front ++ phrase :: back)
      (held : ∀ other ∈ front, Holds ctx other) (given : phraseReason? ctx phrase = .ok (some reason)) :
      Search ctx phrases (.ok (some ⟨phrase, reason⟩))
  | panicked {phrase : String} {p : Panic} (given : phraseReason? ctx phrase = .error p) : Search ctx phrases (.error p)

theorem firstFailed?_search (ctx : Context) (phrases : List String) :
    Search ctx phrases (firstFailed? ctx phrases) := by
  induction phrases with
  | nil => exact .passed (List.forall_mem_nil _)
  | cons phrase rest ih =>
      unfold firstFailed?
      split
      · rename_i p given
        exact .panicked given
      · rename_i reason given
        have parts : phrase :: rest = [] ++ phrase :: rest := rfl
        exact .failed parts (List.forall_mem_nil _) given
      · rename_i given
        have first := (phraseReason?_eq_none_iff ctx phrase).mp given
        generalize firstFailed? ctx rest = ended at ih ⊢
        cases ih with
        | passed held => exact .passed (List.forall_mem_cons.mpr ⟨first, held⟩)
        | @failed front back other reason parts held given =>
            have longer : phrase :: rest = (phrase :: front) ++ other :: back := by rw [parts, List.cons_append]
            exact .failed longer (List.forall_mem_cons.mpr ⟨first, held⟩) given
        | panicked given => exact .panicked given

theorem firstFailed?_eq_none_iff (ctx : Context) (phrases : List String) :
    firstFailed? ctx phrases = .ok none ↔ ∀ phrase ∈ phrases, Holds ctx phrase := by
  constructor
  · intro nothing
    have search := firstFailed?_search ctx phrases
    rw [nothing] at search
    cases search with
    | passed held => exact held
  · intro held
    have passed := firstFailed?_append held []
    rwa [List.append_nil] at passed

theorem firstFailed?_eq_some_iff :
    firstFailed? ctx phrases = .ok (some failed) ↔
      ∃ front back, phrases = front ++ failed.phrase :: back ∧ (∀ phrase ∈ front, Holds ctx phrase) ∧
        phraseReason? ctx failed.phrase = .ok (some failed.reason) := by
  constructor
  · intro found
    have search := firstFailed?_search ctx phrases
    rw [found] at search
    cases search with
    | failed parts held given => exact ⟨_, _, parts, held, given⟩
  · rintro ⟨front, back, rfl, held, given⟩
    rw [firstFailed?_append held, firstFailed?, given]

theorem exists_panic_of_firstFailed? (stopped : firstFailed? ctx phrases = .error p) :
    ∃ c : Condition, c.reason? ctx = .error p := by
  have search := firstFailed?_search ctx phrases
  rw [stopped] at search
  cases search with
  | panicked given =>
      unfold phraseReason? at given
      split at given
      · exact ⟨_, given⟩
      · cases given

variable {cs front back : List Char} {text : String} {changes : List Change} {b after : Buffer} {d : Diagnostic}

theorem standsAt_inserted (front back : List Char) (text : String) :
    standsAt (front ++ text.toList ++ back) (byteLength front) (byteLength front + byteLength text.toList) text = true := by
  have opens : isBoundary (front ++ text.toList ++ back) (byteLength front) = true := by
    rw [List.append_assoc]
    exact isBoundary_append _ _
  have ends : isBoundary (front ++ text.toList ++ back) (byteLength front + byteLength text.toList) = true := by
    rw [← byteLength_append]
    exact isBoundary_append _ _
  rw [← Nat.cast_add, standsAt, Int.toNat_natCast, Int.toNat_natCast, sliceBytes_append, opens, ends]
  simp

theorem offset_eq_ok {beyond : Panic} {n : ℤ} (low : -2 ^ 63 ≤ n) (high : n < 2 ^ 63) : offset beyond n = .ok n :=
  if_pos ⟨low, Int.le_of_lt_add_one high⟩

theorem toInt_toInt64 {n : UInt64} (near : n.toNat < 2 ^ 63) : n.toInt64.toInt = n.toNat := by
  rw [← UInt64.ofNat_toNat (x := n), UInt64.toInt64_ofNat', Int64.toInt_ofNat_of_lt (by simpa using near), UInt64.ofNat_toNat]

/-- In what follows the offset that is reached, no new text is missed, counted from where that offset has moved to. -/
theorem missingFrom?_of_spliced {cursor : ℕ} {shift : ℤ} {old new : List Char}
    (spliced : Buffer.Spliced cursor changes old new) (near : ∀ c ∈ changes, c.span.limit < 2 ^ 63)
    (reached : cursor + shift = byteLength front) (small : byteLength (front ++ new) < 2 ^ 63) :
    missingFrom? (front ++ new) shift changes = .ok none := by
  induction spliced generalizing front shift with
  | done text => rfl
  | @change cursor c rest kept removed old new starts covers later ih =>
      obtain ⟨own, others⟩ := List.forall_mem_cons.mp near
      have limit : c.span.limit = c.span.start.toNat + c.span.length.toNat := rfl
      have place : (c.span.start.toNat + shift : ℤ) = byteLength (front ++ kept) := by
        rw [byteLength_append]
        omega
      have room : byteLength (front ++ kept) + byteLength c.newText.toList < 2 ^ 63 := by
        simp only [byteLength_append] at small ⊢
        omega
      have moved : (c.span.limit + (shift + (byteLength c.newText.toList - c.span.length.toNat)) : ℤ) =
          byteLength (front ++ kept ++ c.newText.toList) := by
        rw [byteLength_append]
        omega
      have stands := standsAt_inserted (front ++ kept) new c.newText
      have whole : front ++ (kept ++ c.newText.toList ++ new) = front ++ kept ++ c.newText.toList ++ new := by
        simp only [List.append_assoc]
      rw [whole] at small ⊢
      have ended : (byteLength (front ++ kept ++ c.newText.toList) : ℤ) < 2 ^ 63 := by
        rw [byteLength_append]
        omega
      have shifted : offset .addition (shift + (byteLength c.newText.toList - c.span.length.toNat : ℤ)) =
          .ok (shift + (byteLength c.newText.toList - c.span.length.toNat : ℤ)) :=
        offset_eq_ok (by omega) (by omega)
      simp only [missingFrom?, toInt_toInt64 (n := c.span.start) (by omega), toInt_toInt64 (n := c.span.length) (by omega),
        place, bind, Except.bind]
      rw [offset_eq_ok (by omega) (by omega)]
      dsimp only
      rw [offset_eq_ok (by omega) (by omega)]
      dsimp only
      rw [if_pos stands, offset_eq_ok (by omega) (by omega)]
      dsimp only
      rw [shifted]
      exact ih others moved small

theorem insertedTextPresent_of_apply (made : b.apply changes = .ok after)
    (near : ∀ c ∈ changes, c.span.limit < 2 ^ 63) (small : after.length < 2 ^ 63) (d : Diagnostic) :
    reason? ⟨d, changes, b, some after⟩ insertedTextPresent = .ok none := by
  have near' : ∀ c ∈ changes, c.span.limit < 2 ^ 64 := fun c listed => (near c listed).trans (by decide)
  have spliced := (Buffer.apply_eq_ok_iff near').mp made
  exact @missingFrom?_of_spliced [] _ 0 0 _ _ spliced (Change.forall_mem_sorted.mpr near) rfl small

/-- In texts that are no longer than a text in memory, every condition can be checked after a batch was made. -/
theorem reason?_answers (made : b.apply changes = .ok after) (room : b.length < 2 ^ 63) (small : after.length < 2 ^ 63)
    (d : Diagnostic) (c : Condition) (p : Panic) : reason? ⟨d, changes, b, some after⟩ c ≠ .error p := by
  obtain ⟨fit, near⟩ := Buffer.apply_fits made
  cases c
  case editsWithinBounds => simp [reason?, Buffer.check_eq_ok_iff.mpr ⟨fit, near⟩]
  case insertedTextPresent =>
    rw [insertedTextPresent_of_apply made (fun c listed => (fit.inside c listed).within.trans_lt room) small]
    exact nofun
  all_goals exact nofun

theorem reason?_answers_unedited (near : ∀ c ∈ changes, c.span.limit < 2 ^ 64) (d : Diagnostic) (c : Condition)
    (p : Panic) : reason? ⟨d, changes, b, none⟩ c ≠ .error p := by
  cases c
  case editsWithinBounds =>
    have answers := Buffer.check_answers (b := b) near
    unfold reason?
    dsimp only
    split
    · exact nofun
    · exact nofun
    · rename_i panicked
      exact (answers _ panicked).elim
  all_goals exact nofun

theorem long_of_panic (made : b.apply changes = .ok after)
    (stopped : firstFailed? ⟨d, changes, b, some after⟩ phrases = .error p) :
    2 ^ 63 ≤ b.length ∨ 2 ^ 63 ≤ after.length := by
  by_contra short
  rw [not_or, Nat.not_le, Nat.not_le] at short
  obtain ⟨c, panicked⟩ := exists_panic_of_firstFailed? stopped
  exact reason?_answers made short.1 short.2 d c p panicked

theorem importReason?_eq_none_iff {wanted : List Char → Bool} {reason : String → Reason} :
    importReason? changes wanted reason = none ↔
      importLines changes ≠ [] ∧ ∀ line ∈ importLines changes, wanted line = true := by
  unfold importReason?
  by_cases none : importLines changes = []
  · simp [none]
  · simp [none]

theorem importLine_occurs {line : List Char} (made : b.apply changes = .ok after)
    (listed : line ∈ importLines changes) : occursIn line after.chars = true := by
  obtain ⟨c, among, rfl⟩ := List.mem_map.mp (List.mem_of_mem_filter listed)
  rw [occursIn_iff]
  exact (trim_part c.newText.toList).trans (Buffer.newText_part_of_apply made among)

theorem importPresent_of_apply (made : b.apply changes = .ok after) (stated : importLines changes ≠ [])
    (d : Diagnostic) : reason? ⟨d, changes, b, some after⟩ importPresent = .ok none := by
  refine congrArg Except.ok (importReason?_eq_none_iff.mpr ?_)
  exact ⟨stated, fun line listed => importLine_occurs made listed⟩

/-- In the text that a batch leaves, its imports are not absent. -/
theorem not_importAbsent_of_apply (made : b.apply changes = .ok after) (d : Diagnostic) (after? : Option Buffer) :
    reason? ⟨d, changes, after, after?⟩ importAbsent ≠ .ok none := by
  intro absent
  obtain ⟨stated, missing⟩ := importReason?_eq_none_iff.mp (Except.ok.inj absent)
  obtain ⟨line, listed⟩ := List.exists_mem_of_ne_nil _ stated
  have there := importLine_occurs made listed
  have gone := missing line listed
  rw [Bool.not_eq_true', there] at gone
  cases gone

/-- In the text that a batch leaves, each new text stands between characters at the start of its change, moved by what
the changes sorted before it add and take, and the condition that looks for it there holds. It counts in signed offsets,
which reach as far as a text in memory. -/
theorem inserted_present (made : b.apply changes = .ok after) (near : ∀ c ∈ changes, c.span.limit < 2 ^ 63) :
    (∀ before c later, Change.sorted changes = before ++ c :: later →
      ∃ front back, after.chars = front ++ c.newText.toList ++ back ∧
        (byteLength front : ℤ) = c.span.start.toNat + Change.growth before) ∧
      (after.length < 2 ^ 63 → ∀ d, Holds ⟨d, changes, b, some after⟩ "inserted text present") := by
  constructor
  · intro before c later parts
    have near' : ∀ c ∈ changes, c.span.limit < 2 ^ 64 := fun c listed => (near c listed).trans (by decide)
    have spliced := (Buffer.apply_eq_ok_iff near').mp made
    rw [parts] at spliced
    obtain ⟨front, back, chars, place⟩ := spliced.inserted
    exact ⟨front, back, chars, by simpa using place⟩
  · intro small d
    have known : ofPhrase? "inserted text present" = some insertedTextPresent := by decide +kernel
    exact ⟨insertedTextPresent, known, insertedTextPresent_of_apply made near small d⟩

def rename : List Change :=
  [.insert 10 "!", ⟨⟨4, 1⟩, "größe"⟩, .insert 0 "// ", .delete ⟨5, 2⟩, .insert 0 "é\n"]

theorem inserted_present_rename :
    (Buffer.ofString "let x = 1;").apply rename = .ok (Buffer.ofString "// é\nlet größe 1;!") ∧
      (∀ c ∈ rename, c.span.limit < 2 ^ 63) ∧
      Holds ⟨default, rename, Buffer.ofString "let x = 1;", some (Buffer.ofString "// é\nlet größe 1;!")⟩
        "inserted text present" ∧
      ∃ front back, "// é\nlet größe 1;!".toList = front ++ "!".toList ++ back ∧ byteLength front = 20 := by
  have order : Change.sorted rename =
      [.insert 0 "// ", .insert 0 "é\n", ⟨⟨4, 1⟩, "größe"⟩, .delete ⟨5, 2⟩] ++ .insert 10 "!" :: [] := by
    simp [rename, Change.sorted, List.mergeSort, Change.insert, Change.delete, Span.at_, Span.le]
  have made : (Buffer.ofString "let x = 1;").apply rename = .ok (Buffer.ofString "// é\nlet größe 1;!") := by
    rw [Buffer.apply, Buffer.check, order]
    decide +kernel
  have near : ∀ c ∈ rename, c.span.limit < 2 ^ 63 := by decide
  have small : (Buffer.ofString "// é\nlet größe 1;!").length < 2 ^ 63 := by decide +kernel
  obtain ⟨places, holds⟩ := inserted_present made near
  obtain ⟨front, back, chars, place⟩ := places _ _ _ order
  have offset : (byteLength front : ℤ) = 20 := place.trans (by decide +kernel)
  exact ⟨made, near, holds small default, front, back, chars, by omega⟩

end Condition

end Remedy
