import Remedy.Proofs.Edit.Buffer
import Remedy.Rule.Edit

/-! What the edits of rules come to. Main statement: the changes an edit makes can be made in the text they were made for,
and leave it as it is, or with a text put in where the edit says, or without the line of the diagnostic. -/

namespace Remedy.RuleEdit

open Text

variable {edit : RuleEdit} {d : Diagnostic} {captures? : Option Captures} {text after : Buffer} {changes : List Change}

/-- What an edit comes to in a text: its changes, and the text they leave. -/
inductive Effect (d : Diagnostic) (captures? : Option Captures) (text : Buffer) :
    RuleEdit → List Change → Buffer → Prop where
  | none : Effect d captures? text none [] text
  | atStart (new : String) :
      Effect d captures? text (insertAtStart new) [.insert 0 (Captures.fill captures? new)]
        ⟨(Captures.fill captures? new).toList ++ text.chars⟩
  | atPosition (new : String) {rows : List (List Char)} {piece back : List Char}
      (place : text.PlaceAt d.line.toNat d.column.toNat rows piece back) :
      Effect d captures? text (insertAtPosition new)
        [.insert (byteLength (joinRows rows ++ piece)) (Captures.fill captures? new)]
        ⟨joinRows rows ++ piece ++ (Captures.fill captures? new).toList ++ back⟩
  | noPosition (new : String)
      (missing : ∀ rows piece back, ¬text.PlaceAt d.line.toNat d.column.toNat rows piece back) :
      Effect d captures? text (insertAtPosition new) [] text
  | afterToken (new : String) {rows : List (List Char)} {piece token back : List Char}
      (place : text.PlaceAt d.line.toNat d.column.toNat rows piece (token ++ back)) (named : token ≠ [])
      (whole : ∀ c ∈ token, Buffer.isTokenChar c = true) (ended : ∀ c ∈ back.head?, Buffer.isTokenChar c = false) :
      Effect d captures? text (insertAfterToken new)
        [.insert (byteLength (joinRows rows ++ piece ++ token)) (Captures.fill captures? new)]
        ⟨joinRows rows ++ piece ++ token ++ (Captures.fill captures? new).toList ++ back⟩
  | noToken (new : String)
      (missing : ∀ rows piece c back, text.PlaceAt d.line.toNat d.column.toNat rows piece (c :: back) →
        Buffer.isTokenChar c = false) :
      Effect d captures? text (insertAfterToken new) [] text
  | line {rows : List (List Char)} {rest : List Char} (at_ : text.LineAt d.line.toNat rows rest)
      (counted : d.line.toNat ≤ text.lineCount) :
      Effect d captures? text deleteLine [.delete (Buffer.lineSpan rows rest)]
        ⟨joinRows rows ++ Buffer.belowLine rest⟩
  | noLine (missing : d.line.toNat = 0 ∨ text.lineCount < d.line.toNat) : Effect d captures? text deleteLine [] text
  | imported {symbol module : String} (captured : captures?.bind (·.get? 1) = some symbol)
      (known : Catalog.moduleFor? symbol = some module) :
      Effect d captures? text insertImport [.insert 0 (Catalog.importLine symbol module)]
        ⟨(Catalog.importLine symbol module).toList ++ text.chars⟩
  | notImported (unknown : ∀ symbol, captures?.bind (·.get? 1) = some symbol → Catalog.moduleFor? symbol = Option.none) :
      Effect d captures? text insertImport [] text

theorem tokenOffset?_of_place {rows : List (List Char)} {piece back : List Char}
    (place : text.PlaceAt d.line.toNat d.column.toNat rows piece back) :
    tokenOffset? d text = if back.takeWhile Buffer.isTokenChar = [] then Option.none
      else some (byteLength (joinRows rows ++ piece ++ back.takeWhile Buffer.isTokenChar)) := by
  have located := Buffer.offsetOf?_eq_some_iff.mpr ⟨rows, piece, back, place, rfl⟩
  have ended : text.tokenEnd? (byteLength (joinRows rows ++ piece)) =
      some (byteLength (joinRows rows ++ piece) + byteLength (back.takeWhile Buffer.isTokenChar)) := by
    rw [Buffer.tokenEnd?, place.chars_eq, splitAt?_append]
    rfl
  simp only [tokenOffset?, located, ended, Option.bind_eq_bind, Option.bind_some, byteLength_append _ (back.takeWhile _)]
  by_cases none : back.takeWhile Buffer.isTokenChar = []
  · simp [none, byteLength]
  · have positive : byteLength (back.takeWhile Buffer.isTokenChar) ≠ 0 := mt byteLength_eq_zero.mp none
    rw [if_neg none, if_pos (by omega)]

theorem exists_effect_insertAtPosition (new : String) :
    ∃ after, Effect d captures? text (insertAtPosition new) ((insertAtPosition new).resolve d captures? (some text))
      after := by
  cases located : text.offsetOf? d.line d.column with
  | none =>
      have resolved : (insertAtPosition new).resolve d captures? (some text) = [] := by simp [resolve, located]
      rw [resolved]
      refine ⟨_, .noPosition new fun rows piece back place => ?_⟩
      rw [Buffer.offsetOf?_eq_some_iff.mpr ⟨rows, piece, back, place, rfl⟩] at located
      cases located
  | some offset =>
      have resolved : (insertAtPosition new).resolve d captures? (some text) =
          [.insert offset (Captures.fill captures? new)] := by simp [resolve, located]
      obtain ⟨rows, piece, back, place, rfl⟩ := Buffer.offsetOf?_eq_some_iff.mp located
      rw [resolved]
      exact ⟨_, .atPosition new place⟩

theorem exists_effect_insertAfterToken (new : String) :
    ∃ after, Effect d captures? text (insertAfterToken new) ((insertAfterToken new).resolve d captures? (some text))
      after := by
  cases located : tokenOffset? d text with
  | none =>
      have resolved : (insertAfterToken new).resolve d captures? (some text) = [] := by simp [resolve, located]
      rw [resolved]
      refine ⟨_, .noToken new fun rows piece c back place => ?_⟩
      rw [tokenOffset?_of_place place] at located
      by_contra token
      simp [token] at located
  | some offset =>
      have resolved : (insertAfterToken new).resolve d captures? (some text) =
          [.insert offset (Captures.fill captures? new)] := by simp [resolve, located]
      obtain ⟨start, placed, -⟩ := Option.bind_eq_some_iff.mp located
      obtain ⟨rows, piece, back, place, -⟩ := Buffer.offsetOf?_eq_some_iff.mp placed
      rw [tokenOffset?_of_place place] at located
      split at located
      · cases located
      · rename_i named
        cases located
        rw [resolved]
        rw [← List.takeWhile_append_dropWhile (p := Buffer.isTokenChar) (l := back)] at place
        refine ⟨_, .afterToken new place named (fun c member => List.mem_takeWhile_imp member) ?_⟩
        intro c first
        have ended := List.head?_dropWhile_not Buffer.isTokenChar back
        rwa [Option.mem_def.mp first] at ended

theorem exists_effect_deleteLine (small : text.length < 2 ^ 64) :
    ∃ after, Effect d captures? text deleteLine (deleteLine.resolve d captures? (some text)) after := by
  cases located : text.lineSpan? d.line with
  | none =>
      have resolved : deleteLine.resolve d captures? (some text) = [] := by simp [resolve, located]
      rw [resolved]
      refine ⟨_, .noLine ?_⟩
      by_contra there
      rw [not_or, Nat.not_lt, ← ne_eq, ← Nat.pos_iff_ne_zero] at there
      obtain ⟨span, found⟩ := Buffer.exists_lineSpan? there.1 there.2
      rw [located] at found
      cases found
  | some span =>
      obtain ⟨rows, rest, at_, rfl⟩ := Buffer.lineSpan?_eq_some_iff.mp located
      by_cases empty : rest = []
      · have resolved : deleteLine.resolve d captures? (some text) = [] := by
          simp [resolve, located, (at_.lineSpan_empty_iff small).mpr empty]
        rw [resolved]
        refine ⟨_, .noLine (.inr ?_)⟩
        rw [← Nat.not_le, at_.le_lineCount_iff, not_not]
        exact empty
      · have resolved : deleteLine.resolve d captures? (some text) = [.delete (Buffer.lineSpan rows rest)] := by
          simp [resolve, located, mt (at_.lineSpan_empty_iff small).mp empty]
        rw [resolved]
        exact ⟨_, .line at_ (at_.le_lineCount_iff.mpr empty)⟩

theorem exists_effect_insertImport :
    ∃ after, Effect d captures? text insertImport (insertImport.resolve d captures? (some text)) after := by
  cases captured : captures?.bind (·.get? 1) with
  | none =>
      have resolved : insertImport.resolve d captures? (some text) = [] := by simp [resolve, captured]
      rw [resolved]
      exact ⟨_, .notImported (by simp [captured])⟩
  | some symbol =>
      cases known : Catalog.moduleFor? symbol with
      | none =>
          have resolved : insertImport.resolve d captures? (some text) = [] := by simp [resolve, captured, known]
          rw [resolved]
          exact ⟨_, .notImported (by simp [captured, known])⟩
      | some module =>
          have resolved : insertImport.resolve d captures? (some text) =
              [.insert 0 (Catalog.importLine symbol module)] := by simp [resolve, captured, known]
          rw [resolved]
          exact ⟨_, .imported captured known⟩

theorem exists_effect (small : text.length < 2 ^ 64) (edit : RuleEdit) (d : Diagnostic) (captures? : Option Captures) :
    ∃ after, Effect d captures? text edit (edit.resolve d captures? (some text)) after := by
  cases edit with
  | none => exact ⟨_, .none⟩
  | insertAtStart new => exact ⟨_, .atStart new⟩
  | insertAtPosition new => exact exists_effect_insertAtPosition new
  | insertAfterToken new => exact exists_effect_insertAfterToken new
  | deleteLine => exact exists_effect_deleteLine small
  | insertImport => exact exists_effect_insertImport

theorem Effect.apply (effect : Effect d captures? text edit changes after) (small : text.length < 2 ^ 64) :
    text.apply changes = .ok after := by
  have front : text.chars = [] ++ text.chars := rfl
  cases effect with
  | none => exact text.apply_nil
  | atStart new => exact Buffer.apply_insert front small _
  | atPosition new place => exact Buffer.apply_insert place.chars_eq small _
  | noPosition new missing => exact text.apply_nil
  | @afterToken new rows piece token back place named whole ended =>
      have chars : text.chars = joinRows rows ++ piece ++ token ++ back := by
        rw [place.chars_eq, List.append_assoc (_ ++ piece)]
      exact Buffer.apply_insert chars small _
  | noToken new missing => exact text.apply_nil
  | line at_ counted => exact at_.apply_delete small
  | noLine missing => exact text.apply_nil
  | imported captured known => exact Buffer.apply_insert front small _
  | notImported unknown => exact text.apply_nil

/-- A line that is deleted is missing afterwards, and the others are left in order. -/
theorem Effect.deletes (effect : Effect d captures? text deleteLine changes after) (positive : 0 < d.line.toNat)
    (counted : d.line.toNat ≤ text.lineCount) :
    after.lineCount + 1 = text.lineCount ∧ lines after.chars = (lines text.chars).eraseIdx (d.line.toNat - 1) := by
  cases effect with
  | line at_ _ =>
      have some := at_.le_lineCount_iff.mp counted
      exact ⟨at_.lineCount_without some, at_.lines_without some⟩
  | noLine missing => omega

/-- The changes of an edit can be made in the text they were made for, and leave what the edit comes to there. A line
that it deletes is missing afterwards, and the others are left in order. -/
theorem resolve_applied (small : text.length < 2 ^ 64) (edit : RuleEdit) (d : Diagnostic)
    (captures? : Option Captures) :
    ∃ after, text.apply (edit.resolve d captures? (some text)) = .ok after ∧
      Effect d captures? text edit (edit.resolve d captures? (some text)) after ∧
      (edit = deleteLine → 0 < d.line.toNat → d.line.toNat ≤ text.lineCount →
        after.lineCount + 1 = text.lineCount ∧
          lines after.chars = (lines text.chars).eraseIdx (d.line.toNat - 1)) := by
  obtain ⟨after, effect⟩ := exists_effect small edit d captures?
  refine ⟨after, effect.apply small, effect, ?_⟩
  rintro rfl positive counted
  exact effect.deletes positive counted

def unended : Buffer := .ofString "let é = 1;\r\nlet b"

def onLastLine : Diagnostic := { (default : Diagnostic) with line := 2, column := 5 }

theorem resolve_applied_unended :
    unended.length < 2 ^ 64 ∧
      unended.apply (deleteLine.resolve onLastLine Option.none (some unended)) = .ok (.ofString "let é = 1;\r\n") ∧
      lines (Buffer.ofString "let é = 1;\r\n").chars = (lines unended.chars).eraseIdx 1 ∧
      unended.apply ((insertAfterToken "!").resolve onLastLine Option.none (some unended)) =
        .ok (.ofString "let é = 1;\r\nlet b!") ∧
      Effect onLastLine Option.none unended (insertAfterToken "!")
        ((insertAfterToken "!").resolve onLastLine Option.none (some unended)) (.ofString "let é = 1;\r\nlet b!") := by
  have small : unended.length < 2 ^ 64 := by decide +kernel
  have deleted : unended.apply (deleteLine.resolve onLastLine Option.none (some unended)) =
      .ok (.ofString "let é = 1;\r\n") := by decide +kernel
  have inserted : unended.apply ((insertAfterToken "!").resolve onLastLine Option.none (some unended)) =
      .ok (.ofString "let é = 1;\r\nlet b!") := by decide +kernel
  obtain ⟨after, made, -, removed⟩ := resolve_applied small deleteLine onLastLine Option.none
  obtain ⟨after', made', effect, -⟩ := resolve_applied small (insertAfterToken "!") onLastLine Option.none
  rw [deleted] at made
  rw [inserted] at made'
  cases made
  cases made'
  exact ⟨small, deleted, (removed rfl (by decide) (by decide +kernel)).2, inserted, effect⟩

end Remedy.RuleEdit
