import Remedy.Proofs.Fix.Condition
import Remedy.Proofs.Rule.Effect

/-! What the edits of rules bring about. Main statement: an edit that comes to changes of a text can be made, and the
conditions it is meant to bring about hold of the text it leaves. -/

namespace Remedy

open Text

namespace Catalog

theorem importLines_importLine (symbol module : String) :
    Condition.importLines [.insert 0 (importLine symbol module)] ≠ [] := by
  have begins := trim_begins (rfl : isBlank 'i' = false) (rfl : isBlank '\x7b' = false) "mport ".toList
    (" " ++ symbol ++ " \x7d from '" ++ module ++ "';\n").toList
  have chars : (importLine symbol module).toList =
      'i' :: "mport ".toList ++ '\x7b' :: (" " ++ symbol ++ " \x7d from '" ++ module ++ "';\n").toList := by
    simp [importLine]
  have keyword : "import ".toList <+: 'i' :: "mport ".toList ++ ['\x7b'] := by decide
  rw [← chars] at begins
  generalize importLine symbol module = line at begins
  have seen : "import ".toList.isPrefixOf (trim line.toList) = true :=
    List.isPrefixOf_iff_prefix.mpr (keyword.trans begins)
  simp only [Condition.importLines, List.map_singleton, Change.insert, List.filter_cons, seen, if_true]
  exact List.cons_ne_nil _ _

end Catalog

namespace RuleEdit

/-- The conditions an edit is meant to bring about. -/
def brings : RuleEdit → List Condition
  | none => []
  | insertAtStart _ | insertAtPosition _ | insertAfterToken _ => [.insertedTextPresent]
  | deleteLine => [.lineCountDecreased]
  | insertImport => [.importPresent, .insertedTextPresent]

def Brings (conditions : List Condition) (changes : List Change) (before after : Buffer) : Prop :=
  before.apply changes = .ok after ∧
    ∀ c ∈ conditions, ∀ d, Condition.reason? ⟨d, changes, before, some after⟩ c = .ok Option.none

variable {edit : RuleEdit} {d : Diagnostic} {captures? : Option Captures} {text after : Buffer} {changes : List Change}

theorem insertedTextPresent_of_insert {offset : ℕ} {new : String} (made : text.apply [.insert offset new] = .ok after)
    (room : text.HasRoom [.insert offset new]) (d : Diagnostic) :
    Condition.reason? ⟨d, [.insert offset new], text, some after⟩ .insertedTextPresent = .ok Option.none := by
  obtain ⟨fit, near⟩ := Buffer.apply_fits made
  have grown := ((Buffer.apply_eq_ok_iff near).mp made).grows
  have added : Change.growth [.insert offset new] = byteLength new.toList := by
    simp [Change.growth, Change.insert, Span.at_]
  rw [Change.growth_sorted, added] at grown
  have small := room.insert
  apply Condition.insertedTextPresent_of_apply made
  · intro c listed
    have within := (fit.inside c listed).within
    omega
  · unfold Buffer.length at *
    omega

theorem Effect.brings (effect : Effect d captures? text edit changes after) (some : changes ≠ [])
    (room : text.HasRoom changes) : Brings edit.brings changes text after := by
  have made := effect.apply (room.length_lt some)
  refine ⟨made, ?_⟩
  intro c member d
  cases effect with
  | none | noPosition | noToken | noLine | notImported => exact (some rfl).elim
  | atStart | atPosition | afterToken =>
      rw [List.mem_singleton.mp member]
      exact insertedTextPresent_of_insert made room d
  | line at_ counted =>
      have fewer := at_.lineCount_without (at_.le_lineCount_iff.mp counted)
      rw [List.mem_singleton.mp member]
      simp only [Condition.reason?, Condition.Context.edited, Condition.require, ← fewer, Nat.lt_succ_self, decide_true, if_true]
  | imported captured known =>
      rcases List.mem_cons.mp member with rfl | last
      · exact Condition.importPresent_of_apply made (Catalog.importLines_importLine _ _) d
      · rw [List.mem_singleton.mp last]
        exact insertedTextPresent_of_insert made room d

/-- What an edit comes to for a text can be made of it and brings about what it is meant to. -/
theorem resolve_brings (some : edit.resolve d captures? (some text) ≠ [])
    (room : text.HasRoom (edit.resolve d captures? (.some text))) :
    ∃ after, Brings edit.brings (edit.resolve d captures? (.some text)) text after := by
  obtain ⟨after, effect⟩ := exists_effect (room.length_lt some) edit d captures?
  exact ⟨after, effect.brings some room⟩

end RuleEdit

end Remedy
