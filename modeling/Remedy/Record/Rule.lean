import Remedy.Record.Fix
import Remedy.Rule.Basic

/-! JSON form of rules. -/

namespace Remedy

namespace RuleEdit

def kind : RuleEdit → String
  | none => "none"
  | insertAtStart _ => "insert-at-start"
  | insertAtPosition _ => "insert-at-position"
  | insertAfterToken _ => "insert-after-token"
  | deleteLine => "delete-line"
  | insertImport => "insert-import"

def text? : RuleEdit → Option String
  | insertAtStart text | insertAtPosition text | insertAfterToken text => some text
  | _ => Option.none

/-- The edit of a kind; a text must be there exactly for kinds that need one. -/
def ofKind? (kind : String) (text? : Option String) : Option RuleEdit :=
  match kind, text? with
  | "none", Option.none => some none
  | "insert-at-start", some text => some (insertAtStart text)
  | "insert-at-position", some text => some (insertAtPosition text)
  | "insert-after-token", some text => some (insertAfterToken text)
  | "delete-line", Option.none => some deleteLine
  | "insert-import", Option.none => some insertImport
  | _, _ => Option.none

def toJson (e : RuleEdit) : Json :=
  .obj (("kind", .str e.kind) :: (match e.text? with
    | some text => [("text", .str text)]
    | Option.none => []))

def ofJson? (j : Json) : Option RuleEdit := do
  let r ← Json.Record.of? ["kind", "text"] j
  let kind ← r.required "kind" (Json.asChoice? some)
  ofKind? kind (← r.optional "text" Json.asText?)

end RuleEdit

namespace Rule

def fieldNames : List String :=
  ["id", "codes", "category", "messagePattern", "description", "fixType", "confidence", "edit",
   "preConditions", "postConditions", "sideEffects", "rollbackPossible"]

def toJson (r : Rule Float) : Json :=
  .obj [("id", .str r.id), ("codes", .ofList .ofUInt32 r.codes),
    ("category", .ofOption Category.toJson r.category?),
    ("messagePattern", .ofOption .str r.messagePattern?), ("description", .str r.description),
    ("fixType", r.autonomy.toJson), ("confidence", .real r.confidence), ("edit", r.edit.toJson),
    ("preConditions", .ofStrings r.preConditions), ("postConditions", .ofStrings r.postConditions),
    ("sideEffects", .ofStrings r.sideEffects), ("rollbackPossible", .bool r.rollbackPossible)]

def ofJson? (j : Json) : Option (Rule Float) := do
  let r ← Json.Record.of? fieldNames j
  return {
    id := ← r.required "id" Json.asText?
    codes := ← r.defaulted "codes" [] (Json.asList? Json.asUInt32?)
    category? := ← r.defaulted "category" none (Json.asOption? Category.ofJson?)
    messagePattern? := ← r.defaulted "messagePattern" none (Json.asOption? Json.asText?)
    description := ← r.required "description" Json.asText?
    autonomy := ← r.required "fixType" Autonomy.ofJson?
    confidence := ← r.required "confidence" Json.asFloat?
    edit := ← r.defaulted "edit" .none RuleEdit.ofJson?
    preConditions := ← r.defaulted "preConditions" [] Json.asStrings?
    postConditions := ← r.required "postConditions" Json.asStrings?
    sideEffects := ← r.defaulted "sideEffects" [] Json.asStrings?
    rollbackPossible := ← r.defaulted "rollbackPossible" false Json.asBool? }

end Rule

end Remedy
