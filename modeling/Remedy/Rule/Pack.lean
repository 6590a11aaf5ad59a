import Remedy.Rule.Basic
import Remedy.Toml.Reader
import Remedy.Words

/-! Rule packs: TOML documents with a list of rules. -/

namespace Remedy

structure PackEdit where
  kind : String
  text? : Option String
  deriving DecidableEq, Repr

structure PackRule where
  id : String
  codes : List UInt32
  category? : Option String
  messagePattern? : Option String
  description : String
  autonomy : String
  confidence : Float
  edit? : Option PackEdit
  preConditions : List String
  postConditions : List String
  sideEffects : List String
  rollbackPossible : Bool
  deriving Repr

inductive PackRuleFlaw where
  | invalid (e : DomainError)
  | badPattern (detail : String)
  | textRequired (kind : String)
  | unknownEdit (kind : String)
  deriving DecidableEq, Repr

def PackRuleFlaw.text : PackRuleFlaw → String
  | invalid e => e.message
  | badPattern detail => "message_pattern does not compile: " ++ detail
  | textRequired kind => "edit kind '" ++ kind ++ "' requires \x60text\x60"
  | unknownEdit kind => "unknown edit kind '" ++ kind ++ "'"

namespace PackEdit

def fieldNames : List String := ["kind", "text"]

def ofToml? (v : Toml) : Option PackEdit := do
  let r ← Toml.Record.of? fieldNames v
  return ⟨← r.required "kind" Toml.asText?, ← r.optional "text" Toml.asText?⟩

def usual (kind : String) : String := Text.swapChar '_' '-' (Text.lower (Text.trimmed kind))

def withText (e : PackEdit) (make : String → RuleEdit) : Except PackRuleFlaw RuleEdit :=
  match e.text? with
  | some text => .ok (make text)
  | none => .error (.textRequired e.kind)

def edit (e : PackEdit) : Except PackRuleFlaw RuleEdit :=
  match usual e.kind with
  | "none" => .ok .none
  | "insert-at-start" => e.withText .insertAtStart
  | "insert-at-position" => e.withText .insertAtPosition
  | "insert-after-token" => e.withText .insertAfterToken
  | "delete-line" => .ok .deleteLine
  | "insert-import" => .ok .insertImport
  | other => .error (.unknownEdit other)

end PackEdit

namespace PackRule

def fieldNames : List String :=
  ["id", "codes", "category", "message_pattern", "description", "fix_type", "confidence", "edit",
   "pre_conditions", "post_conditions", "side_effects", "rollback_possible"]

def asTexts? : Toml.Decoder (List String) := Toml.asList? Toml.asText?

def ofToml? (v : Toml) : Option PackRule := do
  let r ← Toml.Record.of? fieldNames v
  return {
    id := ← r.required "id" Toml.asText?
    codes := ← r.defaulted "codes" [] (Toml.asList? Toml.asUInt32?)
    category? := ← r.optional "category" Toml.asText?
    messagePattern? := ← r.optional "message_pattern" Toml.asText?
    description := ← r.required "description" Toml.asText?
    autonomy := ← r.required "fix_type" Toml.asText?
    confidence := ← r.required "confidence" Toml.asFloat?
    edit? := ← r.optional "edit" PackEdit.ofToml?
    preConditions := ← r.defaulted "pre_conditions" [] asTexts?
    postConditions := ← r.defaulted "post_conditions" [] asTexts?
    sideEffects := ← r.defaulted "side_effects" [] asTexts?
    rollbackPossible := ← r.defaulted "rollback_possible" false Toml.asBool? }

def ofDomain {α : Type} (r : Except DomainError α) : Except PackRuleFlaw α := r.mapError .invalid

def checkPattern (p : PackRule) : Except PackRuleFlaw Unit :=
  match p.messagePattern?.map Pattern.read with
  | some (.error fault) => .error (.badPattern fault.text)
  | _ => .ok ()

/-- The rule, if all it says can be read and it is valid; of several flaws the first counts. -/
def rule (p : PackRule) : Except PackRuleFlaw (Rule Float) := do
  let category? ← match p.category? with
    | some word => (ofDomain (Category.read word)).map some
    | none => .ok none
  let autonomy ← ofDomain (Autonomy.read p.autonomy)
  p.checkPattern
  let edit ← match p.edit? with
    | some e => e.edit
    | none => .ok .none
  let rule : Rule Float := {
    id := p.id
    codes := p.codes
    category? := category?
    messagePattern? := p.messagePattern?
    description := p.description
    autonomy := autonomy
    confidence := p.confidence
    edit := edit
    preConditions := p.preConditions
    postConditions := p.postConditions
    sideEffects := p.sideEffects
    rollbackPossible := p.rollbackPossible }
  ofDomain rule.validate
  return rule

end PackRule

namespace Pack

def ofToml? (v : Toml) : Option (List PackRule) := do
  let r ← Toml.Record.of? ["rule"] v
  r.defaulted "rule" [] (Toml.asList? PackRule.ofToml?)

def parse? (s : String) : Option (List PackRule) := (Toml.parse? s).bind ofToml?

end Pack

end Remedy
