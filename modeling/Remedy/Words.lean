import Remedy.Error
import Remedy.Feedback

/-! Reading the words that people write, with the cause when a word is refused. -/

namespace Remedy

def Category.read (s : String) : Except DomainError Category :=
  match Category.ofText? s with
  | some c => .ok c
  | none => .error (.unknownCategory s)

def Severity.read (s : String) : Except DomainError Severity :=
  match Severity.ofText? s with
  | some v => .ok v
  | none => .error (.invalidDiagnostic (.unknownSeverity (Text.lower s)))

def Signature.read (s : String) : Except DomainError Signature :=
  match Signature.ofText? s with
  | some v => .ok v
  | none => .error (.invalidSignature s)

def Autonomy.read (s : String) : Except DomainError Autonomy :=
  match Autonomy.ofText? s with
  | some v => .ok v
  | none => .error (.invalidRule "" (.unknownFixType (Text.swapChar '_' '-' (Text.lower s))))

def Feedback.read (s : String) : Except DomainError Feedback :=
  match Feedback.ofText? s with
  | some f => .ok f
  | none =>
    .error (.invalidResolution (.unknownFeedback (Text.swapChar '-' '_' (Text.lower s))))

end Remedy
