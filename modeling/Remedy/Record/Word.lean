import Remedy.Autonomy
import Remedy.Feedback
import Remedy.Fix.State
import Remedy.Grade
import Remedy.Json.Decode
import Remedy.Path
import Remedy.Severity
import Remedy.Signature

/-! JSON forms of the values that are written as one word. -/

namespace Remedy

def Category.toJson (c : Category) : Json := .str c.name

def Category.ofJson? : Json.Decoder Category := Json.asChoice? Category.ofName?

def Severity.toJson (s : Severity) : Json := .str s.name

def Severity.ofJson? : Json.Decoder Severity := Json.asChoice? Severity.ofName?

def Impact.toJson (i : Impact) : Json := .str i.name

def Impact.ofJson? : Json.Decoder Impact := Json.asChoice? Impact.ofName?

def Complexity.toJson (c : Complexity) : Json := .str c.name

def Complexity.ofJson? : Json.Decoder Complexity := Json.asChoice? Complexity.ofName?

def Autonomy.toJson (a : Autonomy) : Json := .str a.name

def Autonomy.ofJson? : Json.Decoder Autonomy := Json.asChoice? Autonomy.ofName?

def Feedback.toJson (f : Feedback) : Json := .str f.name

def Feedback.ofJson? : Json.Decoder Feedback := Json.asChoice? Feedback.ofName?

def FixState.toJson (s : FixState) : Json := .str s.name

def FixState.ofJson? : Json.Decoder FixState := Json.asChoice? FixState.ofName?

def Signature.toJson (s : Signature) : Json := .str s.text

def Signature.ofJson? (j : Json) : Option Signature := (Json.asText? j).bind Signature.ofText?

def Path.toJson (p : Path) : Json := .str p.text

def Path.ofJson? (j : Json) : Option Path := (Json.asText? j).map Path.mk

end Remedy
