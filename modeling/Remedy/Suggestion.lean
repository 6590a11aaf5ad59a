import Remedy.Analysis
import Remedy.Fix.Basic

/-! All that can be said about one diagnostic, in one piece. -/

namespace Remedy

structure Suggestion (α : Type) where
  analysis : Analysis
  fixes : List (Fix α)
  similar : List Signature
  tips : List String
  resources : List Resource
  deriving Repr

namespace Suggestion

variable {α : Type}

def codeResource (code : UInt32) : Resource :=
  ⟨codeText code ++ " explained", Catalog.codeUrl code, .reference,
    if (Catalog.code? code).isSome then 0.9 else 0.5⟩

/-- What to read about the category and the code, the most relevant first. -/
def resourcesFor (d : Diagnostic) : List Resource :=
  let known := (Catalog.category d.category).resources.map fun r =>
    { r with relevance := Scalar.clamp 0.0 1.0 r.relevance }
  (known ++ [codeResource d.code]).mergeSort fun a b => Scalar.order b.relevance a.relevance != .gt

def compose (analysis : Analysis) (fixes : List (Fix α)) (similar : List Signature) : Suggestion α where
  analysis := analysis
  fixes := fixes
  similar := similar
  tips := (Catalog.category analysis.error.category).tips
  resources := resourcesFor analysis.error

def topFix? (s : Suggestion α) : Option (Fix α) := s.fixes.head?

end Suggestion

end Remedy
