import Remedy.Knowledge.Entry

/-! How history changes the confidence of a fix. -/

namespace Remedy

structure BlendPolicy (α : Type) where
  /-- The observations from which on history has its full weight. -/
  historyCap : UInt32
  /-- That weight. -/
  maxHistoryWeight : α
  deriving Repr

namespace BlendPolicy

variable {α : Type} [Scalar α]

def standard : BlendPolicy α := ⟨10, 0.6⟩

def adjustmentScale : α := 0.1

def weight (p : BlendPolicy α) (e : Entry α) : α :=
  Scalar.ofNat (min e.observed.toNat p.historyCap.toNat) / Scalar.ofNat p.historyCap.toNat *
    Scalar.clamp 0.0 1.0 p.maxHistoryWeight

def historical (e : Entry α) : α :=
  Scalar.clamp 0.0 1.0 (e.successRate + adjustmentScale * e.adjustment)

/-- Helpful feedback never lets the blend fall below the base, and the contrary never lets it rise above. -/
def bounded (net : Int64) (base blended : α) : α :=
  if 0 < net then Scalar.max blended base
  else if net < 0 then Scalar.min blended base
  else blended

def blend (p : BlendPolicy α) (base : α) (e : Entry α) : α :=
  if !e.hasHistory || p.historyCap = 0 then base
  else
    let w := p.weight e
    Scalar.clamp 0.0 1.0 (bounded e.netFeedback base ((1.0 - w) * base + w * historical e))

end BlendPolicy

end Remedy
