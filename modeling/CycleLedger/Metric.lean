import CycleLedger.Binary64.Layout

/-! # Derived ratios

A ratio with a zero denominator is the undefined metric, never a number that stands for it.
-/

namespace CycleLedger

inductive Metric where
  | undefined
  | value (x : Binary64)
deriving DecidableEq, Inhabited

namespace Metric

/-- Both counts become doubles before they are divided. -/
def ratio (num den : UInt64) : Metric :=
  if den = 0 then undefined
  else value ((Binary64.ofNat num.toNat).div (Binary64.ofNat den.toNat))

def value? : Metric → Option Binary64
  | undefined => none
  | value x => some x

def ofValue? : Option Binary64 → Metric
  | none => undefined
  | some x => value x

def isUndefined (m : Metric) : Bool := m.value?.isNone

/--
Metrics shown to a reader never have an exponent; a tie between two shortest decimals goes up.
-/
def layout : Binary64.Layout where
  tie := .up
  plain := fun _ => true
  wholePoint := false

/-- The text shown to a reader, with a number of places or with the fewest digits. -/
def text (m : Metric) (places? : Option Nat) : String :=
  match m with
  | undefined => "undefined"
  | value x =>
    if x.isFinite then
      match places? with
      | some places => x.fixed places
      | none => layout.text x
    else x.nonFiniteText

/-- Summaries show ratios with three places. -/
def brief (m : Metric) : String := m.text (some 3)

end Metric

end CycleLedger
