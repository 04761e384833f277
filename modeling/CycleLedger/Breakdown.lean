import CycleLedger.Metric
import CycleLedger.Notice

/-! # Top-down breakdown

Profiled cycles fall into bad speculation, front-end bound, back-end bound and retiring ones, and
all but the first of these split once more. What a cache flag or vector flag does not take is left
to the other part. The differences are taken modulo 2^64, so flags that overlap can make a count
wrap; a breakdown in which none did is consistent.
-/

namespace CycleLedger

inductive Category where
  | badSpeculation
  | frontend
  | backend
  | retiring
deriving DecidableEq, Inhabited

/-- What a category splits into. -/
inductive Subcategory where
  | instructionCache
  | dataCache
  /-- stalls of the core that no cache causes -/
  | core
  | integer
  | simd
deriving DecidableEq, Inhabited

/-- The cycles of one category or of a part of it. -/
structure Row where
  category : Category
  subcategory? : Option Subcategory
  cycles : UInt64
deriving DecidableEq, Inhabited

structure Breakdown where
  cycles : UInt64
  badSpeculation : UInt64
  frontend : UInt64
  frontendCache : UInt64
  frontendCore : UInt64
  backend : UInt64
  backendCache : UInt64
  backendCore : UInt64
  /-- cycles that retire nothing -/
  stalls : UInt64
  /-- one instruction for each cycle without a stall -/
  retired : UInt64
  integer : UInt64
  simd : UInt64
  instructionsPerCycle : Metric
  cyclesPerInstruction : Metric
deriving DecidableEq

namespace Breakdown

/-- The rows in the order of reports. -/
def rows (b : Breakdown) : Vector Row 7 :=
  #v[⟨.badSpeculation, none, b.badSpeculation⟩,
    ⟨.frontend, some .instructionCache, b.frontendCache⟩,
    ⟨.frontend, some .core, b.frontendCore⟩,
    ⟨.backend, some .dataCache, b.backendCache⟩,
    ⟨.backend, some .core, b.backendCore⟩,
    ⟨.retiring, some .integer, b.integer⟩,
    ⟨.retiring, some .simd, b.simd⟩]

def isConsistent (b : Breakdown) : Bool :=
  b.stalls ≤ b.cycles && b.frontendCache ≤ b.frontend && b.backendCache ≤ b.backend &&
    b.simd ≤ b.retired

/-- An inconsistent breakdown is never taken silently. -/
def notices (b : Breakdown) : List Notice :=
  if b.isConsistent then [] else [.overlapping b.cycles b.stalls]

def lines (b : Breakdown) : List String :=
  [s!"Cycles: {b.cycles}, Inst: {b.retired}, Stalls: {b.stalls}, " ++
      s!"CPI: {b.cyclesPerInstruction.brief} (IPC: {b.instructionsPerCycle.brief})",
    "    TDA",
    s!"        L1: Bad Spec: {b.badSpeculation}, FE: {b.frontend}, BE: {b.backend}, " ++
      s!"Retired: {b.retired}",
    s!"        L2: FE Mem: {b.frontendCache}, FE Core: {b.frontendCore}, " ++
      s!"BE Mem: {b.backendCache}, BE Core: {b.backendCore}, INT: {b.integer}, SIMD: {b.simd}"]

end Breakdown

end CycleLedger
