import CycleLedger.Breakdown
import CycleLedger.Sample

/-! # Cycle counters of the core

Only what the samples say is counted; the breakdown is derived from the counters whenever it is
asked for.
-/

namespace CycleLedger

structure CoreCounters where
  enabled : Bool := false
  cycles : UInt64 := 0
  badSpeculation : UInt64 := 0
  frontend : UInt64 := 0
  frontendCache : UInt64 := 0
  backend : UInt64 := 0
  backendCache : UInt64 := 0
  simd : UInt64 := 0
deriving DecidableEq, Inhabited

namespace CoreCounters

def setEnabled (enable : Bool) (c : CoreCounters) : CoreCounters := { c with enabled := enable }

/-- Counts one cycle, and each flag that the sample has set. -/
def count (e : CoreSample) (c : CoreCounters) : CoreCounters :=
  { c with
    cycles := c.cycles + 1
    badSpeculation := c.badSpeculation + e.badSpeculation.toUInt64
    frontend := c.frontend + e.frontend.toUInt64
    frontendCache := c.frontendCache + e.frontendCache.toUInt64
    backend := c.backend + e.backend.toUInt64
    backendCache := c.backendCache + e.backendCache.toUInt64
    simd := c.simd + e.simd.toUInt64 }

/-- A sample counts only while the gate is open. -/
def add (e : CoreSample) (c : CoreCounters) : CoreCounters := if c.enabled then c.count e else c

def stalls (c : CoreCounters) : UInt64 := c.badSpeculation + c.frontend + c.backend

/-- The retired instructions that the predictor is handed, without a breakdown. -/
def retired (c : CoreCounters) : UInt64 := c.cycles - (c.badSpeculation + c.frontend + c.backend)

/-- The ratios are undefined unless there are both cycles and retired instructions. -/
def breakdown (c : CoreCounters) : Breakdown :=
  let retired := c.cycles - c.stalls
  { cycles := c.cycles
    badSpeculation := c.badSpeculation
    frontend := c.frontend
    frontendCache := c.frontendCache
    frontendCore := c.frontend - c.frontendCache
    backend := c.backend
    backendCache := c.backendCache
    backendCore := c.backend - c.backendCache
    stalls := c.stalls
    retired := retired
    integer := retired - c.simd
    simd := c.simd
    instructionsPerCycle := if retired = 0 then .undefined else .ratio retired c.cycles
    cyclesPerInstruction := if c.cycles = 0 then .undefined else .ratio c.cycles retired }

/-- The breakdown, with a notice if it is inconsistent. -/
def finalize (c : CoreCounters) : Noted Breakdown := ⟨c.breakdown, c.breakdown.notices⟩

/-- The lines of the summary. -/
def render (c : CoreCounters) : Noted (List String) := c.finalize.map Breakdown.lines

/-- The rows of the report. -/
def rows (c : CoreCounters) : Noted (Vector Row 7) := c.finalize.map Breakdown.rows

end CoreCounters

end CycleLedger
