import CycleLedger.Access

/-! # Samples

The simulation hands over one core sample a cycle and one lookup sample for each lookup in a cache
or in the branch predictor. A core sample is well formed if it is bound by at most one of bad
speculation, front end and back end, and if a cache flag comes with the flag of its side.
-/

namespace CycleLedger

/-- How one cycle of the core went; no stall flag is a retiring cycle. -/
structure CoreSample where
  badSpeculation : Bool := false
  frontend : Bool := false
  /-- front-end bound by the instruction cache -/
  frontendCache : Bool := false
  backend : Bool := false
  /-- back-end bound by the data cache -/
  backendCache : Bool := false
  /-- the instruction that retires is a vector instruction -/
  simd : Bool := false
deriving DecidableEq, Inhabited

namespace CoreSample

def retiring : CoreSample := {}

def speculating : CoreSample := { badSpeculation := true }

def frontendBound (cache : Bool) : CoreSample := { frontend := true, frontendCache := cache }

def backendBound (cache : Bool) : CoreSample := { backend := true, backendCache := cache }

def retire (simd : Bool) : CoreSample := { simd := simd }

end CoreSample

/-- One lookup; of a predictor lookup, a hit is a correct prediction. -/
structure LookupSample where
  /-- a lookup happened; without it nothing else counts -/
  accessed : Bool := false
  hit : Bool := false
  miss : Bool := false
  /-- the miss evicts a dirty line -/
  writeback : Bool := false
  isStore : Bool := false
  /-- bytes transferred -/
  size : UInt8 := 0
  outcome : Outcome := .unknown
deriving DecidableEq, Inhabited

namespace LookupSample

def idle : LookupSample := {}

def readHit (size : UInt8) : LookupSample :=
  { accessed := true, hit := true, size := size, outcome := .hit }

def readMiss (size : UInt8) : LookupSample :=
  { accessed := true, miss := true, size := size, outcome := .miss }

def writeHit (size : UInt8) : LookupSample := { readHit size with isStore := true }

def writeMiss (size : UInt8) (writeback : Bool) : LookupSample :=
  { readMiss size with isStore := true, writeback := writeback }

def prediction (correct : Bool) : LookupSample :=
  { accessed := true, hit := correct, miss := !correct, outcome := .ofFlags correct !correct }

def direction (s : LookupSample) : Direction := .ofStore s.isStore

end LookupSample

end CycleLedger
