/-! # Accesses and their outcomes

There are an instruction cache and a data cache. A cache reference reads or writes. A lookup in a
cache or in the predictor hits, misses, or did not happen in the sample at hand.
-/

namespace CycleLedger

inductive CacheKind where
  | instruction
  | data
deriving DecidableEq, Inhabited

namespace CacheKind

def ofInstruction (instruction : Bool) : CacheKind := if instruction then .instruction else .data

def label : CacheKind → String
  | instruction => "icache"
  | data => "dcache"

def title : CacheKind → String
  | instruction => "Instruction cache"
  | data => "Data cache"

end CacheKind

inductive Direction where
  | read
  | write
deriving DecidableEq, Inhabited

namespace Direction

/-- Both directions in the order of reports. -/
def all : List Direction := [read, write]

def ofStore (isStore : Bool) : Direction := if isStore then write else read

def name : Direction → String
  | read => "read"
  | write => "write"

end Direction

/-- The outcome of a lookup; `unknown` is no lookup, or flags that contradict each other. -/
inductive Outcome where
  | unknown
  | hit
  | miss
deriving DecidableEq, Inhabited

namespace Outcome

def ofFlags : (hit miss : Bool) → Outcome
  | true, false => .hit
  | false, true => .miss
  | _, _ => .unknown

/-- In the two-bit encoding bit 0 is hit and bit 1 is miss; higher bits are ignored. -/
def ofBits (bits : UInt8) : Outcome := ofFlags (bits % 2 = 1) (bits / 2 % 2 = 1)

def tag : Outcome → Char
  | unknown => '-'
  | hit => 'H'
  | miss => 'M'

def name : Outcome → String
  | unknown => "unknown"
  | hit => "hit"
  | miss => "miss"

end Outcome

end CycleLedger
