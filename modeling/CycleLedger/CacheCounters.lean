import CycleLedger.Metric
import CycleLedger.Sample
import CycleLedger.Text.Field

/-! # Counters of one cache

References, hits and misses are counted for each direction, evictions of dirty lines once for both.
A reference may be neither a hit nor a miss.
-/

namespace CycleLedger

/-- The counters of one direction. -/
structure LookupCounters where
  references : UInt64 := 0
  hits : UInt64 := 0
  misses : UInt64 := 0
deriving DecidableEq, Inhabited

def LookupCounters.hitRate (c : LookupCounters) : Metric := .ratio c.hits c.references

structure CacheCounters where
  enabled : Bool := false
  read : LookupCounters := {}
  write : LookupCounters := {}
  writebacks : UInt64 := 0
deriving DecidableEq, Inhabited

namespace CacheCounters

def setEnabled (enable : Bool) (c : CacheCounters) : CacheCounters := { c with enabled := enable }

def lookups (c : CacheCounters) : Direction → LookupCounters
  | .read => c.read
  | .write => c.write

/-- Changes the counters of a direction while the gate is open. -/
def modify (f : LookupCounters → LookupCounters) (d : Direction) (c : CacheCounters) :
    CacheCounters :=
  if c.enabled then
    match d with
    | .read => { c with read := f c.read }
    | .write => { c with write := f c.write }
  else c

def reference : Direction → CacheCounters → CacheCounters :=
  modify fun l => { l with references := l.references + 1 }

def hit : Direction → CacheCounters → CacheCounters :=
  modify fun l => { l with hits := l.hits + 1 }

def miss : Direction → CacheCounters → CacheCounters :=
  modify fun l => { l with misses := l.misses + 1 }

def writeback (c : CacheCounters) : CacheCounters :=
  if c.enabled then { c with writebacks := c.writebacks + 1 } else c

/--
A lookup is a reference, and then a hit or else a miss, which alone can write a line back. A sample
with both flags is a hit.
-/
def add (e : LookupSample) (c : CacheCounters) : CacheCounters :=
  if e.accessed then
    let c := c.reference e.direction
    if e.hit then c.hit e.direction
    else if e.miss then
      let c := c.miss e.direction
      if e.writeback then c.writeback else c
    else c
  else c

def hitRate (d : Direction) (c : CacheCounters) : Metric := (c.lookups d).hitRate

def directionLine (d : Direction) (c : CacheCounters) : String :=
  let l := c.lookups d
  "    " ++ Text.field .left 5 none d.name ++
    s!" - Ref: {l.references}, Hit: {l.hits}, Miss: {l.misses}, Hit rate: {l.hitRate.brief}"

/-- The lines of the summary. -/
def lines (kind : CacheKind) (c : CacheCounters) : List String :=
  (kind.title ++ " (" ++ kind.label ++ ")") :: Direction.all.map (directionLine · c) ++
    [s!"    Writebacks: {c.writebacks}"]

end CacheCounters

/-- What a report says about one cache. -/
structure CacheFigures where
  readReferences : UInt64
  readHits : UInt64
  readMisses : UInt64
  readHitRate : Metric
  writeReferences : UInt64
  writeHits : UInt64
  writeMisses : UInt64
  writeHitRate : Metric
  writebacks : UInt64
deriving DecidableEq, Inhabited

def CacheCounters.figures (c : CacheCounters) : CacheFigures where
  readReferences := c.read.references
  readHits := c.read.hits
  readMisses := c.read.misses
  readHitRate := c.read.hitRate
  writeReferences := c.write.references
  writeHits := c.write.hits
  writeMisses := c.write.misses
  writeHitRate := c.write.hitRate
  writebacks := c.writebacks

end CycleLedger
