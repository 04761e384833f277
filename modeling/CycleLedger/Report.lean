import CycleLedger.Breakdown
import CycleLedger.CacheCounters
import CycleLedger.PredictorCounters

/-! # Reports

A report is what a run leaves behind for other programs. It ends with a mark that only a complete
document has.
-/

namespace CycleLedger

structure Report where
  core : Vector Row 7
  predictor : PredictorFigures
  instructionCache : CacheFigures
  dataCache : CacheFigures
  done : Bool
deriving DecidableEq

namespace Report

/-- The names of the sections in order. -/
def sections : List String :=
  ["core", "bpred", CacheKind.instruction.label, CacheKind.data.label]

/-- The cycles of all rows together, modulo 2^64. -/
def coreCycles (r : Report) : UInt64 := r.core.foldl (fun sum row => sum + row.cycles) 0

/-- Every ratio of the report, in order. -/
def metrics (r : Report) : List Metric :=
  [r.predictor.accuracy, r.predictor.mispredictionRate,
    r.instructionCache.readHitRate, r.instructionCache.writeHitRate,
    r.dataCache.readHitRate, r.dataCache.writeHitRate]

end Report

end CycleLedger
