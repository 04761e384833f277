import CycleLedger.Metric

/-! # Counters of the branch predictor

Mispredictions are related to retired instructions, which the predictor does not see; `summarize`
hands over their number before each summary or report.
-/

namespace CycleLedger

structure PredictorCounters where
  enabled : Bool := false
  total : UInt64 := 0
  correct : UInt64 := 0
  /-- the retired instructions handed over last -/
  retired : UInt64 := 0
deriving DecidableEq, Inhabited

/-- What a report says about the predictor. -/
structure PredictorFigures where
  predictions : UInt64
  correct : UInt64
  mispredicted : UInt64
  retired : UInt64
  accuracy : Metric
  mispredictionRate : Metric
deriving DecidableEq, Inhabited

namespace PredictorCounters

def setEnabled (enable : Bool) (c : PredictorCounters) : PredictorCounters :=
  { c with enabled := enable }

/-- Counts one prediction while the gate is open. -/
def add (correct : Bool) (c : PredictorCounters) : PredictorCounters :=
  if c.enabled then { c with total := c.total + 1, correct := c.correct + correct.toUInt64 } else c

def summarize (retired : UInt64) (c : PredictorCounters) : PredictorCounters :=
  { c with retired := retired }

def mispredicted (c : PredictorCounters) : UInt64 := c.total - c.correct

def accuracy (c : PredictorCounters) : Metric := .ratio c.correct c.total

def mispredictionRate (c : PredictorCounters) : Metric := .ratio c.mispredicted c.retired

/-- The line of the summary. -/
def line (c : PredictorCounters) : String :=
  s!"Predictions: {c.total}, Correct: {c.correct}, Mispredicted: {c.mispredicted}, " ++
    s!"Accuracy: {c.accuracy.brief}, Mispredicts/Inst: {c.mispredictionRate.brief}"

def figures (c : PredictorCounters) : PredictorFigures where
  predictions := c.total
  correct := c.correct
  mispredicted := c.mispredicted
  retired := c.retired
  accuracy := c.accuracy
  mispredictionRate := c.mispredictionRate

end PredictorCounters

end CycleLedger
