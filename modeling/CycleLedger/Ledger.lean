import CycleLedger.CoreCounters
import CycleLedger.Report

/-! # The ledger of a run

A ledger has counters for the core, the predictor and the two caches, which open and close together.
Before each summary or report the predictor is handed the number of retired instructions.
-/

namespace CycleLedger

structure Ledger where
  core : CoreCounters := {}
  predictor : PredictorCounters := {}
  instructionCache : CacheCounters := {}
  dataCache : CacheCounters := {}
deriving DecidableEq, Inhabited

namespace Ledger

/-- Opens or closes all gates. -/
def setEnabled (enable : Bool) (l : Ledger) : Ledger where
  core := l.core.setEnabled enable
  predictor := l.predictor.setEnabled enable
  instructionCache := l.instructionCache.setEnabled enable
  dataCache := l.dataCache.setEnabled enable

def isEnabled (l : Ledger) : Bool := l.core.enabled

def cache (l : Ledger) : CacheKind → CacheCounters
  | .instruction => l.instructionCache
  | .data => l.dataCache

def addCore (e : CoreSample) (l : Ledger) : Ledger := { l with core := l.core.add e }

/-- A sample with both flags is noticed, also while the gate is closed. -/
def lookupNotices (kind : CacheKind) (e : LookupSample) : List Notice :=
  if e.accessed && e.hit && e.miss then [.hitAndMiss kind] else []

def addLookup (kind : CacheKind) (e : LookupSample) (l : Ledger) : Noted Ledger where
  result := match kind with
    | .instruction => { l with instructionCache := l.instructionCache.add e }
    | .data => { l with dataCache := l.dataCache.add e }
  notices := lookupNotices kind e

/-- Of a predictor lookup, a hit is a correct prediction. -/
def addPrediction (e : LookupSample) (l : Ledger) : Ledger :=
  if e.accessed then { l with predictor := l.predictor.add e.hit } else l

def summarize (l : Ledger) : Ledger :=
  { l with predictor := l.predictor.summarize l.core.retired }

/-- The sections of the summary, each with its lines. -/
def summarySections (l : Ledger) : List (String × List String) :=
  [("core", l.core.breakdown.lines),
    ("bpred", [l.predictor.line]),
    (CacheKind.instruction.label, l.instructionCache.lines .instruction),
    (CacheKind.data.label, l.dataCache.lines .data)]

def indent : String := "    "

/-- Each section stands under its name, indented; every line is ended. -/
def sectionText (name : String) (lines : List String) : String :=
  name ++ "\n" ++ String.join (lines.map fun line => indent ++ line ++ "\n")

def summaryText (l : Ledger) : String :=
  String.join (l.summarySections.map fun (name, lines) => sectionText name lines)

/-- The summary, and the ledger after it. -/
def render (l : Ledger) : Noted (String × Ledger) :=
  let l := l.summarize
  ⟨(l.summaryText, l), l.core.breakdown.notices⟩

/-- What the counters say as a report. -/
def figures (l : Ledger) : Report where
  core := l.core.breakdown.rows
  predictor := l.predictor.figures
  instructionCache := l.instructionCache.figures
  dataCache := l.dataCache.figures
  done := true

/-- The report, and the ledger after it. -/
def report (l : Ledger) : Noted (Report × Ledger) :=
  let l := l.summarize
  ⟨(l.figures, l), l.core.breakdown.notices⟩

end Ledger

end CycleLedger
