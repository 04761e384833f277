import CycleLedger.Ledger.Delivery
import CycleLedger.TraceEntry
import CycleLedger.Window

/-! # Sessions

A session owns what one simulation run talks to: the ledger, the profiling window that opens and
closes it, the latest trace entry and a bounded history of entries. A clock is announced by `step`
before its samples are logged, so the window takes effect on them.
-/

namespace CycleLedger

structure Session where
  settings : Settings
  ledger : Ledger
  window : Window
  entry : TraceEntry := {}
  /-- the latest entries, the latest first -/
  recent : List TraceEntry := []
  clock : UInt64 := 0
  /-- cycles logged, profiled or not -/
  cycles : UInt64 := 0
deriving DecidableEq, Inhabited

namespace Session

/--
A new session. Room for a history of the full depth is taken to be there, so no depth is refused.
-/
def ofSettings (settings : Settings) : Session :=
  let window := Window.ofSettings settings.profiling
  { settings := settings
    ledger := ({} : Ledger).setEnabled window.active
    window := window }

def isProfiling (s : Session) : Bool := s.ledger.isEnabled

def setLedger (s : Session) (l : Ledger) : Session := { s with ledger := l }

/-- Opens or closes the ledger; only a real change is noticed. -/
def applyGate (enable : Bool) (s : Session) : Noted Session where
  result := s.setLedger (s.ledger.setEnabled enable)
  notices := if s.isProfiling = enable then [] else [.gateChanged s.clock enable]

/-- Goes on to a clock, before the instruction at the program counter. -/
def step (clock : UInt64) (pc : UInt32) (s : Session) : Noted Session :=
  (s.window.observe pc).andThen fun (change?, window) =>
    let s := { s with clock := clock, window := window }
    match change? with
    | some enable => s.applyGate enable
    | none => .quiet s

/-- Forces the window, which goes on from there, and the ledger with it. -/
def setProfiling (enable : Bool) (s : Session) : Noted Session :=
  { s with window := s.window.force enable }.applyGate enable

/-- Counts one simulated cycle and its core sample. -/
def logCore (e : CoreSample) (s : Session) : Session :=
  { s with cycles := s.cycles + 1, ledger := s.ledger.addCore e }

def logLookup (kind : CacheKind) (e : LookupSample) (s : Session) : Noted Session :=
  (s.ledger.addLookup kind e).map s.setLedger

def logPrediction (e : LookupSample) (s : Session) : Session :=
  s.setLedger (s.ledger.addPrediction e)

/-- All samples of one cycle. -/
def log (core : CoreSample) (fetch data prediction : LookupSample) (s : Session) : Noted Session :=
  ((s.logCore core).logLookup .instruction fetch).andThen fun s =>
    (s.logLookup .data data).map (logPrediction prediction)

/--
The entries kept with one more, the latest first. A full history gives up its oldest entry before it
takes the new one, and a history without any depth takes none.
-/
def keep (depth : Nat) (entry : TraceEntry) (recent : List TraceEntry) : List TraceEntry :=
  if depth = 0 then recent
  else entry :: (if depth ≤ recent.length then recent.dropLast else recent)

/-- Resets the entry, fills it for the clock, and keeps it as far as the history reaches. -/
def trace (clock : UInt64) (fill : TraceEntry → TraceEntry) (s : Session) : Session :=
  let entry := fill { s.entry.reset with clock := clock }
  { s with entry := entry, recent := keep s.settings.trace.depth entry s.recent }

/-- The entries kept, oldest first. -/
def history (s : Session) : List TraceEntry := s.recent.reverse

/-- The entries kept, a line each. -/
def historyText (s : Session) : String :=
  String.join (s.history.map fun entry => entry.line ++ "\n")

def summary (s : Session) : Noted (String × Session) :=
  s.ledger.render.map fun (text, l) =>
    (s!"Simulation cycles: {s.cycles}\n" ++ "Stats - Profiling Summary (approx.):\n" ++ text,
      s.setLedger l)

/-- Makes the folder of the report, if one is set; a failure names the folder. -/
def makeFolder {σ : Type} (storage : Storage σ) (place : σ) (s : Session) :
    Except Failure Unit × σ :=
  let folder := s.settings.report.folder
  if folder.isEmpty then (.ok (), place)
  else
    let (result, place) := storage.makeFolders folder place
    (result.mapError (.file folder), place)

/-- Writes the report to its file and gives the summary. -/
def finish {σ : Type} (storage : Storage σ) (place : σ) (s : Session) :
    Noted (Except Failure String × Session × σ) :=
  match s.makeFolder storage place with
  | (.error f, place) => .quiet (.error f, s, place)
  | (.ok (), place) =>
    (s.ledger.writeReport storage s.settings.report.path place).andThen
      fun (written, ledger, place) =>
        let s := s.setLedger ledger
        match written with
        | .error f => .quiet (.error f, s, place)
        | .ok () => s.summary.map fun (text, s) => (.ok text, s, place)

end Session

end CycleLedger
