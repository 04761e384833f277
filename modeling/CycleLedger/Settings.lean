import CycleLedger.Failure

/-! # Settings of a run

Profiling opens at a program counter and closes at another, traces keep a number of entries, and the
report goes to a file in a folder. A window that stops before it starts is refused.
-/

namespace CycleLedger

namespace Preset

/-- where the core starts after a reset -/
def start : UInt32 := 0x10000

/-- the last program counter -/
def stop : UInt32 := 0xFFFFFFFF

def history : UInt64 := 32

def fileName : String := "hw_stats.json"

end Preset

structure ProfilingSettings where
  start : UInt32 := Preset.start
  stop : UInt32 := Preset.stop
  /-- the first close is final -/
  singleMatch : Bool := false
  /-- open from the first cycle -/
  onBoot : Bool := false
deriving DecidableEq, Inhabited

structure TraceSettings where
  enabled : Bool := false
  /-- entries kept if tracing is enabled -/
  history : UInt64 := Preset.history
deriving DecidableEq, Inhabited

structure ReportSettings where
  /-- the folder; the current one if empty -/
  folder : String := ""
  fileName : String := Preset.fileName
deriving DecidableEq, Inhabited

structure Settings where
  profiling : ProfilingSettings := {}
  trace : TraceSettings := {}
  report : ReportSettings := {}
deriving DecidableEq, Inhabited

def ProfilingSettings.validate (p : ProfilingSettings) : Except Failure Unit :=
  if p.stop < p.start then .error (.invertedWindow p.start p.stop) else .ok ()

/-- The entries that a history holds. -/
def TraceSettings.depth (t : TraceSettings) : Nat := if t.enabled then t.history.toNat else 0

namespace ReportSettings

def joinPath (folder name : List Char) : List Char :=
  if name.head? = some '/' then name
  else if folder.getLast?.all (· == '/') then folder ++ name
  else folder ++ '/' :: name

/-- The file name in the folder; an absolute file name stands for itself. -/
def path (r : ReportSettings) : String :=
  String.ofList (joinPath r.folder.toList r.fileName.toList)

end ReportSettings

end CycleLedger
