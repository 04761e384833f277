import CycleLedger.Json.Form
import CycleLedger.Settings

/-! # Written form of settings

Every section and every member is preset, so a document says only what differs from the default. A
member that a section leaves out and a section that the document leaves out are preset each for
itself.
-/

namespace CycleLedger

open Json

/-- What the members of a section are that leaves them out. -/
def ProfilingSettings.bare : ProfilingSettings where
  start := Preset.start
  stop := Preset.stop
  singleMatch := false
  onBoot := false

def TraceSettings.bare : TraceSettings where
  enabled := false
  history := Preset.history

def ReportSettings.bare : ReportSettings where
  folder := ""
  fileName := Preset.fileName

def ProfilingSettings.form : Form ProfilingSettings where
  shape := .record "ProfilingConfig" <|
    .cons "pc_start" .preset (.word 32 "u32") <|
    .cons "pc_stop" .preset (.word 32 "u32") <|
    .cons "single_match" .preset .flag <|
    .cons "on_boot" .preset .flag .nil
  ofCarrier := fun (start, stop, singleMatch, onBoot, _) =>
    { start := (start.map UInt32.ofBitVec).getD bare.start
      stop := (stop.map UInt32.ofBitVec).getD bare.stop
      singleMatch := singleMatch.getD bare.singleMatch
      onBoot := onBoot.getD bare.onBoot }
  toCarrier := fun p =>
    (some p.start.toBitVec, some p.stop.toBitVec, some p.singleMatch, some p.onBoot, ())
  ofCarrier_toCarrier _ := rfl

def TraceSettings.form : Form TraceSettings where
  shape := .record "TraceConfig" <|
    .cons "enabled" .preset .flag <|
    .cons "history" .preset (.word 64 "usize") .nil
  ofCarrier := fun (enabled, history, _) =>
    { enabled := enabled.getD bare.enabled
      history := (history.map UInt64.ofBitVec).getD bare.history }
  toCarrier := fun t => (some t.enabled, some t.history.toBitVec, ())
  ofCarrier_toCarrier _ := rfl

def ReportSettings.form : Form ReportSettings where
  shape := .record "ReportConfig" <|
    .cons "out_dir" .preset (.text "path string") <|
    .cons "file_name" .preset (.text "a string") .nil
  ofCarrier := fun (folder, fileName, _) =>
    { folder := folder.getD bare.folder
      fileName := fileName.getD bare.fileName }
  toCarrier := fun r => (some r.folder, some r.fileName, ())
  ofCarrier_toCarrier _ := rfl

def Settings.form : Form Settings where
  shape := .record "CosimConfig" <|
    .cons "profiling" .preset ProfilingSettings.form.shape <|
    .cons "trace" .preset TraceSettings.form.shape <|
    .cons "report" .preset ReportSettings.form.shape .nil
  ofCarrier := fun (profiling, trace, report, _) =>
    { profiling := (profiling.map ProfilingSettings.form.ofCarrier).getD {}
      trace := (trace.map TraceSettings.form.ofCarrier).getD {}
      report := (report.map ReportSettings.form.ofCarrier).getD {} }
  toCarrier := fun s =>
    (some (ProfilingSettings.form.toCarrier s.profiling),
      some (TraceSettings.form.toCarrier s.trace),
      some (ReportSettings.form.toCarrier s.report), ())
  ofCarrier_toCarrier _ := rfl

namespace Settings

/--
Settings are checked after they have been read, so a document that is refused says nothing else.
-/
def check (s : Settings) : Except Failure Settings := s.profiling.validate.map fun _ => s

/-- What reading has found, if it can be used. -/
def ofReading (reading : Except Problem Settings) : Except Failure Settings :=
  (reading.mapError .configuration).bind check

def ofJson (text : String) : Except Failure Settings := ofReading (form.readText text)

def ofValue (v : Json.Value) : Except Failure Settings := ofReading (form.readValue v)

end Settings

end CycleLedger
