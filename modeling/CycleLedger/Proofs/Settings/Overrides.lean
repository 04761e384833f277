import CycleLedger.Forms.Settings
import CycleLedger.Proofs.Json.Meaning

/-! # Settings that override the default

A document of settings gives some sections, and some members of each, and leaves the rest to the
default. The order of what it gives, unknown members among it and the blanks around it have no part
in what is read. A window is checked as it is in the end, given bounds and default ones alike.
-/

namespace CycleLedger

open Json

/-- What a document gives of a section. -/
structure ProfilingOverrides where
  start? : Option UInt32 := none
  stop? : Option UInt32 := none
  singleMatch? : Option Bool := none
  onBoot? : Option Bool := none

structure TraceOverrides where
  enabled? : Option Bool := none
  history? : Option UInt64 := none

structure ReportOverrides where
  folder? : Option String := none
  fileName? : Option String := none

/-- What a document gives of the settings; a section that it gives can still give nothing. -/
structure Overrides where
  profiling? : Option ProfilingOverrides := none
  trace? : Option TraceOverrides := none
  report? : Option ReportOverrides := none

/-! ## What the settings become -/

def ProfilingOverrides.settings (o : ProfilingOverrides) : ProfilingSettings where
  start := o.start?.getD ({} : Settings).profiling.start
  stop := o.stop?.getD ({} : Settings).profiling.stop
  singleMatch := o.singleMatch?.getD ({} : Settings).profiling.singleMatch
  onBoot := o.onBoot?.getD ({} : Settings).profiling.onBoot

def TraceOverrides.settings (o : TraceOverrides) : TraceSettings where
  enabled := o.enabled?.getD ({} : Settings).trace.enabled
  history := o.history?.getD ({} : Settings).trace.history

def ReportOverrides.settings (o : ReportOverrides) : ReportSettings where
  folder := o.folder?.getD ({} : Settings).report.folder
  fileName := o.fileName?.getD ({} : Settings).report.fileName

def Overrides.settings (o : Overrides) : Settings where
  profiling := (o.profiling?.getD {}).settings
  trace := (o.trace?.getD {}).settings
  report := (o.report?.getD {}).settings

/-! ## What a document gives -/

namespace Json.Node

def IsFlag (n : Node) (b : Bool) : Prop := n = .flag b

/-- An integer written without a sign, a fraction or an exponent. -/
def IsNatural (n : Node) (i : Nat) : Prop := n = .number (.ok (.ofInt i))

/-- A text in any of its spellings. -/
def IsText (n : Node) (t : String) : Prop := ∃ q, n = .text q ∧ q.text = .ok t

end Json.Node

def ProfilingOverrides.StatedBy (o : ProfilingOverrides) (n : Node) : Prop :=
  ∃ pairs, n = .object pairs none ∧ Named pairs ∧
    Given (fun n (w : UInt32) => n.IsNatural w.toNat) "pc_start" pairs o.start? ∧
    Given (fun n (w : UInt32) => n.IsNatural w.toNat) "pc_stop" pairs o.stop? ∧
    Given Node.IsFlag "single_match" pairs o.singleMatch? ∧
    Given Node.IsFlag "on_boot" pairs o.onBoot?

def TraceOverrides.StatedBy (o : TraceOverrides) (n : Node) : Prop :=
  ∃ pairs, n = .object pairs none ∧ Named pairs ∧
    Given Node.IsFlag "enabled" pairs o.enabled? ∧
    Given (fun n (w : UInt64) => n.IsNatural w.toNat) "history" pairs o.history?

def ReportOverrides.StatedBy (o : ReportOverrides) (n : Node) : Prop :=
  ∃ pairs, n = .object pairs none ∧ Named pairs ∧
    Given Node.IsText "out_dir" pairs o.folder? ∧ Given Node.IsText "file_name" pairs o.fileName?

/--
Whether a document gives these and nothing else that is known, each once; what it gives under other
names can be anything.
-/
def Overrides.StatedBy (o : Overrides) (n : Node) : Prop :=
  ∃ pairs, n = .object pairs none ∧ Named pairs ∧
    Given (fun n (p : ProfilingOverrides) => p.StatedBy n) "profiling" pairs o.profiling? ∧
    Given (fun n (t : TraceOverrides) => t.StatedBy n) "trace" pairs o.trace? ∧
    Given (fun n (r : ReportOverrides) => r.StatedBy n) "report" pairs o.report?

/-! ## What is read -/

def ProfilingOverrides.carrier (o : ProfilingOverrides) : ProfilingSettings.form.shape.Carrier :=
  (o.start?.map (·.toBitVec), o.stop?.map (·.toBitVec), o.singleMatch?, o.onBoot?, ())

def TraceOverrides.carrier (o : TraceOverrides) : TraceSettings.form.shape.Carrier :=
  (o.enabled?, o.history?.map (·.toBitVec), ())

def ReportOverrides.carrier (o : ReportOverrides) : ReportSettings.form.shape.Carrier :=
  (o.folder?, o.fileName?, ())

def Overrides.carrier (o : Overrides) : Settings.form.shape.Carrier :=
  (o.profiling?.map (·.carrier), o.trace?.map (·.carrier), o.report?.map (·.carrier), ())

theorem ProfilingOverrides.means_carrier {o : ProfilingOverrides} {n : Node} (h : o.StatedBy n) :
    ProfilingSettings.form.shape.Means n o.carrier := by
  obtain ⟨pairs, rfl, named, start, stop, singleMatch, onBoot⟩ := h
  refine ⟨pairs, o.carrier, rfl, named, ⟨?_, ?_, singleMatch, onBoot, trivial⟩, rfl⟩
  · exact start.map UInt32.toBitVec fun _ _ states => states
  · exact stop.map UInt32.toBitVec fun _ _ states => states

theorem TraceOverrides.means_carrier {o : TraceOverrides} {n : Node} (h : o.StatedBy n) :
    TraceSettings.form.shape.Means n o.carrier := by
  obtain ⟨pairs, rfl, named, enabled, history⟩ := h
  refine ⟨pairs, o.carrier, rfl, named, ⟨enabled, ?_, trivial⟩, rfl⟩
  exact history.map UInt64.toBitVec fun _ _ states => states

theorem ReportOverrides.means_carrier {o : ReportOverrides} {n : Node} (h : o.StatedBy n) :
    ReportSettings.form.shape.Means n o.carrier := by
  obtain ⟨pairs, rfl, named, folder, fileName⟩ := h
  exact ⟨pairs, o.carrier, rfl, named, ⟨folder, fileName, trivial⟩, rfl⟩

namespace Overrides

theorem means_carrier {o : Overrides} {n : Node} (h : o.StatedBy n) :
    Settings.form.shape.Means n o.carrier := by
  obtain ⟨pairs, rfl, named, profiling, trace, report⟩ := h
  refine ⟨pairs, o.carrier, rfl, named, ⟨?_, ?_, ?_, trivial⟩, rfl⟩
  · exact profiling.map ProfilingOverrides.carrier fun _ _ => ProfilingOverrides.means_carrier
  · exact trace.map TraceOverrides.carrier fun _ _ => TraceOverrides.means_carrier
  · exact report.map ReportOverrides.carrier fun _ _ => ReportOverrides.means_carrier

end Overrides

/-! ## The defaults of both levels -/

/-- Members left out one by one and a section left out as a whole come to the same. -/
theorem ProfilingSettings.bare_eq : bare = ({} : Settings).profiling := rfl

theorem TraceSettings.bare_eq : bare = ({} : Settings).trace := rfl

theorem ReportSettings.bare_eq : bare = ({} : Settings).report := rfl

/-- What is given comes out, and the default for what is not. -/
theorem ProfilingOverrides.ofCarrier_carrier (o : ProfilingOverrides) :
    ProfilingSettings.form.ofCarrier o.carrier = o.settings := by
  obtain ⟨start?, stop?, singleMatch?, onBoot?⟩ := o
  rw [settings, ← ProfilingSettings.bare_eq]
  cases start? <;> cases stop? <;> rfl

theorem TraceOverrides.ofCarrier_carrier (o : TraceOverrides) :
    TraceSettings.form.ofCarrier o.carrier = o.settings := by
  obtain ⟨enabled?, history?⟩ := o
  rw [settings, ← TraceSettings.bare_eq]
  cases history? <;> rfl

theorem ReportOverrides.ofCarrier_carrier (o : ReportOverrides) :
    ReportSettings.form.ofCarrier o.carrier = o.settings := by
  rw [settings, ← ReportSettings.bare_eq]
  rfl

/-- A section that is left out is read like one that gives nothing. -/
theorem getD_section {Given Carrier Section : Type} {carrier : Given → Carrier}
    {read : Carrier → Section} {settings : Given → Section}
    (given : ∀ o, read (carrier o) = settings o) (nothing : Given) (o? : Option Given) :
    ((o?.map carrier).map read).getD (settings nothing) = settings (o?.getD nothing) := by
  cases o? with
  | none => rfl
  | some o => exact given o

theorem Overrides.ofCarrier_carrier (o : Overrides) :
    Settings.form.ofCarrier o.carrier = o.settings := by
  have profiling := getD_section ProfilingOverrides.ofCarrier_carrier {} o.profiling?
  have trace := getD_section TraceOverrides.ofCarrier_carrier {} o.trace?
  have report := getD_section ReportOverrides.ofCarrier_carrier {} o.report?
  exact congr (congr (congrArg Settings.mk profiling) trace) report

namespace Settings

theorem faithful_form : form.shape.faithful = true := by decide

theorem readText_stated {o : Overrides} {n : Node} {text : String} (spelled : n.SpelledBy text)
    (stated : o.StatedBy n) : form.readText text = .ok o.settings := by
  rw [form.readText_means faithful_form spelled (Overrides.means_carrier stated),
    o.ofCarrier_carrier]

/-- Settings pass the check unless the window is inverted. -/
theorem check_eq (s : Settings) :
    s.check = if s.profiling.stop < s.profiling.start then
      .error (.invertedWindow s.profiling.start s.profiling.stop) else .ok s := by
  rw [check, ProfilingSettings.validate]
  split <;> rfl

/--
A document whose known members are given once each, in any order and layout and with anything else
among them, is refused with its bounds if its window is inverted, and otherwise gives the default
settings overridden by what it says. Whatever the text, settings that are read have a window in
order, and a text that cannot be read is refused for that.
-/
theorem ofJson_overrides {o : Overrides} {n : Node} {text : String} (spelled : n.SpelledBy text)
    (stated : o.StatedBy n) :
    let start := o.settings.profiling.start
    let stop := o.settings.profiling.stop
    ((ofJson text = .error (.invertedWindow start stop) ↔ stop < start) ∧
        (¬stop < start → ofJson text = .ok o.settings)) ∧
      (∀ n' text', Node.SpelledBy n' text' → o.StatedBy n' → ofJson text' = ofJson text) ∧
      (∀ other s, ofJson other = .ok s → s.profiling.start ≤ s.profiling.stop) ∧
      ∀ other problem, form.readText other = .error problem →
        ofJson other = .error (.configuration problem) := by
  intro start stop
  have read {n' : Node} {text' : String} (spelled : n'.SpelledBy text') (stated : o.StatedBy n') :
      ofJson text' = if stop < start then .error (.invertedWindow start stop)
        else .ok o.settings := by
    rw [ofJson, readText_stated spelled stated, ← check_eq]
    rfl
  refine ⟨⟨?_, fun ordered => ?_⟩, fun n' text' spelled' stated' => ?_, fun other s accepted => ?_,
    fun other problem refused => ?_⟩
  · rw [read spelled stated]
    split
    · next inverted => simp [inverted]
    · next ordered => simp [ordered]
  · rw [read spelled stated, if_neg ordered]
  · rw [read spelled stated, read spelled' stated']
  · rw [ofJson, ofReading] at accepted
    cases hread : form.readText other with
    | error problem =>
      rw [hread] at accepted
      cases accepted
    | ok t =>
      have checked : t.check = .ok s := by
        rw [hread] at accepted
        exact accepted
      rw [check_eq] at checked
      split at checked
      · cases checked
      · next ordered =>
        cases checked
        exact UInt32.not_lt.mp ordered
  · rw [ofJson, refused]
    rfl

/-- Two sections out of order, unknown members on both levels, a bound left to the default. -/
theorem ofJson_overrides_reordered :
    let v : Value := .object
      [("version", .list [.integer 1, .null]),
        ("report", .object [("file_name", .text "run 1.json"), ("format", .object [])]),
        ("profiling", .object
          [("on_boot", .flag true), ("note", .text "short"), ("pc_stop", .integer 0x20000)])]
    ofJson v.pretty = .ok
      { profiling := { stop := 0x20000, onBoot := true }
        report := { fileName := "run 1.json" } } := by
  intro v
  let o : Overrides :=
    { profiling? := some { stop? := some 0x20000, onBoot? := some true }
      report? := some { fileName? := some "run 1.json" } }
  have profiling : ProfilingOverrides.StatedBy { stop? := some 0x20000, onBoot? := some true }
      ((Value.object [("on_boot", .flag true), ("note", .text "short"),
        ("pc_stop", .integer 0x20000)]).toNode .null) := by
    refine ⟨_, rfl, named_memberNodes .null _, ?_⟩
    simp only [Given, valuesOf_memberNodes]
    exact ⟨rfl, ⟨_, rfl, rfl⟩, rfl, ⟨_, rfl, rfl⟩⟩
  have report : ReportOverrides.StatedBy { fileName? := some "run 1.json" }
      ((Value.object
        [("file_name", .text "run 1.json"), ("format", .object [])]).toNode .null) := by
    refine ⟨_, rfl, named_memberNodes .null _, ?_⟩
    simp only [Given, valuesOf_memberNodes]
    exact ⟨rfl, _, rfl, .ofString "run 1.json", rfl, Quoted.text_ofString "run 1.json"⟩
  have stated : o.StatedBy (v.toNode .null) := by
    refine ⟨_, rfl, named_memberNodes .null _, ?_⟩
    simp only [Given, valuesOf_memberNodes]
    exact ⟨⟨_, rfl, profiling⟩, rfl, ⟨_, rfl, report⟩⟩
  exact (ofJson_overrides v.spelledBy_pretty stated).1.2 (by decide)

end Settings

end CycleLedger
