import CycleLedger.Proofs.Ledger.Essence
import CycleLedger.Proofs.Session.History

/-! # What reaches the statistics of a session

Of all that a session is asked to do, a few signals bear on what it counts: program counters, forced
and moved gates, cycles, and what units look at in samples. Clocks, traces and reports are none of
them, whether reports are written or refused. Two runs with the same signals show the same
statistics, and two runs that fill the same entries show the same trace.
-/

namespace CycleLedger.Session

variable {σ : Type} (storage : Storage σ)

inductive Signal where
  | observe (pc : UInt32)
  | force (enable : Bool)
  /-- gates moved on the ledger itself -/
  | gate (enable : Bool)
  | cycle
  | sample (s : Ledger.Sample)

/-- The session without its settings, clock and trace, and as if never summarized. -/
def stripped (s : Session) : Session where
  settings := {}
  ledger := s.ledger.unsummarized
  window := s.window
  cycles := s.cycles

/-- What a signal does to a session. -/
def receive (s : Session) : Signal → Session
  | .observe pc => (s.step 0 pc).result
  | .force enable => (s.setProfiling enable).result
  | .gate enable => s.setLedger (s.ledger.setEnabled enable)
  | .cycle => { s with cycles := s.cycles + 1 }
  | .sample sample => s.setLedger (s.ledger.update (.sample sample))

/-- What bears on the statistics in samples. -/
def sampleSignals (ss : List Ledger.Sample) : List Signal :=
  ss.flatMap fun s => s.essence.map .sample

/-- What bears on the statistics in an operation. -/
def Operation.signals : Operation → List Signal
  | step _ pc => [.observe pc]
  | setProfiling enable => [.force enable]
  | logCore e => [.cycle, .sample (.core e)]
  | log core fetch data prediction => .cycle :: sampleSignals
      [.core core, .lookup .instruction fetch, .lookup .data data, .prediction prediction]
  | trace _ _ | summary | finish => []
  | direct (.setEnabled enable) => [.gate enable]
  | direct op => sampleSignals op.samples

theorem receive_samples (s : Session) (ss : List Ledger.Sample) :
    (ss.map Signal.sample).foldl receive s = s.setLedger (s.ledger.after (ss.map .sample)) := by
  induction ss generalizing s with
  | nil => rfl
  | cons sample ss ih => exact ih (s.receive (.sample sample))

/-- Receiving what units look at is receiving the samples. -/
theorem receive_sampleSignals (s : Session) (ss : List Ledger.Sample) :
    (sampleSignals ss).foldl receive s = s.setLedger (s.ledger.after (ss.map .sample)) := by
  induction ss generalizing s with
  | nil => rfl
  | cons sample ss ih =>
    rw [sampleSignals, List.flatMap_cons, List.foldl_append, receive_samples,
      Ledger.after_essence]
    exact ih (s.receive (.sample sample))

/-- A session that has taken samples, stripped. -/
theorem stripped_samples (s : Session) (ss : List Ledger.Sample) :
    (s.setLedger (s.ledger.after (ss.map .sample))).stripped =
      (sampleSignals ss).foldl receive s.stripped := by
  rw [receive_sampleSignals, setLedger, stripped, Ledger.unsummarized_samples]
  rfl

theorem stripped_perform (op : Operation) (x : Session × σ) :
    (perform storage op x).result.1.stripped = op.signals.foldl receive x.1.stripped := by
  obtain ⟨s, place⟩ := x
  cases op with
  | step clock pc =>
    show (s.step clock pc).result.stripped = (s.stripped.step 0 pc).result
    rw [step_result, step_result, stripped, Ledger.unsummarized_gates]
    rfl
  | log core fetch data prediction =>
    exact stripped_samples { s with cycles := s.cycles + 1 }
      [.core core, .lookup .instruction fetch, .lookup .data data, .prediction prediction]
  | finish =>
    show (s.finish storage place).result.2.1.stripped = s.stripped
    rw [finish_frame, finish_ledger]
    split_ifs <;> rfl
  | direct op =>
    cases op with
    | addLookup kind e => exact stripped_samples s [.lookup kind e]
    | addPrediction e => exact stripped_samples s [.prediction e]
    | writeReport path =>
      show (s.setLedger (s.ledger.writeReport storage path place).result.2.1).stripped = s.stripped
      rw [Ledger.writeReport_ledger]
      rfl
    | _ => rfl
  | _ => rfl

theorem stripped_run (ops : List Operation) (x : Session × σ) :
    (run storage ops x).result.1.stripped =
      (ops.flatMap (·.signals)).foldl receive x.1.stripped := by
  induction ops generalizing x with
  | nil => rfl
  | cons op ops ih =>
    rw [run_cons, ih, stripped_perform, List.flatMap_cons, List.foldl_append]

/-- All that is shown of the statistics is what is shown of the stripped session. -/
theorem shown_of_stripped_eq {s s' : Session} (h : s.stripped = s'.stripped) :
    s.isProfiling = s'.isProfiling ∧ s.cycles = s'.cycles ∧
      s.ledger.report.result.1 = s'.ledger.report.result.1 ∧
      s.summary.result.1 = s'.summary.result.1 :=
  ⟨congrArg (·.isProfiling) h, congrArg (·.cycles) h, congrArg (·.ledger.report.result.1) h,
    congrArg (·.summary.result.1) h⟩

/--
Two runs of the same window that get the same signals agree at that point in whether they count, in
the simulated cycles, in the report and in the summary; and two runs with the same settings of the
trace that fill the same entries agree in the trace. Each run may store its reports elsewhere.
-/
theorem signals_decide_statistics {τ : Type} (storage' : Storage τ) (settings settings' : Settings)
    (place : σ) (place' : τ) (ops ops' : List Operation) :
    let s := (run storage ops (ofSettings settings, place)).result.1
    let s' := (run storage' ops' (ofSettings settings', place')).result.1
    (settings.profiling = settings'.profiling →
        ops.flatMap (·.signals) = ops'.flatMap (·.signals) →
        s.isProfiling = s'.isProfiling ∧ s.cycles = s'.cycles ∧
          s.ledger.report.result.1 = s'.ledger.report.result.1 ∧
          s.summary.result.1 = s'.summary.result.1) ∧
      (settings.trace = settings'.trace →
        ops.flatMap (·.entries) = ops'.flatMap (·.entries) →
        s.entry = s'.entry ∧ s.history = s'.history ∧ s.historyText = s'.historyText) := by
  intro s s'
  constructor
  · intro profiling signals
    have new : (ofSettings settings).stripped = (ofSettings settings').stripped := by
      simp only [ofSettings, stripped, profiling]
    apply shown_of_stripped_eq
    rw [stripped_run, stripped_run, new, signals]
  · intro trace entries
    have traced : s.Traced settings.trace _ := traced_run storage settings place ops
    have traced' : s'.Traced settings'.trace _ := traced_run storage' settings' place' ops'
    rw [← trace, ← entries] at traced'
    exact traced.congr traced'

/--
One run writes its report; the other has other clocks, more summaries, two refused reports, and
samples that differ where nobody looks.
-/
theorem signals_decide_statistics_disturbed :
    let storage : Storage Unit := ⟨fun _ _ => (.ok (), ()), fun _ _ _ => (.ok (), ())⟩
    let storage' : Storage Nat :=
      ⟨fun _ n => (.error "read-only", n), fun _ _ n => (.error "full", n + 1)⟩
    let settings : Settings := { trace := { enabled := true } }
    let settings' : Settings := { trace := { enabled := true }, report := { folder := "out" } }
    let mark (e : TraceEntry) : TraceEntry := { e with taken := true }
    let ops : List Operation := [.step 1 0x10000, .trace 1 mark,
      .log (.frontendBound true) (.readHit 4) (.writeMiss 8 true) (.prediction true), .finish,
      .direct (.addLookup .data { hit := true }), .logCore .retiring]
    let ops' : List Operation := [.step 9 0x10000, .direct (.writeReport "r"),
      .log (.frontendBound true)
        { accessed := true, hit := true, miss := true, writeback := true, size := 64 }
        { accessed := true, miss := true, writeback := true, isStore := true, outcome := .hit }
        { accessed := true, hit := true, isStore := true }, .trace 1 mark, .summary, .finish,
      .logCore .retiring]
    let s := (run storage ops (ofSettings settings, ())).result.1
    let s' := (run storage' ops' (ofSettings settings', 0)).result.1
    s.summary.result.1 = s'.summary.result.1 ∧
      s.ledger.report.result.1 = s'.ledger.report.result.1 ∧ s.isProfiling = s'.isProfiling ∧
      s.cycles = s'.cycles ∧ s.historyText = s'.historyText := by
  intro storage storage' settings settings' mark ops ops' s s'
  obtain ⟨statistics, trace⟩ :=
    signals_decide_statistics storage storage' settings settings' () 0 ops ops'
  obtain ⟨gate, cycles, report, summary⟩ := statistics rfl rfl
  exact ⟨summary, report, gate, cycles, (trace rfl rfl).2.2⟩

end CycleLedger.Session
