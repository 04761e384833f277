import CycleLedger.FileTree
import CycleLedger.Proofs.Ledger.Run

/-! # What a refused report leaves behind

A report is taken before it is stored, so a ledger whose report is refused has been summarized all
the same. Nothing else of it changes: it is as it was exactly if the predictor had already been
handed the retired instructions of the moment.
-/

namespace CycleLedger.Ledger

/-- What a refused report leaves of a ledger. -/
structure LeftBehind (l left : Ledger) : Prop where
  core : left.core = l.core
  instructionCache : left.instructionCache = l.instructionCache
  dataCache : left.dataCache = l.dataCache
  predictor : left.predictor = { l.predictor with retired := l.core.retired }
  /-- the exact condition for leaving no trace -/
  unchanged_iff : left = l ↔ l.predictor.retired = l.core.retired
  figures_unchanged_iff :
    left.predictor.figures = l.predictor.figures ↔ l.predictor.retired = l.core.retired

theorem summarize_eq_self_iff (l : Ledger) :
    l.summarize = l ↔ l.predictor.retired = l.core.retired := by
  constructor
  · intro h
    exact (congrArg (·.predictor.retired) h).symm
  · intro h
    unfold summarize PredictorCounters.summarize
    rw [← h]

theorem leftBehind_summarize (l : Ledger) : l.LeftBehind l.summarize where
  core := rfl
  instructionCache := rfl
  dataCache := rfl
  predictor := rfl
  unchanged_iff := l.summarize_eq_self_iff
  figures_unchanged_iff := by
    constructor
    · intro h
      exact (congrArg (·.retired) h).symm
    · intro h
      rw [l.summarize_eq_self_iff.2 h]

/-- Whether a file or a stream refuses the report, the ledger keeps only its summary of it. -/
theorem refused_report {σ : Type} (storage : Storage σ) (path : String) (place : σ) (sink : Sink)
    (l : Ledger) :
    (∀ f, (l.writeReport storage path place).result.1 = .error f →
        l.LeftBehind (l.writeReport storage path place).result.2.1) ∧
      ∀ fault, (l.deliver sink).result.1.fault? = some fault →
        l.LeftBehind (l.deliver sink).result.2 := by
  constructor
  · intro _ _
    rw [writeReport_ledger]
    exact l.leftBehind_summarize
  · intro _ _
    exact l.leftBehind_summarize

/-- Behind a report a refused one leaves no trace. -/
theorem refused_report_second :
    let ops : List Operation := [.setEnabled true, .addCore .retiring,
      .addPrediction (.prediction false), .report]
    let x := (run FileTree.storage ops ({}, FileTree.empty)).result
    let outcome := (x.1.writeReport FileTree.storage "missing/hw_stats.json" x.2).result
    outcome.1.isOk = false ∧ outcome.2.1 = x.1 := by
  intro ops x outcome
  have hfailed : outcome.1.isOk = false := by decide +kernel
  refine ⟨hfailed, ?_⟩
  cases h : outcome.1 with
  | ok _ => simp [h, Except.isOk, Except.toBool] at hfailed
  | error f =>
    have left := (refused_report FileTree.storage "missing/hw_stats.json" x.2 ⟨none, false, false⟩
      x.1).1 f h
    exact left.unchanged_iff.2 (by decide +kernel)

/--
Without a report before it, a refused one changes the predictor, whether the folder of its file is
missing or its stream is full: the misprediction rate is undefined before and one afterwards.
-/
theorem refused_report_changes_predictor :
    let ops : List Operation := [.setEnabled true, .addCore .retiring,
      .addPrediction (.prediction false)]
    let x := (run FileTree.storage ops ({}, FileTree.empty)).result
    let written := (x.1.writeReport FileTree.storage "missing/hw_stats.json" x.2).result
    let delivered := (x.1.deliver ⟨some 0, false, false⟩).result
    x.1.predictor.mispredictionRate = .undefined ∧
      (written.1.isOk = false ∧ written.2.1 ≠ x.1 ∧
        written.2.1.predictor.mispredictionRate = .ratio 1 1) ∧
      delivered.1.fault? = some .full ∧ delivered.2 ≠ x.1 ∧
        delivered.2.predictor.mispredictionRate = .ratio 1 1 := by
  decide +kernel

end CycleLedger.Ledger
