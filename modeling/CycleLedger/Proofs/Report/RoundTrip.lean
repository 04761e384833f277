import CycleLedger.Ledger
import CycleLedger.Proofs.Binary64.Ratio
import CycleLedger.Proofs.Report.Truncation

/-! # Reports read back

Whether a report is written indented, compact or to a sink, it is read back as settled. The ratios
of a ledger are finite or undefined, so its report is read back as it is, and reports like it that
differ have documents that differ.
-/

namespace CycleLedger

open Json

theorem Metric.IsFinite.settled_eq {m : Metric} (h : m.IsFinite) : m.settled = m := by
  cases m with
  | undefined => rfl
  | value x => rw [settled, if_pos (h x rfl)]

namespace Report

/-- Every ratio of the report is undefined or a finite number. -/
def MetricsFinite (r : Report) : Prop := ∀ m ∈ r.metrics, m.IsFinite

theorem MetricsFinite.settled_eq {r : Report} (h : r.MetricsFinite) : r.settled = r := by
  have settle (m : Metric) (hm : m ∈ r.metrics) : m.settled = m := (h m hm).settled_eq
  have predictor : r.predictor.settled = r.predictor := by
    rw [PredictorFigures.settled, settle r.predictor.accuracy (by simp [metrics]),
      settle r.predictor.mispredictionRate (by simp [metrics])]
  have instructionCache : r.instructionCache.settled = r.instructionCache := by
    rw [CacheFigures.settled, settle r.instructionCache.readHitRate (by simp [metrics]),
      settle r.instructionCache.writeHitRate (by simp [metrics])]
  have dataCache : r.dataCache.settled = r.dataCache := by
    rw [CacheFigures.settled, settle r.dataCache.readHitRate (by simp [metrics]),
      settle r.dataCache.writeHitRate (by simp [metrics])]
  rw [settled, predictor, instructionCache, dataCache]

theorem ofJson_toJson (r : Report) : ofJson r.toJson = .ok r.settled := by
  have read := @ofBytes_toJson r [] nofun
  rwa [List.append_nil] at read

theorem ofJson_compact (r : Report) : ofJson (form.compact r) = .ok r.settled := by
  have read := @ofBytes_laid .compact Spacing.compact_blank r [] nofun
  rw [List.append_nil, ← bytes_compact 0] at read
  exact read

/-- A delivery without a fault has taken the whole document. -/
theorem ofBytes_deliver (r : Report) {sink : Sink} (h : (r.deliver sink).fault? = none) :
    ofBytes (r.deliver sink).taken = .ok r.settled := by
  have holds := ((sink.deliver_fault?_eq_none_iff _).1 h).1
  have taken : (r.deliver sink).taken = Text.bytes r.document := by
    rw [deliver, sink.deliver_whole holds]
    rfl
  rw [taken, bytes_document]
  refine r.ofBytes_toJson fun b hb => ?_
  rw [List.mem_singleton.mp hb]
  rfl

theorem eq_of_toJson_eq {r other : Report} (h : r.MetricsFinite) (hother : other.MetricsFinite)
    (same : r.toJson = other.toJson) : r = other := by
  have read := r.ofJson_toJson
  rw [same, ofJson_toJson, h.settled_eq, hother.settled_eq] at read
  exact (Except.ok.inj read).symm

end Report

/-- The ratios of a ledger are ratios of its counters. -/
theorem Ledger.metricsFinite_report (l : Ledger) : l.report.result.1.MetricsFinite := by
  intro m hm
  simp only [Report.metrics, List.mem_cons, List.not_mem_nil, or_false] at hm
  rcases hm with rfl | rfl | rfl | rfl | rfl | rfl <;> exact Metric.isFinite_ratio _ _

/--
A report is read back with those metrics undefined that are no finite numbers, and the report of a
ledger has none of these. A sink that has room for the document and is flushed takes it without a
fault.
-/
theorem Report.read_back (r : Report) :
    ofJson r.toJson = .ok r.settled ∧ ofJson (form.compact r) = .ok r.settled ∧
      (∀ sink, ((r.deliver sink).fault? = none ↔
          sink.Holds (Text.bytes r.document).length ∧ sink.flushFails = false) ∧
        ((r.deliver sink).fault? = none → ofBytes (r.deliver sink).taken = .ok r.settled)) ∧
      (∀ l : Ledger, l.report.result.1.settled = l.report.result.1) ∧
      (r.MetricsFinite → ∀ other : Report, other.MetricsFinite → r.toJson = other.toJson →
        r = other) := by
  refine ⟨r.ofJson_toJson, r.ofJson_compact, ?_, ?_, ?_⟩
  · intro sink
    exact ⟨sink.deliver_fault?_eq_none_iff _, r.ofBytes_deliver⟩
  · intro l
    exact l.metricsFinite_report.settled_eq
  · intro h other hother same
    exact eq_of_toJson_eq h hother same

/-- Extreme counts, a negative zero and a metric that is no number, delivered without a limit. -/
theorem Report.read_back_extremes :
    let most : UInt64 := 0xFFFFFFFFFFFFFFFF
    let cache : CacheFigures :=
      ⟨most, most, most, .value ⟨0x8000000000000000⟩, most, most, most, .value ⟨1⟩, most⟩
    let r : Report :=
      { core := Vector.replicate 7 ⟨.retiring, none, most⟩
        predictor := ⟨most, 0, most, most, .value ⟨0x7FF8000000000000⟩, .undefined⟩
        instructionCache := cache
        dataCache := cache
        done := false }
    let sink : Sink := ⟨none, true, false⟩
    (r.deliver sink).fault? = none ∧
      ofBytes (r.deliver sink).taken =
        .ok { r with predictor := { r.predictor with accuracy := .undefined } } ∧
      ofJson r.toJson = ofJson (form.compact r) := by
  intro most cache r sink
  obtain ⟨indented, compact, delivered, -⟩ := read_back r
  obtain ⟨faultless, read⟩ := delivered sink
  have taken : (r.deliver sink).fault? = none := faultless.2 ⟨nofun, rfl⟩
  have settled : r.settled =
      { r with predictor := { r.predictor with accuracy := .undefined } } := by
    decide
  exact ⟨taken, settled ▸ read taken, indented.trans compact.symm⟩

end CycleLedger
