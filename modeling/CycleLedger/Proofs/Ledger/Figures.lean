import CycleLedger.Proofs.Core.Breakdown
import CycleLedger.Proofs.Ledger.Counts

/-! # How the figures of a report hang together

A report brings together four units that count by themselves, and one figure of the predictor that
the core supplies. Whatever has happened to a ledger before, the figures of its report agree with
one another, within each section and across them.
-/

namespace CycleLedger

theorem Metric.ratio_eq_undefined_iff {num den : UInt64} :
    Metric.ratio num den = .undefined ↔ den = 0 := by
  unfold ratio
  split_ifs with h <;> simp [h]

/-- The elements with a flag are those that have another one too and those that have not. -/
theorem countP_split {α : Type} (es : List α) (p q : α → Bool) :
    es.countP p = es.countP (fun e => p e && q e) + es.countP fun e => p e && !q e := by
  rw [es.countP_eq_countP_filter_add p q, List.countP_filter, List.countP_filter]

/-! ## What a coherent report is -/

structure PredictorFigures.Coherent (f : PredictorFigures) : Prop where
  /-- Over the naturals: no more predictions are correct than there are. -/
  outcomes : f.correct.toNat + f.mispredicted.toNat = f.predictions.toNat
  accuracy : f.accuracy = .undefined ↔ f.predictions = 0
  mispredictionRate : f.mispredictionRate = .undefined ↔ f.retired = 0

structure CacheFigures.Coherent (f : CacheFigures) : Prop where
  reads : f.readHits.toNat + f.readMisses.toNat ≤ f.readReferences.toNat
  writes : f.writeHits.toNat + f.writeMisses.toNat ≤ f.writeReferences.toNat
  writebacks : f.writebacks.toNat ≤ f.readMisses.toNat + f.writeMisses.toNat
  readHitRate : f.readHitRate = .undefined ↔ f.readReferences = 0
  writeHitRate : f.writeHitRate = .undefined ↔ f.writeReferences = 0

structure Report.Coherent (r : Report) : Prop where
  /-- The predictor is related to the retiring rows of the same report, modulo 2^64. -/
  retired : r.predictor.retired.toNat =
    ((r.core.get 5).cycles.toNat + (r.core.get 6).cycles.toNat) % 2 ^ 64
  predictor : r.predictor.Coherent
  instructionCache : r.instructionCache.Coherent
  dataCache : r.dataCache.Coherent

/-! ## What counting makes of each unit -/

namespace CoreCounters

variable {es : List CoreSample} {c : CoreCounters}

/-- Without a cycle no flag has been counted either. -/
theorem Counts.retired_eq_zero (h : c.Counts es) (idle : c.cycles = 0) : c.retired = 0 := by
  have empty : es = [] := by
    apply List.eq_nil_of_length_eq_zero
    rw [← h.cycles, idle]
    rfl
  subst empty
  have badSpeculation : c.badSpeculation = 0 := UInt64.toNat_inj.mp h.badSpeculation
  have frontend : c.frontend = 0 := UInt64.toNat_inj.mp h.frontend
  have backend : c.backend = 0 := UInt64.toNat_inj.mp h.backend
  rw [retired, idle, badSpeculation, frontend, backend]
  rfl

theorem Counts.instructionsPerCycle_eq_undefined_iff (h : c.Counts es) :
    c.breakdown.instructionsPerCycle = .undefined ↔ c.retired = 0 := by
  show (if c.retired = 0 then Metric.undefined else .ratio c.retired c.cycles) = .undefined ↔ _
  split_ifs with zero
  · simp [zero]
  · rw [Metric.ratio_eq_undefined_iff]
    exact ⟨h.retired_eq_zero, fun retired => absurd retired zero⟩

theorem Counts.cyclesPerInstruction_eq_undefined_iff (h : c.Counts es) :
    c.breakdown.cyclesPerInstruction = .undefined ↔ c.retired = 0 := by
  show (if c.cycles = 0 then Metric.undefined else .ratio c.cycles c.retired) = .undefined ↔ _
  split_ifs with idle
  · simp [h.retired_eq_zero idle]
  · exact Metric.ratio_eq_undefined_iff

end CoreCounters

namespace CacheCounters

variable {es : List LookupSample} {c : CacheCounters}

theorem Counts.outcomes_le (h : c.Counts es) (d : Direction) :
    (c.lookups d).hits.toNat + (c.lookups d).misses.toNat ≤ (c.lookups d).references.toNat := by
  rw [h.hits, h.misses, h.references, countP_split es (·.refers d) (·.hit)]
  apply Nat.add_le_add_left
  apply List.countP_mono_left
  intro e _ missed
  simp only [LookupSample.misses, Bool.and_eq_true] at missed
  rw [missed.1, missed.2.2]
  rfl

/-- Each written-back line belongs to a miss of one direction. -/
theorem Counts.writebacks_le (h : c.Counts es) :
    c.writebacks.toNat ≤ c.read.misses.toNat + c.write.misses.toNat := by
  have split := countP_split es (fun e => e.accessed && e.misses) (·.isStore)
  have writes : c.write.misses.toNat =
      es.countP fun e => e.accessed && e.misses && e.isStore := by
    simp only [Bool.and_right_comm]
    exact h.misses .write
  have reads : c.read.misses.toNat =
      es.countP fun e => e.accessed && e.misses && !e.isStore := by
    simp only [Bool.and_right_comm]
    exact h.misses .read
  rw [h.writebacks, reads, writes, Nat.add_comm, ← split]
  apply List.countP_mono_left
  intro e _ flags
  exact (Bool.and_eq_true_iff.mp flags).1

theorem Counts.coherent (h : c.Counts es) : c.figures.Coherent where
  reads := h.outcomes_le .read
  writes := h.outcomes_le .write
  writebacks := h.writebacks_le
  readHitRate := Metric.ratio_eq_undefined_iff
  writeHitRate := Metric.ratio_eq_undefined_iff

end CacheCounters

theorem PredictorCounters.Counts.coherent {es : List LookupSample} {c : PredictorCounters}
    (h : c.Counts es) : c.figures.Coherent where
  outcomes := by
    have enough : c.correct.toNat ≤ c.total.toNat := by
      rw [h.correct, h.total]
      apply List.countP_mono_left
      intro e _ flags
      exact (Bool.and_eq_true_iff.mp flags).1
    exact (toNat_add_toNat_sub_eq_iff c.total c.correct).2 enough
  accuracy := Metric.ratio_eq_undefined_iff
  mispredictionRate := Metric.ratio_eq_undefined_iff

namespace Ledger

theorem Counts.coherent_report {ss : List Sample} {l : Ledger} (h : l.Counts ss) :
    l.report.result.1.Coherent where
  retired := by
    have parts : l.core.retired = (l.core.retired - l.core.simd) + l.core.simd := by grind
    show l.core.retired.toNat = _
    rw [parts, UInt64.toNat_add]
    rfl
  predictor := h.summarize.predictor.coherent
  instructionCache := (h.cache .instruction).coherent
  dataCache := (h.cache .data).coherent

/-! ## Every report -/

theorem counted_sublist (ops : List Operation) (enable : Bool) :
    (counted enable (ops.map (·.update))).Sublist (ops.flatMap (·.samples)) := by
  induction ops generalizing enable with
  | nil => exact List.Sublist.refl []
  | cons op ops ih =>
    rw [List.flatMap_cons, List.map_cons]
    cases op with
    | addCore e | addLookup kind e | addPrediction e =>
      cases enable with
      | false => exact (ih false).trans (List.sublist_append_right _ _)
      | true => exact (ih true).cons_cons _
    | _ => exact ih _

theorem counts_run {σ : Type} (storage : Storage σ) (place : σ) (ops : List Operation)
    (few : (ops.flatMap (·.samples)).length < 2 ^ 64) :
    (run storage ops ({}, place)).result.1.Counts (counted false (ops.map (·.update))) := by
  have closed : ({} : Ledger).GatesAgree false := gatesAgree_setEnabled false {}
  have within := within_length (counted false (ops.map (·.update)))
  have short := (counted_sublist ops false).length_le
  rw [run_ledger]
  exact counts_initial.after closed _ (within.mono (by omega))

/--
In every report of a ledger that was sent fewer than 2^64 samples the figures agree, however gates
moved in between and whatever reports were taken, written or refused before. The two ratios of the
core are undefined exactly if the misprediction rate is.
-/
theorem report_coheres {σ : Type} (storage : Storage σ) (place : σ) (ops : List Operation)
    (few : (ops.flatMap (·.samples)).length < 2 ^ 64) :
    let l := (run storage ops ({}, place)).result.1
    let r := l.report.result.1
    let b := l.core.finalize.result
    r.Coherent ∧
      (b.instructionsPerCycle = .undefined ↔ r.predictor.mispredictionRate = .undefined) ∧
      (b.cyclesPerInstruction = .undefined ↔ r.predictor.mispredictionRate = .undefined) := by
  intro l r b
  have counts : l.Counts _ := counts_run storage place ops few
  have rate : r.predictor.mispredictionRate = .undefined ↔ l.core.retired = 0 :=
    Metric.ratio_eq_undefined_iff
  rw [rate]
  exact ⟨counts.coherent_report, counts.core.instructionsPerCycle_eq_undefined_iff,
    counts.core.cyclesPerInstruction_eq_undefined_iff⟩

/--
Overlapping flags leave no retired instruction although cycles were counted: the integer row has
wrapped, and the ratios are undefined. The report before, and a refused one, supplied other numbers.
-/
theorem report_coheres_wrapped :
    let storage : Storage Unit :=
      ⟨fun _ _ => (.error "read-only", ()), fun _ _ _ => (.error "read-only", ())⟩
    let ops : List Operation := [.setEnabled true,
      .addCore { badSpeculation := true, frontend := true, simd := true },
      .addPrediction (.prediction false), .report, .addLookup .data (.writeMiss 4 true),
      .writeReport "hw_stats.json", .addCore .retiring,
      .addLookup .data { accessed := true, hit := true, miss := true, isStore := true },
      .setEnabled false, .addPrediction (.prediction true)]
    let l := (run storage ops ({}, ())).result.1
    let r := l.report.result.1
    (ops.flatMap (·.samples)).length < 2 ^ 64 ∧ l.core.cycles = 2 ∧
      (r.core.get 5).cycles.toNat = 2 ^ 64 - 1 ∧
      r.predictor.retired.toNat = (2 ^ 64 - 1 + (r.core.get 6).cycles.toNat) % 2 ^ 64 ∧
      r.predictor.correct.toNat + r.predictor.mispredicted.toNat = 1 ∧
      r.dataCache.writeHits.toNat + r.dataCache.writeMisses.toNat ≤ 2 ∧
      r.dataCache.writebacks.toNat ≤ 0 + 1 ∧
      l.core.finalize.result.instructionsPerCycle = .undefined := by
  intro storage ops l r
  have few : (ops.flatMap (·.samples)).length < 2 ^ 64 := by decide
  obtain ⟨coherent, ratio, -⟩ := report_coheres storage () ops few
  have integer : (r.core.get 5).cycles.toNat = 2 ^ 64 - 1 := by decide
  refine ⟨few, by decide, integer, integer ▸ coherent.retired, coherent.predictor.outcomes,
    coherent.dataCache.writes, coherent.dataCache.writebacks, ratio.2 ?_⟩
  exact coherent.predictor.mispredictionRate.2 (by decide)

end Ledger

end CycleLedger
