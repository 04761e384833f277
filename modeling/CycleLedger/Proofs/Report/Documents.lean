import CycleLedger.Proofs.Json.Documents
import CycleLedger.Report.Text

/-! # Documents of reports

A metric that is no finite number is written as undefined, so a report is read back as settled. Its
document is ASCII, and no proper beginning of it is read.
-/

namespace CycleLedger

open Json

namespace Metric

/-- The metric as it is read back. -/
def settled : Metric → Metric
  | undefined => undefined
  | value x => if x.isFinite then value x else undefined

theorem toValue_settled (m : Metric) : form.toValue m.settled = form.toValue m := by
  cases m with
  | undefined => rfl
  | value x =>
    have written : form.toValue (value x) = if x.isFinite then .real x else .null := rfl
    rw [settled]
    split_ifs with finite
    · rfl
    · rw [written, if_neg finite]
      rfl

theorem finite_settled (m : Metric) : form.shape.Finite (form.toCarrier m.settled) := by
  intro w h
  cases m with
  | undefined => cases h
  | value x =>
    rw [settled] at h
    split_ifs at h with finite
    · obtain rfl : x = w := Option.some.inj h
      exact finite
    · cases h

end Metric

namespace PredictorFigures

def settled (p : PredictorFigures) : PredictorFigures :=
  { p with accuracy := p.accuracy.settled, mispredictionRate := p.mispredictionRate.settled }

theorem toValue_settled (p : PredictorFigures) : form.toValue p.settled = form.toValue p := by
  have written (q : PredictorFigures) : form.toValue q = .object
      [("predictions", .integer q.predictions.toNat), ("correct", .integer q.correct.toNat),
        ("mispredicted", .integer q.mispredicted.toNat),
        ("retired_insts", .integer q.retired.toNat),
        ("accuracy", Metric.form.toValue q.accuracy),
        ("mispredict_rate", Metric.form.toValue q.mispredictionRate)] := rfl
  simp only [written, settled, Metric.toValue_settled]

theorem finite_settled (p : PredictorFigures) : form.shape.Finite (form.toCarrier p.settled) :=
  ⟨trivial, trivial, trivial, trivial, p.accuracy.finite_settled,
    p.mispredictionRate.finite_settled, trivial⟩

end PredictorFigures

namespace CacheFigures

def settled (c : CacheFigures) : CacheFigures :=
  { c with readHitRate := c.readHitRate.settled, writeHitRate := c.writeHitRate.settled }

theorem toValue_settled (c : CacheFigures) : form.toValue c.settled = form.toValue c := by
  have written (d : CacheFigures) : form.toValue d = .object
      [("read_referenced", .integer d.readReferences.toNat),
        ("read_hit", .integer d.readHits.toNat), ("read_miss", .integer d.readMisses.toNat),
        ("read_hit_rate", Metric.form.toValue d.readHitRate),
        ("write_referenced", .integer d.writeReferences.toNat),
        ("write_hit", .integer d.writeHits.toNat), ("write_miss", .integer d.writeMisses.toNat),
        ("write_hit_rate", Metric.form.toValue d.writeHitRate),
        ("writeback", .integer d.writebacks.toNat)] := rfl
  simp only [written, settled, Metric.toValue_settled]

theorem finite_settled (c : CacheFigures) : form.shape.Finite (form.toCarrier c.settled) :=
  ⟨trivial, trivial, trivial, c.readHitRate.finite_settled, trivial, trivial, trivial,
    c.writeHitRate.finite_settled, trivial, trivial⟩

end CacheFigures

theorem Row.finite (r : Row) : form.shape.Finite (form.toCarrier r) :=
  ⟨trivial, fun _ _ => trivial, trivial, trivial⟩

theorem rows_finite (rows : Vector Row 7) : rowsForm.shape.Finite (rowsForm.toCarrier rows) :=
  ⟨Row.finite _, Row.finite _, Row.finite _, Row.finite _, Row.finite _, Row.finite _,
    Row.finite _, trivial⟩

namespace Report

/-- The report as it is read back. -/
def settled (r : Report) : Report :=
  { r with
    predictor := r.predictor.settled
    instructionCache := r.instructionCache.settled
    dataCache := r.dataCache.settled }

theorem toValue_settled (r : Report) : form.toValue r.settled = form.toValue r := by
  have written (q : Report) : form.toValue q = .object
      [("core", rowsForm.toValue q.core), ("bpred", PredictorFigures.form.toValue q.predictor),
        ("icache", CacheFigures.form.toValue q.instructionCache),
        ("dcache", CacheFigures.form.toValue q.dataCache), ("_done", .flag q.done)] := rfl
  simp only [written, settled, PredictorFigures.toValue_settled, CacheFigures.toValue_settled]

theorem finite_settled (r : Report) : form.shape.Finite (form.toCarrier r.settled) :=
  ⟨rows_finite r.core, r.predictor.finite_settled, r.instructionCache.finite_settled,
    r.dataCache.finite_settled, trivial, trivial⟩

theorem faithful_form : form.shape.faithful = true := by decide

theorem ascii_form : form.shape.ascii = true := by decide

theorem bytes_toJson (r : Report) : Text.bytes r.toJson = (form.toValue r).laid .indented 0 :=
  bytes_indented 0 _

theorem sevenBit_toJson (r : Report) : Text.SevenBit (Text.bytes r.toJson) := by
  rw [bytes_toJson]
  exact form.shape.sevenBit_encode Spacing.indented_blank ascii_form (form.toCarrier r) 0

/-- However a report is laid out, its bytes are read as the report, blanks behind them or not. -/
theorem ofBytes_laid {spacing : Spacing} (hspacing : spacing.Blank) (r : Report)
    {blanks : List UInt8} (blank : ∀ b ∈ blanks, Ascii.isBlank b = true) :
    ofBytes ((form.toValue r).laid spacing 0 ++ blanks) = .ok r.settled := by
  have read := Shape.readBytes_laid hspacing faithful_form r.finite_settled blank
  rw [← toValue_settled, Form.toValue, ofBytes, Form.readBytes, read]
  exact congrArg Except.ok (form.ofCarrier_toCarrier r.settled)

theorem ofBytes_toJson (r : Report) {blanks : List UInt8}
    (blank : ∀ b ∈ blanks, Ascii.isBlank b = true) :
    ofBytes (Text.bytes r.toJson ++ blanks) = .ok r.settled := by
  rw [bytes_toJson]
  exact r.ofBytes_laid Spacing.indented_blank blank

/-- Of a cut document the end is missing, and nothing else is wrong. -/
theorem ofBytes_cut (r : Report) {p : List UInt8} (hp : p <+: Text.bytes r.toJson)
    (hne : p ≠ Text.bytes r.toJson) : ofBytes p = .error (.encoding (.fault .truncated)) := by
  rw [bytes_toJson, ← toValue_settled] at hp hne
  have read := Shape.readBytes_cut Spacing.indented_blank faithful_form r.finite_settled hp hne
  rw [ofBytes, Form.readBytes]
  exact congrArg (fun x => (Except.map form.ofCarrier x).mapError Failure.encoding) read

end Report

end CycleLedger
