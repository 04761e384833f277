import CycleLedger.Forms.Access
import CycleLedger.Report

/-! # Written form of reports

A row is a list of its category, its subcategory or null, and its cycles. Every member of a report
is required, but a metric that is absent is undefined.
-/

namespace CycleLedger

open Json

def Category.form : Form Category where
  shape := .choice ["bad_spec", "frontend", "backend", "retiring"]
  ofCarrier := fun (i : Fin 4) => match i with
    | 0 => .badSpeculation
    | 1 => .frontend
    | 2 => .backend
    | 3 => .retiring
  toCarrier := fun c => match c with
    | .badSpeculation => (0 : Fin 4)
    | .frontend => (1 : Fin 4)
    | .backend => (2 : Fin 4)
    | .retiring => (3 : Fin 4)
  ofCarrier_toCarrier c := by cases c <;> rfl

def Subcategory.form : Form Subcategory where
  shape := .choice ["icache", "dcache", "core", "integer", "simd"]
  ofCarrier := fun (i : Fin 5) => match i with
    | 0 => .instructionCache
    | 1 => .dataCache
    | 2 => .core
    | 3 => .integer
    | 4 => .simd
  toCarrier := fun c => match c with
    | .instructionCache => (0 : Fin 5)
    | .dataCache => (1 : Fin 5)
    | .core => (2 : Fin 5)
    | .integer => (3 : Fin 5)
    | .simd => (4 : Fin 5)
  ofCarrier_toCarrier c := by cases c <;> rfl

/-- The shape of a counter. -/
def countShape : Shape := .word 64 "u64"

def Row.form : Form Row where
  shape := .row "tuple struct TdaEntry" "tuple struct TdaEntry with 3 elements" <|
    .cons "category" .required Category.form.shape <|
    .cons "subcategory" .required (.nullable Subcategory.form.shape) <|
    .cons "cycles" .required countShape .nil
  ofCarrier := fun (category, subcategory?, cycles, _) =>
    { category := Category.form.ofCarrier category
      subcategory? := subcategory?.map Subcategory.form.ofCarrier
      cycles := UInt64.ofBitVec cycles }
  toCarrier := fun r =>
    (Category.form.toCarrier r.category, r.subcategory?.map Subcategory.form.toCarrier,
      r.cycles.toBitVec, ())
  ofCarrier_toCarrier r := by
    obtain ⟨category, subcategory?, cycles⟩ := r
    cases category <;> rcases subcategory? with _ | subcategory <;> try rfl
    all_goals cases subcategory <;> rfl

def PredictorFigures.form : Form PredictorFigures where
  shape := .record "BranchReport" <|
    .cons "predictions" .required countShape <|
    .cons "correct" .required countShape <|
    .cons "mispredicted" .required countShape <|
    .cons "retired_insts" .required countShape <|
    .cons "accuracy" .required Metric.form.shape <|
    .cons "mispredict_rate" .required Metric.form.shape .nil
  ofCarrier := fun (predictions, correct, mispredicted, retired, accuracy, mispredictionRate, _) =>
    { predictions := UInt64.ofBitVec predictions
      correct := UInt64.ofBitVec correct
      mispredicted := UInt64.ofBitVec mispredicted
      retired := UInt64.ofBitVec retired
      accuracy := Metric.form.ofCarrier accuracy
      mispredictionRate := Metric.form.ofCarrier mispredictionRate }
  toCarrier := fun p =>
    (p.predictions.toBitVec, p.correct.toBitVec, p.mispredicted.toBitVec, p.retired.toBitVec,
      Metric.form.toCarrier p.accuracy, Metric.form.toCarrier p.mispredictionRate, ())
  ofCarrier_toCarrier p := by
    simp only [Metric.form.ofCarrier_toCarrier]

def CacheFigures.form : Form CacheFigures where
  shape := .record "CacheReport" <|
    .cons "read_referenced" .required countShape <|
    .cons "read_hit" .required countShape <|
    .cons "read_miss" .required countShape <|
    .cons "read_hit_rate" .required Metric.form.shape <|
    .cons "write_referenced" .required countShape <|
    .cons "write_hit" .required countShape <|
    .cons "write_miss" .required countShape <|
    .cons "write_hit_rate" .required Metric.form.shape <|
    .cons "writeback" .required countShape .nil
  ofCarrier := fun (readReferences, readHits, readMisses, readHitRate, writeReferences, writeHits,
      writeMisses, writeHitRate, writebacks, _) =>
    { readReferences := UInt64.ofBitVec readReferences
      readHits := UInt64.ofBitVec readHits
      readMisses := UInt64.ofBitVec readMisses
      readHitRate := Metric.form.ofCarrier readHitRate
      writeReferences := UInt64.ofBitVec writeReferences
      writeHits := UInt64.ofBitVec writeHits
      writeMisses := UInt64.ofBitVec writeMisses
      writeHitRate := Metric.form.ofCarrier writeHitRate
      writebacks := UInt64.ofBitVec writebacks }
  toCarrier := fun c =>
    (c.readReferences.toBitVec, c.readHits.toBitVec, c.readMisses.toBitVec,
      Metric.form.toCarrier c.readHitRate,
      c.writeReferences.toBitVec, c.writeHits.toBitVec, c.writeMisses.toBitVec,
      Metric.form.toCarrier c.writeHitRate, c.writebacks.toBitVec, ())
  ofCarrier_toCarrier c := by
    simp only [Metric.form.ofCarrier_toCarrier]

/-- The seven rows of a breakdown. -/
def rowsForm : Form (Vector Row 7) where
  shape := .row "an array of length 7" "an array of length 7" <|
    .cons "0" .required Row.form.shape <|
    .cons "1" .required Row.form.shape <|
    .cons "2" .required Row.form.shape <|
    .cons "3" .required Row.form.shape <|
    .cons "4" .required Row.form.shape <|
    .cons "5" .required Row.form.shape <|
    .cons "6" .required Row.form.shape .nil
  ofCarrier := fun (a, b, c, d, e, f, g, _) =>
    #v[Row.form.ofCarrier a, Row.form.ofCarrier b, Row.form.ofCarrier c, Row.form.ofCarrier d,
      Row.form.ofCarrier e, Row.form.ofCarrier f, Row.form.ofCarrier g]
  toCarrier := fun rows =>
    (Row.form.toCarrier rows[0], Row.form.toCarrier rows[1], Row.form.toCarrier rows[2],
      Row.form.toCarrier rows[3], Row.form.toCarrier rows[4], Row.form.toCarrier rows[5],
      Row.form.toCarrier rows[6], ())
  ofCarrier_toCarrier rows := by
    simp only [Row.form.ofCarrier_toCarrier]
    ext i hi
    match i, hi with
    | 0, _ | 1, _ | 2, _ | 3, _ | 4, _ | 5, _ | 6, _ => rfl

def Report.form : Form Report where
  shape := .record "HwReport" <|
    .cons "core" .required rowsForm.shape <|
    .cons "bpred" .required PredictorFigures.form.shape <|
    .cons "icache" .required CacheFigures.form.shape <|
    .cons "dcache" .required CacheFigures.form.shape <|
    .cons "_done" .required .flag .nil
  ofCarrier := fun (core, predictor, instructionCache, dataCache, done, _) =>
    { core := rowsForm.ofCarrier core
      predictor := PredictorFigures.form.ofCarrier predictor
      instructionCache := CacheFigures.form.ofCarrier instructionCache
      dataCache := CacheFigures.form.ofCarrier dataCache
      done := done }
  toCarrier := fun r =>
    (rowsForm.toCarrier r.core, PredictorFigures.form.toCarrier r.predictor,
      CacheFigures.form.toCarrier r.instructionCache, CacheFigures.form.toCarrier r.dataCache,
      r.done, ())
  ofCarrier_toCarrier r := by
    simp only [rowsForm.ofCarrier_toCarrier, PredictorFigures.form.ofCarrier_toCarrier,
      CacheFigures.form.ofCarrier_toCarrier]

end CycleLedger
