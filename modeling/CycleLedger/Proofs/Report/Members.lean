import CycleLedger.Proofs.Json.Removal
import CycleLedger.Proofs.Report.RoundTrip

/-! # Reports by their members

What is read of a report depends on the members of its document and not on their order or layout. A
ratio that is missing is undefined, but no section, counter or mark may be missing, no known member
may be repeated, and the rows keep their number and size.
-/

namespace CycleLedger

open Json

/-! ## Ratios that are missing -/

def PredictorFigures.lacking (gone : List String → Bool) (p : PredictorFigures) :
    PredictorFigures :=
  { p with
    accuracy := if gone ["accuracy"] then .undefined else p.accuracy
    mispredictionRate := if gone ["mispredict_rate"] then .undefined else p.mispredictionRate }

def CacheFigures.lacking (gone : List String → Bool) (c : CacheFigures) : CacheFigures :=
  { c with
    readHitRate := if gone ["read_hit_rate"] then .undefined else c.readHitRate
    writeHitRate := if gone ["write_hit_rate"] then .undefined else c.writeHitRate }

/-- The report with those ratios undefined whose members are gone. -/
def Report.lacking (gone : List String → Bool) (r : Report) : Report :=
  { r with
    predictor := r.predictor.lacking fun path => gone ("bpred" :: path)
    instructionCache := r.instructionCache.lacking fun path => gone ("icache" :: path)
    dataCache := r.dataCache.lacking fun path => gone ("dcache" :: path) }

/-- The members of a report that hold ratios. -/
def Report.metricPaths : List (List String) :=
  [["bpred", "accuracy"], ["bpred", "mispredict_rate"],
    ["icache", "read_hit_rate"], ["icache", "write_hit_rate"],
    ["dcache", "read_hit_rate"], ["dcache", "write_hit_rate"]]

theorem Metric.ofCarrier_gone (gone : Bool) (m : Metric) :
    form.ofCarrier (if gone then none else form.toCarrier m) =
      if gone then .undefined else m := by
  cases gone <;> cases m <;> rfl

theorem PredictorFigures.form_less (gone : List String → Bool) (p : PredictorFigures) :
    form.less gone p = p.lacking gone := by
  simp only [lacking, ← Metric.ofCarrier_gone]
  rfl

theorem CacheFigures.form_less (gone : List String → Bool) (c : CacheFigures) :
    form.less gone c = c.lacking gone := by
  simp only [lacking, ← Metric.ofCarrier_gone]
  rfl

theorem Report.form_less (gone : List String → Bool) (r : Report) :
    form.less gone r = r.lacking gone := by
  have read : form.less gone r =
      { core := rowsForm.ofCarrier (rowsForm.toCarrier r.core)
        predictor := PredictorFigures.form.less (fun path => gone ("bpred" :: path)) r.predictor
        instructionCache :=
          CacheFigures.form.less (fun path => gone ("icache" :: path)) r.instructionCache
        dataCache := CacheFigures.form.less (fun path => gone ("dcache" :: path)) r.dataCache
        done := r.done } := rfl
  rw [read, lacking, rowsForm.ofCarrier_toCarrier, PredictorFigures.form_less,
    CacheFigures.form_less, CacheFigures.form_less]

theorem Report.needed_form :
    form.shape.needed = form.shape.paths.filter (· ∉ metricPaths) := by decide

theorem Report.lenient_form : form.shape.lenient = true := by decide

namespace Report

theorem tolerates {r : Report} (h : r.MetricsFinite) : form.Tolerates metricPaths lacking r :=
  Form.tolerates faithful_form lenient_form (h.settled_eq ▸ r.finite_settled) needed_form
    (r.form_less ·)

/-! ## Rows -/

/-- Whether a document has a list of rows, or a row in it, with too few or too many items. -/
def Miscounts (n : Node) : Prop :=
  ∃ pairs rows, n = .object pairs none ∧ .list rows none ∈ valuesOf "core" pairs ∧
    (rows.length ≠ 7 ∨ ∃ row, .list row none ∈ rows ∧ row.length ≠ 3)

theorem length_row {row : List Node} {w : Row.form.shape.Carrier}
    (h : Row.form.shape.decode (.list row none) = .ok w) : row.length = 3 :=
  (Shape.decode_list_ok rfl h).1

theorem length_rows {rows : List Node} {w : rowsForm.shape.Carrier}
    (h : rowsForm.shape.decode (.list rows none) = .ok w) :
    rows.length = 7 ∧ ∀ row, .list row none ∈ rows → row.length = 3 := by
  obtain ⟨length, each⟩ := Shape.decode_list_ok rfl h
  refine ⟨length, fun row member => ?_⟩
  obtain ⟨s, shape, w, decoded⟩ := each _ member
  obtain rfl : s = Row.form.shape := by
    simpa [Members.shapes] using shape
  exact length_row decoded

theorem not_miscounts {n : Node} {c : form.shape.Carrier} (whole : n.skipFault? = none)
    (h : form.shape.decode n = .ok c) : ¬Miscounts n := by
  rintro ⟨pairs, rows, rfl, core, miscounted⟩
  rw [Node.skipFault?, Option.or_eq_none_iff] at whole
  obtain ⟨slots, read, -⟩ := Shape.decode_object_iff.mp h
  obtain ⟨slot, more, given, -⟩ := (Decoding.members_iff (by decide) whole.1).mp read
  obtain ⟨w, -, decoded⟩ := given.mem core
  obtain ⟨length, each⟩ := length_rows decoded
  rcases miscounted with other | ⟨row, member, other⟩
  · exact other length
  · exact other (each row member)

/-! ## What is read -/

theorem ofJson_error {text : String} {problem : Problem}
    (h : form.readText text = .error problem) : ofJson text = .error (.encoding problem) := by
  rw [ofJson, h]
  rfl

theorem ofJson_ok {text : String} {s : Report} (h : form.readText text = .ok s) :
    ofJson text = .ok s := by
  rw [ofJson, h]
  rfl

/-- A document is refused if a known member is repeated in it or a row is too many or too few. -/
theorem ofJson_misshapen {n : Node} {text : String} (spelled : n.SpelledBy text)
    (misshapen : form.shape.Repeats n ∨ Miscounts n) :
    ∃ problem, ofJson text = .error (.encoding problem) := by
  have read := form.readText_spelled spelled
  cases decoded : form.shape.decode n with
  | error problem =>
    rw [decoded] at read
    exact ⟨problem, ofJson_error read⟩
  | ok c =>
    rcases misshapen with repeats | miscounts
    · exact absurd repeats (form.shape.not_repeats faithful_form n spelled.1 c decoded)
    · exact absurd miscounts (not_miscounts spelled.1 decoded)

/--
However the members of its document are ordered and laid out, and whatever unknown ones are among
them, a report is read back. Members can be missing exactly if they hold ratios, which are then
undefined; without any other, on either level, the text is refused for one of those. Texts are
refused as well that repeat a known member or have a row or an item of one too many or too few.
Bytes are read as the text that they spell.
-/
theorem read_by_members (r : Report) (h : r.MetricsFinite) :
    (∀ text, form.Spells (fun _ => false) text r → ofJson text = .ok r) ∧
      (∀ gone text, form.Spells gone text r →
        (ofJson text = .ok (r.lacking gone) ↔
          ∀ path ∈ form.shape.paths, gone path = true → path ∈ metricPaths) ∧
        ∀ path ∈ form.shape.paths, gone path = true → path ∉ metricPaths →
          ∃ problem, ofJson text = .error (.encoding problem) ∧
            Missing (form.shape.paths.filter (· ∉ metricPaths)) gone problem) ∧
      (∀ gone text, (((form.toValue r).without gone).toNode .null).SpelledBy text →
        form.Spells gone text r) ∧
      (∀ n text, n.SpelledBy text → form.shape.Repeats n ∨ Miscounts n →
        ∃ problem, ofJson text = .error (.encoding problem)) ∧
      ∀ text, ofBytes (Text.bytes text) = ofJson text := by
  have tolerates := tolerates h
  have refused {gone : List String → Bool} {text : String} (shows : form.Spells gone text r)
      {path : List String} (known : path ∈ form.shape.paths) (missing : gone path = true)
      (outside : path ∉ metricPaths) : ∃ problem, ofJson text = .error (.encoding problem) ∧
        Missing (form.shape.paths.filter (· ∉ metricPaths)) gone problem := by
    obtain ⟨problem, error, names⟩ := tolerates.refuses gone text shows path known missing outside
    exact ⟨problem, ofJson_error error, names⟩
  refine ⟨fun text shows => ofJson_ok (tolerates.whole text shows), fun gone text shows => ?_,
    tolerates.without, fun n text => ofJson_misshapen, fun text => rfl⟩
  refine ⟨⟨fun read path known missing => ?_, fun allowed => ?_⟩, fun path known missing =>
    refused shows known missing⟩
  · by_cases inside : path ∈ metricPaths
    · exact inside
    · obtain ⟨problem, error, -⟩ := refused shows known missing inside
      rw [read] at error
      cases error
  · exact ofJson_ok (tolerates.accepts gone text shows allowed)

/-- A report without one of its ratios, without one of its counters, and with two marks. -/
theorem read_by_members_partly :
    let cache : CacheFigures := ⟨8, 6, 2, .ratio 6 8, 0, 0, 0, .undefined, 1⟩
    let r : Report :=
      { core := Vector.replicate 7 ⟨.backend, some .dataCache, 5⟩
        predictor := ⟨4, 3, 1, 50, .ratio 3 4, .ratio 1 50⟩
        instructionCache := cache
        dataCache := cache
        done := true }
    let without (path : List String) : String := ((form.toValue r).without (· = path)).pretty
    ofJson (without ["bpred", "accuracy"]) =
        .ok { r with predictor := { r.predictor with accuracy := .undefined } } ∧
      ofJson (without ["icache", "read_hit"]) =
        .error (.encoding (.mismatch (.missing "read_hit"))) ∧
      ∃ problem, ofJson (Value.object [("_done", .flag true), ("_done", .flag true)]).compact =
        .error (.encoding problem) := by
  intro cache r without
  have undefined : Metric.undefined.IsFinite := by
    intro x h
    cases h
  have finite : r.MetricsFinite := by
    intro m hm
    simp only [metrics, List.mem_cons, List.not_mem_nil, or_false] at hm
    rcases hm with rfl | rfl | rfl | rfl | rfl | rfl
    · exact Metric.isFinite_ratio 3 4
    · exact Metric.isFinite_ratio 1 50
    · exact Metric.isFinite_ratio 6 8
    · exact undefined
    · exact Metric.isFinite_ratio 6 8
    · exact undefined
  obtain ⟨-, decided, cut, misshapen, -⟩ := read_by_members r finite
  have shows (path : List String) := cut (· = path) _ (Value.spelledBy_pretty _)
  refine ⟨?_, ?_, ?_⟩
  · exact ((decided _ _ (shows _)).1).mpr (by decide)
  · obtain ⟨problem, refused, missing⟩ := (decided _ _ (shows (["icache"] ++ ["read_hit"]))).2
      ["icache", "read_hit"] (by decide) rfl (by decide)
    rw [missing.eq_of_only] at refused
    exact refused
  · refine misshapen _ _ (Value.spelledBy_compact _) (.inl ⟨_, rfl, ?_⟩)
    simp [Members.Repeats, valuesOf_memberNodes]

end Report

end CycleLedger
