import Mathlib.Data.List.Basic
import CycleLedger.Ledger
import CycleLedger.Proofs.Core.Breakdown
import CycleLedger.Proofs.Text.Clauses

/-! # The summary and the report say the same

Up to the gates, a ledger that has handed over its retired instructions is read back from its
summary, by the counts that the lines state, and from its report, by the counts that are neither
derived nor ratios. Two summaries are therefore equal exactly if the two reports are.
-/

namespace CycleLedger

/-! ## The lines of each section -/

def Breakdown.statements (b : Breakdown) : List Text.Line :=
  [{ first := .words "    Cycles"
     more := [(':', .count b.cycles), (',', .words " Inst"), (':', .count b.retired),
       (',', .words " Stalls"), (':', .count b.stalls), (',', .words " CPI"),
       (':', .ratio b.cyclesPerInstruction " (IPC"), (':', .ratio b.instructionsPerCycle ")")] },
    { first := .words "        TDA" },
    { first := .words "            L1"
      more := [(':', .words " Bad Spec"), (':', .count b.badSpeculation), (',', .words " FE"),
        (':', .count b.frontend), (',', .words " BE"), (':', .count b.backend),
        (',', .words " Retired"), (':', .count b.retired)] },
    { first := .words "            L2"
      more := [(':', .words " FE Mem"), (':', .count b.frontendCache), (',', .words " FE Core"),
        (':', .count b.frontendCore), (',', .words " BE Mem"), (':', .count b.backendCache),
        (',', .words " BE Core"), (':', .count b.backendCore), (',', .words " INT"),
        (':', .count b.integer), (',', .words " SIMD"), (':', .count b.simd)] }]

def PredictorCounters.statement (c : PredictorCounters) : Text.Line where
  first := .words "    Predictions"
  more := [(':', .count c.total), (',', .words " Correct"), (':', .count c.correct),
    (',', .words " Mispredicted"), (':', .count c.mispredicted), (',', .words " Accuracy"),
    (':', .ratio c.accuracy ""), (',', .words " Mispredicts/Inst"),
    (':', .ratio c.mispredictionRate "")]

namespace CacheCounters

def directionStatement (d : Direction) (c : CacheCounters) : Text.Line where
  first := match d with
    | .read => .words "        read  - Ref"
    | .write => .words "        write - Ref"
  more := [(':', .count (c.lookups d).references), (',', .words " Hit"),
    (':', .count (c.lookups d).hits), (',', .words " Miss"), (':', .count (c.lookups d).misses),
    (',', .words " Hit rate"), (':', .ratio (c.lookups d).hitRate "")]

def titleStatement : CacheKind → Text.Line
  | .instruction => { first := .words "    Instruction cache (icache)" }
  | .data => { first := .words "    Data cache (dcache)" }

def statements (kind : CacheKind) (c : CacheCounters) : List Text.Line :=
  [titleStatement kind, c.directionStatement .read, c.directionStatement .write,
    { first := .words "        Writebacks", more := [(':', .count c.writebacks)] }]

end CacheCounters

/-- The summary as lines of clauses. -/
def Ledger.statements (l : Ledger) : List Text.Line :=
  { first := .words "core" } :: l.core.breakdown.statements ++
    { first := .words "bpred" } :: l.predictor.statement ::
    { first := .words "icache" } :: l.instructionCache.statements .instruction ++
    { first := .words "dcache" } :: l.dataCache.statements .data

namespace Ledger

/-- A line as it stands below the name of its section. -/
@[simp] def indented (line : String) : List Char := indent.toList ++ line.toList

@[simp] theorem toList_indent : indent.toList = [' ', ' ', ' ', ' '] := rfl

end Ledger

@[simp] theorem toString_text (s : String) : toString s = s := rfl

theorem Breakdown.indented_lines (b : Breakdown) :
    b.lines.map Ledger.indented = b.statements.map Text.Line.chars := by
  simp [lines, statements]

theorem PredictorCounters.indented_line (c : PredictorCounters) :
    Ledger.indented c.line = c.statement.chars := by
  unfold line
  simp [statement]

namespace CacheCounters

variable (c : CacheCounters)

theorem indented_directionLine (d : Direction) :
    Ledger.indented (c.directionLine d) = (c.directionStatement d).chars := by
  have name : (Text.field .left 5 none d.name).toList =
      match d with
      | .read => ['r', 'e', 'a', 'd', ' ']
      | .write => ['w', 'r', 'i', 't', 'e'] := by
    cases d <;> rfl
  cases d <;> simp [directionLine, directionStatement, name]

theorem indented_lines (kind : CacheKind) :
    (c.lines kind).map Ledger.indented = (c.statements kind).map Text.Line.chars := by
  have title : Ledger.indented (kind.title ++ " (" ++ kind.label ++ ")") =
      (titleStatement kind).chars := by
    cases kind <;> rfl
  have writebacks : Ledger.indented s!"    Writebacks: {c.writebacks}" =
      Text.Line.chars
        { first := .words "        Writebacks", more := [(':', .count c.writebacks)] } := by
    simp
  simp only [lines, Direction.all, statements, List.map_cons, List.map_nil, List.cons_append,
    List.nil_append, title, indented_directionLine, writebacks]

end CacheCounters

namespace Ledger

theorem toList_sectionText (name : String) (lines : List String) :
    (sectionText name lines).toList =
      (name.toList :: lines.map indented).flatMap (· ++ ['\n']) := by
  simp [sectionText, indented, String.toList_join, List.flatMap_map]

variable (l : Ledger)

theorem toList_summaryText :
    l.summaryText.toList = (l.statements.map Text.Line.chars).flatMap (· ++ ['\n']) := by
  simp only [summaryText, summarySections, statements, String.toList_join, List.map_cons,
    List.map_nil, List.flatMap_cons, List.flatMap_nil, toList_sectionText,
    Breakdown.indented_lines, PredictorCounters.indented_line, CacheCounters.indented_lines]
  simp [CacheKind.label]

theorem plain_statements : ∀ line ∈ l.statements, line.plain = true := by
  have all : l.statements.all Text.Line.plain = true := rfl
  exact List.all_eq_true.mp all

theorem lines_summaryText : Text.lines l.summaryText.toList = l.statements.map Text.Line.chars := by
  rw [toList_summaryText]
  apply Text.lines_flatMap
  intro line hline
  obtain ⟨statement, hstatement, rfl⟩ := List.mem_map.mp hline
  exact Text.Line.lineFeed_notMem_chars (l.plain_statements statement hstatement)

/-- No line has a smaller indentation than that of its section. -/
theorem indent_prefix : ∀ line ∈ Text.lines l.summaryText.toList,
    line.head? = some ' ' → indent.toList <+: line := by
  have all : l.statements.all (fun statement => statement.chars.head? ≠ some ' ' ||
      indent.toList.isPrefixOf statement.chars) = true := rfl
  intro line hline blank
  rw [lines_summaryText] at hline
  obtain ⟨statement, hstatement, rfl⟩ := List.mem_map.mp hline
  have either : statement.chars.head? ≠ some ' ' ∨ indent.toList <+: statement.chars := by
    simpa only [Bool.or_eq_true, decide_eq_true_eq, List.isPrefixOf_iff_prefix] using
      List.all_eq_true.mp all statement hstatement
  exact either.resolve_left (not_not_intro blank)

theorem filter_lines_summaryText :
    (Text.lines l.summaryText.toList).filter (·.head? ≠ some ' ') =
      Report.sections.map String.toList := by
  rw [lines_summaryText]
  rfl

/-! ## Ledgers read back -/

/-- What a summary tells of a ledger: all but its gates. -/
def told : Ledger := l.summarize.setEnabled false

/-- The ledger whose lines state these counts. Counts derived from others are passed over. -/
def ofCounts? : List UInt64 → Option Ledger
  | [cycles, retired, _, badSpeculation, frontend, backend, _, frontendCache, _, backendCache, _, _,
      simd, total, correct, _,
      instructionReads, instructionReadHits, instructionReadMisses,
      instructionWrites, instructionWriteHits, instructionWriteMisses, instructionWritebacks,
      dataReads, dataReadHits, dataReadMisses,
      dataWrites, dataWriteHits, dataWriteMisses, dataWritebacks] => some {
    core := ⟨false, cycles, badSpeculation, frontend, frontendCache, backend, backendCache, simd⟩
    predictor := ⟨false, total, correct, retired⟩
    instructionCache := ⟨false, ⟨instructionReads, instructionReadHits, instructionReadMisses⟩,
      ⟨instructionWrites, instructionWriteHits, instructionWriteMisses⟩, instructionWritebacks⟩
    dataCache := ⟨false, ⟨dataReads, dataReadHits, dataReadMisses⟩,
      ⟨dataWrites, dataWriteHits, dataWriteMisses⟩, dataWritebacks⟩ }
  | _ => none

/-- The ledger that a summary is of. -/
def ofSummary? (text : String) : Option Ledger :=
  ofCounts? (((Text.lines text.toList).flatMap Text.numbers).map UInt64.ofNat)

theorem numbers_summaryText : (Text.lines l.summaryText.toList).flatMap Text.numbers =
    (l.statements.flatMap Text.Line.counts).map (·.toNat) := by
  rw [lines_summaryText, List.flatMap_map, List.map_flatMap]
  apply List.flatMap_congr
  intro statement hstatement
  exact Text.Line.numbers_chars (l.plain_statements statement hstatement)

theorem ofCounts?_statements :
    ofCounts? (l.summarize.statements.flatMap Text.Line.counts) = some l.told := rfl

theorem ofSummary?_summaryText : ofSummary? l.summarize.summaryText = some l.told := by
  rw [ofSummary?, numbers_summaryText, List.map_map]
  have same : (UInt64.ofNat ∘ fun n : UInt64 => n.toNat) = id := by
    funext n
    exact UInt64.ofNat_toNat
  rw [same, List.map_id, ofCounts?_statements]

end Ledger

/-- The counters of a cache, from what a report counts of it. -/
def CacheCounters.ofFigures (f : CacheFigures) : CacheCounters where
  read := ⟨f.readReferences, f.readHits, f.readMisses⟩
  write := ⟨f.writeReferences, f.writeHits, f.writeMisses⟩
  writebacks := f.writebacks

/-- The counters of the core, from the cycles of the rows alone. -/
def CoreCounters.ofReport (r : Report) : CoreCounters where
  cycles := r.coreCycles
  badSpeculation := (r.core.get 0).cycles
  frontend := (r.core.get 1).cycles + (r.core.get 2).cycles
  frontendCache := (r.core.get 1).cycles
  backend := (r.core.get 3).cycles + (r.core.get 4).cycles
  backendCache := (r.core.get 3).cycles
  simd := (r.core.get 6).cycles

namespace Ledger

/-- The ledger that a report is of. No ratio is looked at. -/
def ofReport (r : Report) : Ledger where
  core := .ofReport r
  predictor :=
    { total := r.predictor.predictions, correct := r.predictor.correct
      retired := r.predictor.retired }
  instructionCache := .ofFigures r.instructionCache
  dataCache := .ofFigures r.dataCache

variable (l : Ledger)

/-- A category is the sum of its two parts, also where their difference has wrapped. -/
theorem ofReport_core :
    CoreCounters.ofReport l.report.result.1 = l.core.setEnabled false := by
  have parts (whole part : UInt64) : part + (whole - part) = whole := by grind
  have frontend : (l.report.result.1.core.get 1).cycles + (l.report.result.1.core.get 2).cycles =
      l.core.frontend := parts ..
  have backend : (l.report.result.1.core.get 3).cycles + (l.report.result.1.core.get 4).cycles =
      l.core.backend := parts ..
  rw [CoreCounters.ofReport, coreCycles_report, frontend, backend]
  rfl

theorem ofReport_report : ofReport l.report.result.1 = l.told := by
  rw [ofReport, ofReport_core]
  rfl

theorem summaryText_told : l.told.summaryText = l.render.result.1 := rfl

theorem figures_told : l.told.figures = l.report.result.1 := rfl

/--
The summary and the report determine each other, each through the counters that it states, and the
ratios of a report are those of its counts. Below the names of the sections all lines are indented.
-/
theorem summary_agrees_with_report (l l' : Ledger) :
    (l.render.result.1 = l'.render.result.1 ↔ l.report.result.1 = l'.report.result.1) ∧
      (ofSummary? l.render.result.1).map figures = some l.report.result.1 ∧
      (ofReport l.report.result.1).summaryText = l.render.result.1 ∧
      (ofReport l.report.result.1).figures = l.report.result.1 ∧
      (Text.lines l.render.result.1.toList).filter (·.head? ≠ some ' ') =
        Report.sections.map String.toList ∧
      ∀ line ∈ Text.lines l.render.result.1.toList,
        line.head? = some ' ' → indent.toList <+: line := by
  have text (l : Ledger) : ofSummary? l.render.result.1 = some l.told := l.ofSummary?_summaryText
  refine ⟨?_, ?_, ?_, ?_, ?_, ?_⟩
  · constructor
    · intro h
      have same : some l.told = some l'.told := by rw [← text, ← text, h]
      rw [← figures_told, ← figures_told, Option.some.inj same]
    · intro h
      have same : l.told = l'.told := by rw [← ofReport_report, ← ofReport_report, h]
      rw [← summaryText_told, ← summaryText_told, same]
  · rw [text, Option.map_some, figures_told]
  · rw [ofReport_report, summaryText_told]
  · rw [ofReport_report, figures_told]
  · exact l.summarize.filter_lines_summaryText
  · exact l.summarize.indent_prefix

end Ledger

end CycleLedger
