import CycleLedger.Proofs.FileTree.Writing
import CycleLedger.Proofs.Ledger.Summary
import CycleLedger.Proofs.Report.RoundTrip
import CycleLedger.Proofs.Session.Counting
import CycleLedger.Proofs.Session.Signals

/-! # Finishing a session

To finish is to make a folder, to store the report and to give the summary, in this order, and the
first failure is all that comes of it. What is stored and what is given are of the same ledger,
which finishing leaves as it was but for its retired instructions, so finishing can be done again.
-/

namespace CycleLedger

namespace Ledger

/-- Gates and summaries change nothing that is told. -/
theorem told_after {us : List Update} (h : ∀ s, .sample s ∉ us) (l : Ledger) :
    (l.after us).told = l.told := by
  induction us generalizing l with
  | nil => rfl
  | cons u us ih =>
    have others : ∀ s, .sample s ∉ us := fun s later => h s (List.mem_cons_of_mem u later)
    rw [after_cons, ih others]
    cases u with
    | gate enable => rfl
    | summary => rfl
    | sample s => exact absurd List.mem_cons_self (h s)

/-- A stored report is read back as it is. -/
theorem ofJson_document (l : Ledger) :
    Report.ofJson l.report.result.1.document = .ok l.report.result.1 := by
  have blank (b : UInt8) (h : b ∈ [Json.Ascii.lineFeed]) : Json.Ascii.isBlank b = true := by
    rw [List.mem_singleton.mp h]
    rfl
  have read := l.report.result.1.ofBytes_toJson blank
  rw [← Report.bytes_document, l.metricsFinite_report.settled_eq] at read
  exact read

end Ledger

namespace Session

variable {σ : Type} (storage : Storage σ)

/-- An operation delivers no samples but its own. -/
theorem mem_samples_of_mem_updates {op : Operation} {x : Session × σ} {sample : Ledger.Sample}
    (h : .sample sample ∈ op.updates storage x) : sample ∈ op.samples := by
  cases op with
  | logCore e => simpa [Operation.updates, Operation.samples] using h
  | log core fetch data prediction => simpa [Operation.updates, Operation.samples] using h
  | direct op =>
    cases op <;> simp_all [Operation.updates, Operation.samples, Ledger.Operation.update,
      Ledger.Operation.samples]
  | finish =>
    rw [Operation.updates] at h
    split_ifs at h <;> simp at h
  | _ => simp [Operation.updates] at h

theorem summary_text (s : Session) : s.summary.result.1 =
    s!"Simulation cycles: {s.cycles}\n" ++ "Stats - Profiling Summary (approx.):\n" ++
      s.ledger.told.summaryText := rfl

/-- Two sessions of which a report and a summary say the same, and store it at the same place. -/
structure SameStory (s s' : Session) : Prop where
  settings : s'.settings = s.settings
  cycles : s'.cycles = s.cycles
  told : s'.ledger.told = s.ledger.told

namespace SameStory

variable {s s' : Session}

theorem report (h : s.SameStory s') : s'.ledger.report.result.1 = s.ledger.report.result.1 := by
  rw [← Ledger.figures_told, h.told, Ledger.figures_told]

theorem summary (h : s.SameStory s') : s'.summary.result.1 = s.summary.result.1 := by
  rw [summary_text, summary_text, h.cycles, h.told]

theorem perform (h : s.SameStory s') {op : Operation} (idle : op.samples = []) (place : σ) :
    s.SameStory (perform storage op (s', place)).result.1 where
  settings := (perform_settings storage op _).trans h.settings
  cycles := by
    have uncounted : op.isCycle = false := by
      cases op with
      | logCore e => cases idle
      | log core fetch data prediction => cases idle
      | _ => rfl
    rw [perform_cycles, uncounted, ← h.cycles]
    exact UInt64.add_zero _
  told := by
    rw [perform_ledger, Ledger.told_after, h.told]
    intro sample delivered
    have own := mem_samples_of_mem_updates storage delivered
    rw [idle] at own
    exact List.not_mem_nil own

/-- Whatever is done without a sample changes nothing of it. -/
theorem run (h : s.SameStory s') {ops : List Operation} (idle : ∀ op ∈ ops, op.samples = [])
    (place : σ) : s.SameStory (run storage ops (s', place)).result.1 :=
  run_keeps storage (P := s.SameStory) (x := (s', place)) h fun op member y kept =>
    kept.perform storage (idle op member) y.2

end SameStory

/-- The session as finishing leaves it, whether its report is stored or refused. -/
def reported (s : Session) : Session := s.setLedger s.ledger.summarize

theorem sameStory_reported (s : Session) : s.SameStory s.reported := ⟨rfl, rfl, rfl⟩

theorem stripped_reported (s : Session) : s.reported.stripped = s.stripped := rfl

variable {s : Session} {place here there : σ} {cause : String}

theorem finish_of_noFolder {f : Failure} (made : s.makeFolder storage place = (.error f, here)) :
    (s.finish storage place).result = (.error f, s, here) := by
  rw [finish, made]
  rfl

theorem finish_of_refused (made : s.makeFolder storage place = (.ok (), here))
    (refused : storage.write s.settings.report.path s.ledger.report.result.1.document here =
      (.error cause, there)) :
    (s.finish storage place).result =
      (.error (.file s.settings.report.path cause), s.reported, there) := by
  simp only [finish, made, Ledger.writeReport, Noted.andThen, refused]
  rfl

theorem finish_of_written (made : s.makeFolder storage place = (.ok (), here))
    (written : storage.write s.settings.report.path s.ledger.report.result.1.document here =
      (.ok (), there)) :
    (s.finish storage place).result = (.ok s.summary.result.1, s.reported, there) := by
  simp only [finish, made, Ledger.writeReport, Noted.andThen, written]
  rfl

/--
A session whose folder cannot be made is left as it is, and nothing is written. One whose file
cannot be written tells the same afterwards as if it had not been asked. In all other cases the file
holds the report and a line feed, as an unlimited stream takes it, and the summary is given, which
states the counts that the file is read back to. Without a sample in between, finishing again stores
and gives the same. Of the storage only this is asked: a write that succeeds does its whole job.
-/
theorem finish_agrees (s : Session) (place : σ) {content? : σ → Option String}
    (whole : ∀ content there, storage.write s.settings.report.path content
      (s.makeFolder storage place).2 = (.ok (), there) → content? there = some content) :
    let folder := s.settings.report.folder
    let path := s.settings.report.path
    let report := s.ledger.report.result.1
    let document := report.toJson ++ "\n"
    (folder.isEmpty = false → ∀ cause left,
        storage.makeFolders folder place = (.error cause, left) →
        (s.finish storage place).result = (.error (.file folder cause), s, left)) ∧
      ∀ here, s.makeFolder storage place = (.ok (), here) →
        (∀ cause left, storage.write path document here = (.error cause, left) →
          ∃ s', (s.finish storage place).result = (.error (.file path cause), s', left) ∧
            ∀ (later : List Operation) (p p' : σ),
              let refused := (run storage later (s', p)).result.1
              let unasked := (run storage later (s, p')).result.1
              refused.ledger.report.result.1 = unasked.ledger.report.result.1 ∧
                refused.summary.result.1 = unasked.summary.result.1) ∧
        ∀ there, storage.write path document here = (.ok (), there) →
          ∃ s', (s.finish storage place).result = (.ok s.summary.result.1, s', there) ∧
            content? there = some document ∧
            (∀ stalls, (s.ledger.deliver ⟨none, stalls, false⟩).result.1 =
              ⟨Text.bytes document, none⟩) ∧
            Report.ofJson document = .ok report ∧
            (∃ counts, s.summary.result.1 = s!"Simulation cycles: {s.cycles}\n" ++
                "Stats - Profiling Summary (approx.):\n" ++ counts ∧
              Ledger.ofSummary? counts = some (.ofReport report)) ∧
            ∀ between, (∀ op ∈ between, op.samples = []) → ∀ p p' here' there',
              let again := (run storage between (s', p)).result.1
              again.makeFolder storage p' = (.ok (), here') →
              storage.write path document here' = (.ok (), there') →
              ∃ s'', (again.finish storage p').result = (.ok s.summary.result.1, s'', there') := by
  intro folder path report document
  refine ⟨fun named cause left failed => ?_, fun here made => ⟨fun cause left refused => ?_,
    fun there written => ?_⟩⟩
  · apply finish_of_noFolder
    rw [makeFolder, if_neg (by simpa using named), failed]
    rfl
  · refine ⟨s.reported, finish_of_refused storage made refused, fun later p p' => ?_⟩
    have alike : (run storage later (s.reported, p)).result.1.stripped =
        (run storage later (s, p')).result.1.stripped := by
      rw [stripped_run, stripped_run, stripped_reported]
    exact (shown_of_stripped_eq alike).2.2
  · refine ⟨s.reported, finish_of_written storage made written, ?_, fun stalls => rfl,
      s.ledger.ofJson_document, ?_, ?_⟩
    · rw [made] at whole
      exact whole document there written
    · refine ⟨s.ledger.render.result.1, rfl, ?_⟩
      rw [Ledger.ofReport_report]
      exact s.ledger.ofSummary?_summaryText
    · intro between idle p p' here' there' again made' written'
      have same : s.SameStory again := s.sameStory_reported.run storage idle p
      have rewritten : storage.write again.settings.report.path
          again.ledger.report.result.1.document here' = (.ok (), there') := by
        rw [same.settings, same.report]
        exact written'
      have outcome := finish_of_written storage made' rewritten
      rw [same.summary] at outcome
      exact ⟨_, outcome⟩

/-- A report whose folder is made for it. -/
theorem finish_agrees_new_folder :
    let settings : Settings := { profiling := { onBoot := true }, report := { folder := "out" } }
    let ops : List Operation := [.logCore .retiring, .direct (.addPrediction (.prediction false))]
    let s := (run FileTree.storage ops (ofSettings settings, FileTree.empty)).result.1
    let outcome := (s.finish FileTree.storage .empty).result
    outcome.1 = .ok s.summary.result.1 ∧
      outcome.2.2.content? "out/hw_stats.json" =
        some (s.ledger.report.result.1.toJson ++ "\n") := by
  intro settings ops s outcome
  let here := FileTree.empty.put ["tmp", "", "out"] .folder
  have named : s.settings.report = { folder := "out" } := by rfl
  have made : s.makeFolder FileTree.storage .empty = (.ok (), here) := by
    rw [makeFolder, named]
    rfl
  have whole : ∀ content there, FileTree.storage.write s.settings.report.path content
      (s.makeFolder FileTree.storage .empty).2 = (.ok (), there) →
      there.content? "out/hw_stats.json" = some content := by
    intro content there written
    have parsed : FileTree.Path.ofString "out/hw_stats.json" =
        .ok ⟨false, ["out", "hw_stats.json"], false⟩ := rfl
    have target : here.target false ["out", "hw_stats.json"] =
        .ok (["tmp", "", "out", "hw_stats.json"], none) := rfl
    rw [made, named] at written
    exact FileTree.content?_write parsed target rfl (by simp) written
  have write (content : String) : FileTree.storage.write s.settings.report.path content here =
      (.ok (), here.put ["tmp", "", "out", "hw_stats.json"] (.file content)) := by
    rw [named]
    rfl
  obtain ⟨-, stored⟩ := finish_agrees FileTree.storage s .empty whole
  obtain ⟨s', finished, content, -⟩ := (stored here made).2 _ (write _)
  rw [show outcome = _ from finished]
  exact ⟨rfl, content⟩

end Session

end CycleLedger
