import CycleLedger.Ledger
import CycleLedger.Report.Sink
import CycleLedger.Storage

/-! # Reports of a ledger that leave the run

A report is delivered to a sink or written to a file. The report is taken first, so the ledger is
summarized also when the delivery fails. Only a written file is noticed.
-/

namespace CycleLedger.Ledger

def deliver (sink : Sink) (l : Ledger) : Noted (Delivery × Ledger) :=
  l.report.map fun (report, l) => (report.deliver sink, l)

/-- Writes the report to the path; a failure names the path. -/
def writeReport {σ : Type} (storage : Storage σ) (path : String) (place : σ) (l : Ledger) :
    Noted (Except Failure Unit × Ledger × σ) :=
  l.report.andThen fun (report, l) =>
    match storage.write path report.document place with
    | (.ok (), place) => ⟨(.ok (), l, place), [.reportWritten path]⟩
    | (.error cause, place) => .quiet (.error (.file path cause), l, place)

end CycleLedger.Ledger
