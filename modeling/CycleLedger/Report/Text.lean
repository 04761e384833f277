import CycleLedger.Failure
import CycleLedger.Forms.Report

/-! # Texts of reports

A report is written as an indented document and a line feed, and read from a text or from bytes.
-/

namespace CycleLedger.Report

def toJson (r : Report) : String := form.pretty r

def ofJson (text : String) : Except Failure Report := (form.readText text).mapError .encoding

def ofBytes (bytes : List UInt8) : Except Failure Report :=
  (form.readBytes bytes).mapError .encoding

/-- The whole content of a stored report. -/
def document (r : Report) : String := r.toJson ++ "\n"

end CycleLedger.Report
