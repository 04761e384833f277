import CycleLedger.Report.Text

/-! # Streams that take reports

A sink takes bytes up to its limit. A write beyond the limit takes what fits; then the sink fails
or, if it stalls, takes nothing any more, and either ends the delivery. The bytes taken are flushed
last.
-/

namespace CycleLedger

structure Sink where
  limit? : Option Nat
  /-- beyond the limit writes take no byte and do not fail -/
  stalls : Bool
  flushFails : Bool
deriving DecidableEq

/-- The bytes that a sink has taken, and the fault if it did not take all and flush them. -/
structure Delivery where
  taken : List UInt8
  fault? : Option StreamFault
deriving DecidableEq

namespace Sink

def deliver (sink : Sink) (bytes : List UInt8) : Delivery :=
  match sink.limit? with
  | some limit =>
    if limit < bytes.length then
      ⟨bytes.take limit, some (if sink.stalls then .stalled else .full)⟩
    else ⟨bytes, if sink.flushFails then some .unflushed else none⟩
  | none => ⟨bytes, if sink.flushFails then some .unflushed else none⟩

end Sink

/-- The document of the report is complete before the first byte is delivered. -/
def Report.deliver (r : Report) (sink : Sink) : Delivery :=
  sink.deliver r.document.toUTF8.toList

end CycleLedger
