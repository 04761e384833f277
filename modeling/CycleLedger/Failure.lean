import CycleLedger.Json.Mismatch
import CycleLedger.Text.Field

/-! # Failures

Counting never fails. What can fail is to read a configuration or a report and to store a report;
each cause is a constructor, and `message` holds all wordings.
-/

namespace CycleLedger

/-- Why a stream did not take a report. -/
inductive StreamFault where
  /-- no room for a byte -/
  | full
  /-- a write that took no byte at all -/
  | stalled
  | unflushed
deriving DecidableEq

def StreamFault.text : StreamFault → String
  | full => "disk full"
  | stalled => "failed to write whole buffer"
  | unflushed => "flush failed"

inductive Failure where
  /-- profiling that stops before it starts -/
  | invertedWindow (start stop : UInt32)
  /-- a place for reports that could not be made or written, and why -/
  | file (path cause : String)
  | stream (fault : StreamFault)
  | encoding (problem : Json.Problem)
  | configuration (problem : Json.Problem)

def Json.Fault.text : Json.Fault → String
  | truncated => "unexpected end of input"
  | malformed => "expected value"
  | surplus => "trailing characters"
  | unbounded => "number out of range"

def Json.Problem.text : Json.Problem → String
  | fault f => f.text
  | mismatch m => m.message

namespace Failure

/-- What failed, without the cause. -/
def headline : Failure → String
  | invertedWindow start stop =>
    "profiling window stop " ++ Text.markedHex stop ++ " precedes start " ++ Text.markedHex start
  | file path _ => "failed to write report \x27" ++ path ++ "\x27"
  | stream _ => "failed to write report stream"
  | encoding _ => "report encoding failed"
  | configuration _ => "invalid configuration"

def cause? : Failure → Option String
  | invertedWindow _ _ => none
  | file _ cause => some cause
  | stream fault => some fault.text
  | encoding problem | configuration problem => some problem.text

def message (f : Failure) : String :=
  match f.cause? with
  | some cause => f.headline ++ ": " ++ cause
  | none => f.headline

end Failure

end CycleLedger
