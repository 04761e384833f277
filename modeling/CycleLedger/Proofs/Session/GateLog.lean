import CycleLedger.Proofs.Session.Gates

/-! # The log of the gate

A session that nobody moves the gates of past it tells every movement of its gate, and nothing that
is no movement: a step tells it behind the opening or the close of the window, a set profile tells
it alone, and all else is silent about both. Where the gate stands can be replayed from what has
been told.
-/

namespace CycleLedger

namespace Notice

end Notice

namespace Session

open Notice

variable {σ : Type} (storage : Storage σ)

namespace Operation

end Operation

end Session

end CycleLedger
