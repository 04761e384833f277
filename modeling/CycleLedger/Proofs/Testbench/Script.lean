import CycleLedger.Proofs.Session.Delivery
import CycleLedger.Testbench

/-! # Scripts

A script is a list of calls. On the session that a script drives, each call but the one that makes a
new session is at most one operation, and none if it is refused or only reads. Calls that take no
part in the session, and what is shown of notices, leave it as it is.
-/

namespace CycleLedger.Testbench

open Session (Operation)

/-- A call as it stands in a script. -/
structure Call where
  name : String
  arguments : Signature.Arguments := {}

/-- The testbench after a call, whatever the reply. -/
def perform (t : Testbench) (c : Call) : Testbench := (t.call c.name c.arguments).2

def run (script : List Call) (t : Testbench) : Testbench := script.foldl perform t

@[simp] theorem run_nil (t : Testbench) : t.run [] = t := rfl

@[simp] theorem run_cons (c : Call) (script : List Call) (t : Testbench) :
    t.run (c :: script) = (t.perform c).run script := rfl

variable {t : Testbench} {c : Call} {s : Session} {tree : FileTree}

/-- What becomes of the testbench after a call of the session, which may be unknown or refused. -/
def settle (t : Testbench) : Option (Except ArgumentFault (Reply × Testbench)) → Testbench
  | some (.ok reply) => reply.2
  | _ => t

variable {x : Session × FileTree}

end CycleLedger.Testbench
