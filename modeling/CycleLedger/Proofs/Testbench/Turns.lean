import CycleLedger.Proofs.Testbench.Script
import Mathlib.Data.List.Forall2

/-! # Clocks driven by calls

A simulation drives a session clock by clock, and forces the gate between clocks. It can log a clock
at once, or a script can make a call for each of its four samples. The calls pass less of a sample
than it says and build theirs anew from that, in any order; the session is the same in the end.
-/

namespace CycleLedger.Testbench

open Session (Operation)
open Ledger (Sample)

/-- What a simulation does between two clocks, or at one. -/
inductive Turn where
  | force (enable : Bool)
  | cycle (clock : UInt64) (pc : UInt32) (core : CoreSample) (fetch data prediction : LookupSample)

namespace Turn

/-- A clock is logged at once. -/
def operations : Turn → List Operation
  | force enable => [.setProfiling enable]
  | cycle clock pc core fetch data prediction => [.step clock pc, .log core fetch data prediction]

end Turn

variable {t : Testbench} {c : Call} {s : Session} {tree : FileTree}

variable {σ : Type} (storage : Storage σ) (place : σ)

end CycleLedger.Testbench
