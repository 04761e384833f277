import CycleLedger.Proofs.Ledger.Gates
import CycleLedger.Session
import Mathlib.Tactic.SplitIfs

/-! # Runs of a session

What a testbench can ask of a session, one operation after the other, including all that it can ask
of the ledger directly. `updates` says once what an operation does to the ledger: at most one
movement of the gates, or the samples that it delivers, or a summary.
-/

namespace CycleLedger.Session

inductive Operation where
  | step (clock : UInt64) (pc : UInt32)
  | setProfiling (enable : Bool)
  | logCore (e : CoreSample)
  | log (core : CoreSample) (fetch data prediction : LookupSample)
  | trace (clock : UInt64) (fill : TraceEntry → TraceEntry)
  | summary
  | finish
  /-- an operation on the ledger itself -/
  | direct (op : Ledger.Operation)

variable {σ : Type} (storage : Storage σ)

/-- The session after an operation and the place where reports are stored, with the notices. -/
def perform : Operation → Session × σ → Noted (Session × σ)
  | .step clock pc, (s, place) => (s.step clock pc).map fun s => (s, place)
  | .setProfiling enable, (s, place) => (s.setProfiling enable).map fun s => (s, place)
  | .logCore e, (s, place) => .quiet (s.logCore e, place)
  | .log core fetch data prediction, (s, place) =>
    (s.log core fetch data prediction).map fun s => (s, place)
  | .trace clock fill, (s, place) => .quiet (s.trace clock fill, place)
  | .summary, (s, place) => s.summary.map fun (_, s) => (s, place)
  | .finish, (s, place) => (s.finish storage place).map (·.2)
  | .direct op, (s, place) => (Ledger.perform storage op (s.ledger, place)).map fun (l, place) =>
      (s.setLedger l, place)

def run : List Operation → Session × σ → Noted (Session × σ)
  | [], x => .quiet x
  | op :: ops, x => (perform storage op x).andThen (run ops)

@[simp] theorem run_nil (x : Session × σ) : (run storage [] x).result = x := rfl

@[simp] theorem run_cons (op : Operation) (ops : List Operation) (x : Session × σ) :
    (run storage (op :: ops) x).result = (run storage ops (perform storage op x).result).result :=
  rfl

namespace Operation

def samples : Operation → List Ledger.Sample
  | logCore e => [.core e]
  | log core fetch data prediction =>
    [.core core, .lookup .instruction fetch, .lookup .data data, .prediction prediction]
  | direct op => op.samples
  | step _ _ | setProfiling _ | trace _ _ | summary | finish => []

/-- What the operation does to the ledger; a folder that is not made keeps a report from it. -/
def updates (x : Session × σ) : Operation → List Ledger.Update
  | step _ pc => (x.1.window.change? pc).toList.map .gate
  | setProfiling enable => [.gate enable]
  | trace _ _ => []
  | summary => [.summary]
  | finish => if (x.1.makeFolder storage x.2).1.isOk then [.summary] else []
  | direct op => [op.update]
  | op => op.samples.map .sample

end Operation

/-- What each operation keeps, a run keeps. -/
theorem run_keeps {P : Session → Prop} {ops : List Operation} {x : Session × σ} (h : P x.1)
    (keeps : ∀ op ∈ ops, ∀ y : Session × σ, P y.1 → P (perform storage op y).result.1) :
    P (run storage ops x).result.1 := by
  induction ops generalizing x with
  | nil => exact h
  | cons op ops ih =>
    obtain ⟨first, others⟩ := List.forall_mem_cons.mp keeps
    rw [run_cons]
    exact ih (first x h) others

/-- All that a step changes: the clock, the window, and the gates if the window turns over. -/
theorem step_result (s : Session) (clock : UInt64) (pc : UInt32) :
    (s.step clock pc).result =
      { s with
        clock := clock
        window := (s.window.observe pc).result.2
        ledger := s.ledger.after ((s.window.change? pc).toList.map .gate) } := by
  simp only [step, Window.observe, Noted.andThen]
  cases s.window.change? pc <;> rfl

/-- A session after a finished write has summarized its ledger, once or twice. -/
theorem finish_ledger (s : Session) (place : σ) :
    (s.finish storage place).result.2.1.ledger =
      if (s.makeFolder storage place).1.isOk then s.ledger.summarize else s.ledger := by
  unfold finish
  split
  · next h => simp [h, Noted.quiet, Except.isOk, Except.toBool]
  · next place' h =>
    simp only [h, Except.isOk, Except.toBool, if_true, Noted.andThen]
    have hw := Ledger.writeReport_ledger storage s.settings.report.path place' s.ledger
    split
    · exact hw
    · show Ledger.summarize _ = _
      rw [hw]
      rfl

/-- Of a session `finish` changes nothing but its ledger. -/
theorem finish_frame (s : Session) (place : σ) :
    (s.finish storage place).result.2.1 =
      s.setLedger (s.finish storage place).result.2.1.ledger := by
  unfold finish
  split
  · rfl
  · simp only [Noted.andThen]
    split <;> rfl

/-- Settings are there to stay. -/
theorem perform_settings (op : Operation) (x : Session × σ) :
    (perform storage op x).result.1.settings = x.1.settings := by
  obtain ⟨s, place⟩ := x
  cases op with
  | step clock pc => exact congrArg (·.settings) (step_result s clock pc)
  | finish => exact congrArg (·.settings) (finish_frame storage s place)
  | _ => rfl

theorem perform_ledger (op : Operation) (x : Session × σ) :
    (perform storage op x).result.1.ledger = x.1.ledger.after (op.updates storage x) := by
  obtain ⟨s, place⟩ := x
  cases op with
  | step clock pc => exact congrArg (·.ledger) (step_result s clock pc)
  | finish =>
    rw [Operation.updates]
    refine (finish_ledger storage s place).trans ?_
    split_ifs <;> rfl
  | direct op => exact Ledger.perform_ledger storage op (s.ledger, place)
  | log core fetch data prediction => rfl
  | _ => rfl

/-- All that a run does to the ledger, in order. -/
def updates : List Operation → Session × σ → List Ledger.Update
  | [], _ => []
  | op :: ops, x => op.updates storage x ++ updates ops (perform storage op x).result

theorem run_ledger (ops : List Operation) (x : Session × σ) :
    (run storage ops x).result.1.ledger = x.1.ledger.after (updates storage ops x) := by
  induction ops generalizing x with
  | nil => rfl
  | cons op ops ih => rw [run_cons, ih, updates, Ledger.after_append, perform_ledger]

theorem gatesAgree_ofSettings (settings : Settings) :
    (ofSettings settings).ledger.GatesAgree settings.profiling.onBoot :=
  Ledger.gatesAgree_setEnabled _ _

end CycleLedger.Session
