import CycleLedger.Proofs.Session.Counting
import CycleLedger.Proofs.Window.Calls

/-! # The window of a session

A session puts two kinds of calls to its window: each step shows it a program counter, and setting
the profile forces it. What the calls make of the window has a closed form, and a change takes hold
before the samples of its own cycle are counted.
-/

namespace CycleLedger.Session

variable {σ : Type} (storage : Storage σ)

/-- The calls that an operation puts to the window. -/
def Operation.calls : Operation → List Window.Call
  | step _ pc => [.observe pc]
  | setProfiling enable => [.force enable]
  | _ => []

theorem perform_window (op : Operation) (x : Session × σ) :
    (perform storage op x).result.1.window = x.1.window.after op.calls := by
  obtain ⟨s, place⟩ := x
  cases op with
  | step clock pc => exact congrArg (·.window) (step_result s clock pc)
  | finish =>
    show (s.finish storage place).result.2.1.window = _
    rw [finish_frame]
    rfl
  | _ => rfl

theorem run_window (ops : List Operation) (x : Session × σ) :
    (run storage ops x).result.1.window = x.1.window.after (ops.flatMap (·.calls)) := by
  induction ops generalizing x with
  | nil => rfl
  | cons op ops ih =>
    rw [run_cons, ih, perform_window, List.flatMap_cons, Window.after_append]

/-- A change of the window reaches the gates in its own step. -/
theorem step_ledger_of_answer (s : Session) (clock : UInt64) {pc : UInt32} {b : Bool}
    (h : s.window.answer pc = some b) :
    (s.step clock pc).result.ledger = s.ledger.setEnabled b := by
  have hc : s.window.change? pc = some b := h
  rw [step_result, hc]
  rfl

/-- A logged cycle counts if the gate is open, and its other samples count no cycle. -/
theorem core_cycles_of_isCycle (op : Operation) (hop : op.isCycle = true) (x : Session × σ)
    {b : Bool} (h : x.1.ledger.core.enabled = b) :
    (perform storage op x).result.1.ledger.core.cycles =
      x.1.ledger.core.cycles + b.toUInt64 := by
  have hadd (e : CoreSample) :
      (x.1.ledger.core.add e).cycles = x.1.ledger.core.cycles + b.toUInt64 := by
    subst h
    cases he : x.1.ledger.core.enabled <;> simp [CoreCounters.add, CoreCounters.count, he]
  cases op with
  | logCore e => exact hadd e
  | log core fetch data prediction =>
    rw [perform_ledger, ← hadd core]
    show (Ledger.addPrediction prediction _).core.cycles = _
    unfold Ledger.addPrediction
    split <;> rfl
  | _ => simp [Operation.isCycle] at hop

end CycleLedger.Session

namespace CycleLedger.Window

/-- What calls make of the window of the settings, and what it answers. -/
structure ClosedForm (p : ProfilingSettings) (calls : List Call) : Prop where
  /-- Two different bounds: the last call that decides has decided. -/
  distinct : p.singleMatch = false → p.start ≠ p.stop →
    ((ofSettings p).after calls).active = lastSaid p calls
  /-- Bounds that coincide: the last forced state, turned over by each passage since. -/
  coinciding : p.singleMatch = false → p.start = p.stop →
    ((ofSettings p).after calls).active = turnedOver p calls
  /-- A single match goes the same way until an observation closes the window. -/
  unspent : p.singleMatch = true → some false ∉ (ofSettings p).answers calls →
    ((ofSettings p).after calls).active =
      if p.start = p.stop then turnedOver p calls else lastSaid p calls
  /-- The first close goes the same way too, and leaves a window that can only be forced. -/
  spent : p.singleMatch = true → ∀ before pc later, calls = before ++ .observe pc :: later →
    some false ∉ (ofSettings p).answers before →
    ((ofSettings p).after before).answer pc = some false →
    ((ofSettings p).after (before ++ [.observe pc])).active =
        (if p.start = p.stop then turnedOver p (before ++ [.observe pc])
          else lastSaid p (before ++ [.observe pc])) ∧
      (∀ a ∈ ((ofSettings p).after (before ++ [.observe pc])).answers later, a = none) ∧
      ((ofSettings p).after calls).active = lastForced false later
  /-- An observation answers exactly when it changes the window, and says to what. -/
  answer (pc : UInt32) (b : Bool) : ((ofSettings p).after calls).answer pc = some b ↔
    ((ofSettings p).after calls).active ≠ b ∧
      ((ofSettings p).after (calls ++ [.observe pc])).active = b

end CycleLedger.Window

namespace CycleLedger.Session

open Window

variable {σ : Type} (storage : Storage σ)

/--
The calls of a window decide it in closed form; the calls of a session's window are its steps and
forcings; and the cycle of a step that opens the window is counted, that of one that closes it not.
-/
theorem window_closedForm (p : ProfilingSettings) (calls : List Call) :
    ClosedForm p calls ∧
      ∀ (trace : TraceSettings) (report : ReportSettings) (place : σ) (ops : List Operation),
        let x := (run storage ops (ofSettings ⟨p, trace, report⟩, place)).result
        x.1.window = (Window.ofSettings p).after (ops.flatMap (·.calls)) ∧
          ∀ clock pc b, x.1.window.answer pc = some b → ∀ log : Operation, log.isCycle = true →
            (run storage [.step clock pc, log] x).result.1.ledger.core.cycles =
              x.1.ledger.core.cycles + b.toUInt64 := by
  refine ⟨⟨?_, ?_, ?_, ?_, ?_⟩, fun trace report place ops => ?_⟩
  · intro hs hp
    have hu : Unspent p calls := by simp [Unspent, hs]
    rw [hu.active, verdict, if_neg hp]
  · intro hs hp
    have hu : Unspent p calls := by simp [Unspent, hs]
    rw [hu.active, verdict, if_pos hp]
  · intro _ ho
    have hu : Unspent p calls := fun _ => ho
    exact hu.active
  · rintro hs before pc later rfl ho hclose
    have hu : Unspent p before := fun _ => ho
    have hsingle := ((after_frame (Window.ofSettings p) before).2.2).trans hs
    obtain ⟨harmed, hactive⟩ := spent_of_close hsingle hclose
    rw [← after_snoc] at harmed hactive
    refine ⟨hu.active_snoc hu.active _, answers_of_spent harmed later, ?_⟩
    rw [← List.singleton_append, ← List.append_assoc, after_append, active_of_spent harmed,
      hactive]
  · intro pc b
    rw [after_snoc]
    exact answer_eq_some_iff _ pc b
  · intro x
    refine ⟨run_window storage ops _, fun clock pc b hb log hlog => ?_⟩
    have hledger := step_ledger_of_answer x.1 clock hb
    have hcycles := core_cycles_of_isCycle storage log hlog
      (perform storage (.step clock pc) x).result
      (b := b) (congrArg (·.core.enabled) hledger)
    rw [run_cons, run_cons, run_nil, hcycles]
    exact congrArg (·.core.cycles + b.toUInt64) hledger

/-- A window of a single match that closes, ignores its start and is forced open for good. -/
theorem window_closedForm_single_match :
    let storage : Storage Unit := ⟨fun _ _ => (.ok (), ()), fun _ _ _ => (.ok (), ())⟩
    let p : ProfilingSettings := ⟨0x100, 0x200, true, false⟩
    let before : List Call := [.observe 0x100]
    let later : List Call := [.observe 0x100, .force true, .observe 0x200]
    (Window.ofSettings p).answers (before ++ .observe 0x200 :: later) =
        [some true, some false, none, none] ∧
      ((Window.ofSettings p).after (before ++ .observe 0x200 :: later)).active = true ∧
      (run storage [.step 7 0x100, .logCore .retiring]
        (ofSettings ⟨p, {}, {}⟩, ())).result.1.ledger.core.cycles = 1 := by
  intro storage p before later
  obtain ⟨law, session⟩ := window_closedForm storage p (before ++ .observe 0x200 :: later)
  obtain ⟨-, -, hactive⟩ := law.spent rfl before 0x200 later rfl (by decide) (by decide)
  obtain ⟨-, counted⟩ := session {} {} () []
  exact ⟨by decide, hactive, counted 7 0x100 true (by decide) (.logCore .retiring) rfl⟩

end CycleLedger.Session
