import CycleLedger.Proofs.Session.Window

/-! # The gates of a session

Whether a session counts is kept in five places: in its window and in the four units of its ledger.
Whatever goes through the session moves all five. Gates moved on the ledger itself leave the window
behind, until the profile is set or a program counter turns the window over.
-/

namespace CycleLedger.Session

variable {σ : Type} (storage : Storage σ)

/-- Every unit counts exactly if the window is active. -/
def Aligned (s : Session) : Prop := s.ledger.GatesAgree s.window.active

namespace Operation

/-- The operation moves the gates on the ledger itself, past the window. -/
def isBypass : Operation → Bool
  | direct (.setEnabled _) => true
  | _ => false

/-- The operation sets the profile, or its program counter opens or closes the window. -/
def decides (s : Session) : Operation → Bool
  | setProfiling _ => true
  | step _ pc => (s.window.answer pc).isSome
  | _ => false

end Operation

theorem Aligned.isProfiling_eq {s : Session} (h : s.Aligned) : s.isProfiling = s.window.active :=
  h.isEnabled

theorem aligned_ofSettings (settings : Settings) : (ofSettings settings).Aligned :=
  gatesAgree_ofSettings settings

theorem aligned_setProfiling (s : Session) (enable : Bool) :
    (s.setProfiling enable).result.Aligned :=
  Ledger.gatesAgree_setEnabled enable s.ledger

/-- A window that turns over takes the gates along, wherever they have stood. -/
theorem aligned_step_of_answer (s : Session) (clock : UInt64) {pc : UInt32} {b : Bool}
    (h : s.window.answer pc = some b) : (s.step clock pc).result.Aligned := by
  have active : (s.window.call (.observe pc)).active = b := by
    rw [Window.active_observe, h, Option.getD_some]
  rw [Aligned, step_ledger_of_answer s clock h, step_result]
  show (s.ledger.setEnabled b).GatesAgree (s.window.call (.observe pc)).active
  rw [active]
  exact Ledger.gatesAgree_setEnabled b s.ledger

theorem aligned_of_decides {op : Operation} {x : Session × σ} (h : op.decides x.1 = true) :
    (perform storage op x).result.1.Aligned := by
  cases op with
  | step clock pc =>
    obtain ⟨b, answer⟩ := Option.isSome_iff_exists.mp h
    exact aligned_step_of_answer x.1 clock answer
  | setProfiling enable => exact aligned_setProfiling x.1 enable
  | _ => simp [Operation.decides] at h

theorem gateAfter_change (enable : Bool) (change? : Option Bool) :
    Ledger.gateAfter enable (change?.toList.map .gate) = change?.getD enable := by
  cases change? <;> rfl

/-- The gate behind a step is the window behind it. -/
theorem Aligned.isProfiling_step {s : Session} (h : s.Aligned) (clock : UInt64) (pc : UInt32) :
    (s.step clock pc).result.isProfiling = (s.window.call (.observe pc)).active := by
  have gates := Ledger.GatesAgree.after h ((s.window.change? pc).toList.map .gate)
  rw [step_result, isProfiling, gates.isEnabled, gateAfter_change, Window.active_observe]
  rfl

/-- An operation that goes through the session leaves the gates where it leaves the window. -/
theorem gateAfter_updates {op : Operation} (h : op.isBypass = false) (x : Session × σ) :
    Ledger.gateAfter x.1.window.active (op.updates storage x) =
      (x.1.window.after op.calls).active := by
  cases op with
  | step clock pc =>
    rw [Operation.calls, Window.after_cons, Window.after_nil, Window.active_observe]
    exact gateAfter_change x.1.window.active (x.1.window.answer pc)
  | finish =>
    rw [Operation.updates]
    split_ifs <;> rfl
  | direct op =>
    cases op with
    | setEnabled enable => simp [Operation.isBypass] at h
    | _ => rfl
  | _ => rfl

theorem Aligned.after_perform {x : Session × σ} (h : x.1.Aligned) {op : Operation}
    (through : op.isBypass = false) : (perform storage op x).result.1.Aligned := by
  have after := Ledger.GatesAgree.after h (op.updates storage x)
  rw [← perform_ledger, gateAfter_updates storage through, ← perform_window storage] at after
  exact after

theorem Aligned.after_run {x : Session × σ} (h : x.1.Aligned) {ops : List Operation}
    (through : ∀ op ∈ ops, op.isBypass = false) : (run storage ops x).result.1.Aligned := by
  apply run_keeps storage h
  intro op hop y aligned
  exact aligned.after_perform storage (through op hop)

/-- Whatever moves the gates, they go on to stand alike. -/
theorem gatesAgree_run {enable : Bool} {x : Session × σ} (h : x.1.ledger.GatesAgree enable)
    (ops : List Operation) :
    (run storage ops x).result.1.ledger.GatesAgree (run storage ops x).result.1.isProfiling := by
  have gates := h.after (updates storage ops x)
  rw [← run_ledger] at gates
  rw [isProfiling, gates.isEnabled]
  exact gates

/--
The gates of all units follow the window as long as nobody moves them past it. Moved past it they
still stand alike, and the next operation that decides the window brings them back for good.
-/
theorem gates_follow_window (settings : Settings) (place : σ) (ops : List Operation) :
    let x := (run storage ops (ofSettings settings, place)).result
    ((∀ op ∈ ops, op.isBypass = false) →
        x.1.Aligned ∧ x.1.isProfiling = x.1.window.active) ∧
      x.1.ledger.GatesAgree x.1.isProfiling ∧
      ∀ op, op.decides x.1 = true → ∀ later, (∀ o ∈ later, o.isBypass = false) →
        let s := (run storage (op :: later) x).result.1
        s.Aligned ∧ s.isProfiling = s.window.active := by
  intro x
  refine ⟨fun through => ?_, gatesAgree_run storage (gatesAgree_ofSettings settings) ops, ?_⟩
  · have aligned : x.1.Aligned := (aligned_ofSettings settings).after_run storage through
    exact ⟨aligned, aligned.isProfiling_eq⟩
  · intro op decides later through s
    have aligned : s.Aligned := (aligned_of_decides storage decides).after_run storage through
    exact ⟨aligned, aligned.isProfiling_eq⟩

/-- Gates moved past a closed window stay open beside it, until its start opens it as well. -/
theorem gates_follow_window_bypassed :
    let storage : Storage Unit := ⟨fun _ _ => (.ok (), ()), fun _ _ _ => (.ok (), ())⟩
    let before : List Operation := [.step 1 0x20000, .logCore .retiring]
    let bypass : List Operation := before ++ [.direct (.setEnabled true)]
    let later : List Operation := [.step 2 0x10000, .summary, .direct .report]
    let after (ops : List Operation) := (run storage ops (ofSettings {}, ())).result
    (after before).1.Aligned ∧ (after bypass).1.window.active = false ∧
      (after bypass).1.ledger.GatesAgree true ∧
      (run storage later (after bypass)).result.1.Aligned := by
  intro storage before bypass later after
  obtain ⟨follow, -⟩ := gates_follow_window storage {} () before
  obtain ⟨-, alike, back⟩ := gates_follow_window storage {} () bypass
  have through : ∀ op ∈ before, op.isBypass = false := by simp [before, Operation.isBypass]
  refine ⟨(follow through).1, by decide, alike, (back (.step 2 0x10000) (by decide) _ ?_).1⟩
  simp [Operation.isBypass]

end CycleLedger.Session
