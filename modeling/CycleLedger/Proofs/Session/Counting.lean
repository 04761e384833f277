import CycleLedger.Proofs.Ledger.Counts
import CycleLedger.Proofs.Session.Run

/-! # What a session counts

A sample is counted if the gate is open when it is delivered, however the gate came to stand so. In
a run of fewer than 2^64 operations every counter is the exact number of the counted samples that it
stands for, and the session has counted every simulated cycle, profiled or not.
-/

namespace CycleLedger.Session

variable {σ : Type} (storage : Storage σ)

/-- The samples of a run that are delivered while the gate is open, in order. -/
def counted : List Operation → Session × σ → List Ledger.Sample
  | [], _ => []
  | op :: ops, x =>
    (if x.1.isProfiling then op.samples else []) ++ counted ops (perform storage op x).result

/-- The operations that log a simulated cycle. -/
def Operation.isCycle : Operation → Bool
  | logCore _ | log _ _ _ _ => true
  | _ => false

/-- Within one operation the gates move before no sample. -/
theorem counted_updates_append (enable : Bool) (op : Operation) (x : Session × σ)
    (us : List Ledger.Update) :
    Ledger.counted enable (op.updates storage x ++ us) =
      (if enable then op.samples else []) ++
        Ledger.counted (Ledger.gateAfter enable (op.updates storage x)) us := by
  cases op with
  | step clock pc =>
    rw [Operation.updates, Operation.samples]
    cases x.1.window.change? pc <;> cases enable <;> rfl
  | finish =>
    rw [Operation.updates, Operation.samples]
    split_ifs <;> rfl
  | direct op => cases op <;> cases enable <;> rfl
  | _ => cases enable <;> rfl

theorem counted_eq (ops : List Operation) (x : Session × σ) {enable : Bool}
    (hg : x.1.ledger.GatesAgree enable) :
    counted storage ops x = Ledger.counted enable (updates storage ops x) := by
  induction ops generalizing x enable with
  | nil => rfl
  | cons op ops ih =>
    have hafter := hg.after (op.updates storage x)
    rw [← perform_ledger] at hafter
    rw [counted, updates, counted_updates_append, ih _ hafter]
    rw [show x.1.isProfiling = enable from hg.isEnabled]

/-- One operation sends each unit at most one sample. -/
theorem within_samples (op : Operation) : Ledger.Within 1 op.samples := by
  cases op with
  | log core fetch data prediction =>
    exact ⟨Nat.le_refl 1, fun kind => by cases kind <;> exact Nat.le_refl 1, Nat.le_refl 1⟩
  | direct op =>
    refine (Ledger.within_length _).mono ?_
    cases op <;> exact Nat.le_of_ble_eq_true rfl
  | logCore e => exact Ledger.within_length [.core e]
  | _ => exact (Ledger.within_length []).mono (Nat.zero_le 1)

theorem within_counted (ops : List Operation) (x : Session × σ) :
    Ledger.Within ops.length (counted storage ops x) := by
  induction ops generalizing x with
  | nil => exact Ledger.within_length []
  | cons op ops ih =>
    have hop : Ledger.Within 1 (if x.1.isProfiling then op.samples else []) := by
      split_ifs
      · exact within_samples op
      · exact (Ledger.within_length []).mono (Nat.zero_le 1)
    rw [List.length_cons, Nat.add_comm, counted]
    exact hop.append (ih _)

theorem perform_cycles (op : Operation) (x : Session × σ) :
    (perform storage op x).result.1.cycles = x.1.cycles + op.isCycle.toUInt64 := by
  obtain ⟨s, place⟩ := x
  cases op with
  | logCore e => rfl
  | log core fetch data prediction => rfl
  | step clock pc =>
    show (s.step clock pc).result.cycles = s.cycles + 0
    rw [step_result, UInt64.add_zero]
  | finish =>
    show (s.finish storage place).result.2.1.cycles = _
    rw [finish_frame]
    simp [setLedger, Operation.isCycle]
  | _ => simp [perform, Noted.map, Operation.isCycle, setProfiling, applyGate, setLedger, trace,
      summary, Noted.quiet]

theorem run_cycles (ops : List Operation) (x : Session × σ)
    (h : x.1.cycles.toNat + ops.length < 2 ^ 64) :
    (run storage ops x).result.1.cycles.toNat = x.1.cycles.toNat + ops.countP (·.isCycle) := by
  induction ops generalizing x with
  | nil => rfl
  | cons op ops ih =>
    rw [List.length_cons] at h
    have hc := toNat_add_flag op.isCycle rfl (by omega : x.1.cycles.toNat + 1 < 2 ^ 64)
    rw [← perform_cycles storage] at hc
    have hb : op.isCycle.toNat ≤ 1 := Bool.toNat_le _
    rw [run_cons, ih _ (by omega), hc, List.countP_cons]
    cases op.isCycle
    · simp
    · simp
      omega

/-- Every counter of a run is the exact number of the counted samples that it stands for. -/
theorem run_counts (settings : Settings) (place : σ) (ops : List Operation)
    (h : ops.length < 2 ^ 64) :
    (run storage ops (ofSettings settings, place)).result.1.ledger.Counts
        (counted storage ops (ofSettings settings, place)) ∧
      (run storage ops (ofSettings settings, place)).result.1.cycles.toNat =
        ops.countP (·.isCycle) := by
  have hg := gatesAgree_ofSettings settings
  have hf := (within_counted storage ops (ofSettings settings, place)).mono (Nat.le_pred_of_lt h)
  constructor
  · rw [run_ledger, counted_eq storage ops _ hg]
    rw [counted_eq storage ops _ hg] at hf
    exact (Ledger.counts_initial.setEnabled _).after hg _ hf
  · have hcycles := run_cycles storage ops (ofSettings settings, place)
      (by simpa [ofSettings] using h)
    simpa [ofSettings] using hcycles

/-- A window that opens, a refused report and a gate moved behind the session's back. -/
theorem run_counts_refused_report :
    let storage : Storage Unit :=
      ⟨fun _ _ => (.error "read-only", ()), fun _ _ _ => (.error "read-only", ())⟩
    let ops : List Operation := [.logCore .retiring, .step 1 0x10000,
      .log (.frontendBound true) (.readMiss 4) (.writeMiss 8 true) (.prediction true), .finish,
      .direct (.setEnabled false), .logCore .retiring]
    let s := (run storage ops (ofSettings {}, ())).result.1
    ops.length < 2 ^ 64 ∧ s.ledger.core.cycles.toNat = 1 ∧
      s.ledger.dataCache.writebacks.toNat = 1 ∧ s.ledger.predictor.correct.toNat = 1 ∧
      s.cycles.toNat = 3 := by
  intro storage ops s
  have hn : ops.length < 2 ^ 64 := by decide
  obtain ⟨hl, hc⟩ := run_counts storage {} () ops hn
  exact ⟨hn, hl.core.cycles, (hl.cache .data).writebacks, hl.predictor.correct, hc⟩

end CycleLedger.Session
