import CycleLedger.Proofs.Session.Gates

/-! # What forcing promises

A window waits for one program counter: for its stop while it is active, for its start while it is
not. A session that is forced either way stays there until the program counter comes that its window
then waits for. This turns the gate over, except that a spent window lets it pass.
-/

namespace CycleLedger

namespace Window

/-- The program counter that the window waits for. -/
def awaited (w : Window) : UInt32 := if w.active then w.stop else w.start

theorem awaited_force (w : Window) (active : Bool) :
    (w.force active).awaited = if active then w.stop else w.start := rfl

/-- The window lets every other program counter pass. -/
theorem call_observe_of_ne {w : Window} {pc : UInt32} (h : pc ≠ w.awaited) :
    w.call (.observe pc) = w := by
  have quiet : w.answer pc = none := by
    cases armed : w.armed
    · exact answer_of_spent armed pc
    · rw [answer_of_armed armed]
      exact if_neg h
  show apply (w.answer pc) w = w
  rw [quiet, apply]

/-- The awaited program counter turns the window over unless it is spent. -/
theorem active_observe_awaited (w : Window) :
    (w.call (.observe w.awaited)).active = (w.active ^^ w.armed) := by
  rw [active_observe]
  cases armed : w.armed
  · rw [answer_of_spent armed, Option.getD_none, Bool.xor_false]
  · rw [answer_of_armed armed, awaited, if_pos rfl, Option.getD_some, Bool.xor_true]

/-- What spends a window is an answer that closes it, if a single match is all it takes. -/
theorem armed_iff_unspent (p : ProfilingSettings) (calls : List Call) :
    ((ofSettings p).after calls).armed = true ↔ Unspent p calls := by
  induction calls using List.reverseRecOn with
  | nil => simp [Unspent, answers, ofSettings]
  | append_singleton calls c ih =>
    have single : ((ofSettings p).after calls).singleMatch = p.singleMatch :=
      (after_frame (ofSettings p) calls).2.2
    rw [after_snoc, armed_call, single, Bool.and_eq_true, ih]
    simp only [Unspent, answers_snoc, List.mem_append]
    cases p.singleMatch <;> simp

end Window

namespace Session

variable {σ : Type} (storage : Storage σ)

/-- The operation neither moves a gate by itself nor shows the window the program counter. -/
def Operation.avoids (pc : UInt32) : Operation → Bool
  | step _ other => other != pc
  | setProfiling _ | direct (.setEnabled _) => false
  | _ => true

theorem Operation.isBypass_of_avoids {pc : UInt32} {op : Operation} (h : op.avoids pc = true) :
    op.isBypass = false := by
  cases op with
  | direct op =>
    cases op with
    | setEnabled enable => simp [avoids] at h
    | _ => rfl
  | _ => rfl

theorem window_perform_of_avoids {op : Operation} {x : Session × σ}
    (h : op.avoids x.1.window.awaited = true) :
    (perform storage op x).result.1.window = x.1.window := by
  rw [perform_window]
  cases op with
  | step clock pc =>
    have elsewhere : pc ≠ x.1.window.awaited := by simpa [Operation.avoids] using h
    exact Window.call_observe_of_ne elsewhere
  | setProfiling enable => simp [Operation.avoids] at h
  | _ => rfl

/-- Nothing moves a window for as long as the program counter does not come that it waits for. -/
theorem window_run_of_avoids {ops : List Operation} {x : Session × σ}
    (h : ∀ op ∈ ops, op.avoids x.1.window.awaited = true) :
    (run storage ops x).result.1.window = x.1.window := by
  apply run_keeps storage (P := fun s => s.window = x.1.window) rfl
  intro op hop y same
  rw [← same] at h ⊢
  exact window_perform_of_avoids storage (h op hop)

/-- Forced either way, the window of a session waits for its bound on that side. -/
theorem awaited_force_run (settings : Settings) (place : σ) (ops : List Operation)
    (enable : Bool) :
    ((run storage ops (ofSettings settings, place)).result.1.window.force enable).awaited =
      if enable then settings.profiling.stop else settings.profiling.start := by
  obtain ⟨start, stop, -⟩ :=
    Window.after_frame (Window.ofSettings settings.profiling) (ops.flatMap (·.calls))
  rw [Window.awaited_force, run_window]
  exact congrArg₂ (fun stop start => if enable then stop else start) stop start

/--
In whatever state a session is forced to open or close, its gate stays there until the program
counter comes that closes or opens it. That one turns it over exactly if the window takes more than
a single match or no program counter has closed it before.
-/
theorem forced_gate (settings : Settings) (place : σ) (ops later : List Operation) (enable : Bool) :
    let p := settings.profiling
    let bound := if enable then p.stop else p.start
    (∀ op ∈ later, op.avoids bound = true) →
      let x := (run storage ops (ofSettings settings, place)).result
      let s := (run storage (.setProfiling enable :: later) x).result.1
      s.isProfiling = enable ∧
        ∀ clock, (s.step clock bound).result.isProfiling = !enable ↔
          Window.Unspent p (ops.flatMap (·.calls)) := by
  intro p bound avoids x s
  let forced := (perform storage (.setProfiling enable) x).result
  have awaited : forced.1.window.awaited = bound :=
    awaited_force_run storage settings place ops enable
  have window : s.window = x.1.window.force enable :=
    window_run_of_avoids storage (x := forced) (by rwa [awaited])
  have through : ∀ op ∈ later, op.isBypass = false :=
    fun op hop => Operation.isBypass_of_avoids (avoids op hop)
  have aligned : s.Aligned :=
    Aligned.after_run storage (x := forced) (aligned_setProfiling x.1 enable) through
  refine ⟨?_, fun clock => ?_⟩
  · rw [aligned.isProfiling_eq, window, Window.force]
  · have armed : x.1.window.armed = true ↔ Window.Unspent p (ops.flatMap (·.calls)) := by
      rw [run_window]
      exact Window.armed_iff_unspent p _
    have turned : (s.step clock bound).result.isProfiling = (enable ^^ x.1.window.armed) := by
      rw [aligned.isProfiling_step, window, ← awaited]
      exact Window.active_observe_awaited (x.1.window.force enable)
    rw [turned, ← armed]
    cases enable <;> simp

/--
A gate forced open in a window that has not been closed yet: it outlasts a passage of the start, a
summary and a cycle, and closes at the stop.
-/
theorem forced_gate_single_match :
    let storage : Storage Unit := ⟨fun _ _ => (.ok (), ()), fun _ _ _ => (.ok (), ())⟩
    let settings : Settings := { profiling := ⟨0x100, 0x200, true, false⟩ }
    let later : List Operation := [.step 4 0x100, .summary, .logCore .retiring]
    let x := (run storage [.step 3 0x100] (ofSettings settings, ())).result
    let s := (run storage (.setProfiling true :: later) x).result.1
    (∀ op ∈ later, op.avoids 0x200 = true) ∧ s.isProfiling = true ∧
      (s.step 5 0x200).result.isProfiling = false := by
  intro storage settings later x s
  have avoids : ∀ op ∈ later, op.avoids 0x200 = true := by simp [later, Operation.avoids]
  obtain ⟨stays, turns⟩ := forced_gate storage settings () [.step 3 0x100] later true avoids
  exact ⟨avoids, stays, (turns 5).2 fun _ => by decide⟩

/-- Once its stop has closed a window of a single match, a gate that is forced open passes it. -/
theorem forced_gate_spent :
    let storage : Storage Unit := ⟨fun _ _ => (.ok (), ()), fun _ _ _ => (.ok (), ())⟩
    let settings : Settings := { profiling := ⟨0x100, 0x200, true, false⟩ }
    let s := (run storage [.step 1 0x100, .step 2 0x200, .setProfiling true]
      (ofSettings settings, ())).result.1
    (s.step 3 settings.profiling.stop).result.isProfiling = true := by
  decide

end Session

end CycleLedger
