import CycleLedger.Proofs.Core.Breakdown
import CycleLedger.Proofs.Ledger.Counts

/-! # Runs of the core's counters

The gate of a core is moved and cycles are sampled in any order. The counters are exact for the
samples that met an open gate, as long as these are fewer than 2^64.
-/

namespace CycleLedger.CoreCounters

inductive Call where
  | gate (enable : Bool)
  | sample (e : CoreSample)
deriving DecidableEq

def call (c : CoreCounters) : Call → CoreCounters
  | .gate enable => c.setEnabled enable
  | .sample e => c.add e

/-- The counters after calls in order. -/
def after (c : CoreCounters) (calls : List Call) : CoreCounters := calls.foldl call c

/-- The samples that calls deliver while the gate is open. -/
def counted : Bool → List Call → List CoreSample
  | _, [] => []
  | _, .gate enable :: calls => counted enable calls
  | enable, .sample e :: calls => if enable then e :: counted enable calls else counted enable calls

theorem counts_initial : ({} : CoreCounters).Counts [] := ⟨rfl, rfl, rfl, rfl, rfl, rfl, rfl⟩

theorem call_sample_of_closed {c : CoreCounters} (h : c.enabled = false) (e : CoreSample) :
    c.call (.sample e) = c := by
  simp [call, CoreCounters.add, h]

/-- However the gate moves, the counters count what met an open gate. -/
theorem Counts.after {enable : Bool} {es : List CoreSample} {c : CoreCounters} (h : c.Counts es)
    (hc : c.enabled = enable) (calls : List Call)
    (few : (es ++ counted enable calls).length < 2 ^ 64) :
    (c.after calls).Counts (es ++ counted enable calls) := by
  induction calls generalizing enable c es with
  | nil =>
    rw [counted, List.append_nil]
    exact h
  | cons x calls ih =>
    have step : c.after (x :: calls) = (c.call x).after calls := rfl
    rw [step]
    cases x with
    | gate b => exact ih (h.setEnabled b) rfl few
    | sample e =>
      cases enable with
      | false =>
        rw [call_sample_of_closed hc]
        exact ih h hc few
      | true =>
        rw [counted, if_pos rfl, ← List.singleton_append, ← List.append_assoc] at few ⊢
        have next : es.length + 1 < 2 ^ 64 := by
          simp only [List.length_append, List.length_singleton] at few
          omega
        exact ih (h.add hc e next) ((c.add_enabled e).trans hc) few

/-- The counters of a new core after calls. -/
theorem counts_after (calls : List Call) (few : (counted false calls).length < 2 ^ 64) :
    (({} : CoreCounters).after calls).Counts (counted false calls) :=
  counts_initial.after rfl calls few

/-- The stall flags of samples, those of one sample each for itself. -/
def flagCount (es : List CoreSample) : Nat :=
  es.countP (·.badSpeculation) + es.countP (·.frontend) + es.countP (·.backend)

theorem Counts.stallFlags_eq {es : List CoreSample} {c : CoreCounters} (h : c.Counts es) :
    c.stallFlags = flagCount es := by
  rw [stallFlags, flagCount, h.badSpeculation, h.frontend, h.backend]

/-- When counted samples leave a consistent breakdown. -/
theorem Counts.isConsistent_iff {es : List CoreSample} {c : CoreCounters} (h : c.Counts es)
    (few : flagCount es < 2 ^ 64) :
    c.breakdown.isConsistent = true ↔ flagCount es ≤ es.length ∧
      es.countP (·.frontendCache) ≤ es.countP (·.frontend) ∧
      es.countP (·.backendCache) ≤ es.countP (·.backend) ∧
      es.countP (·.simd) ≤ es.length - flagCount es := by
  rw [← h.stallFlags_eq] at few ⊢
  rw [CoreCounters.isConsistent_iff c few, h.cycles, h.frontendCache, h.frontend, h.backendCache,
    h.backend, h.simd]

end CycleLedger.CoreCounters
