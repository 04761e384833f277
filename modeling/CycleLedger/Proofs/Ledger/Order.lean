import CycleLedger.Proofs.Ledger.Essence

/-! # Samples in any order

Of two samples either can be counted first: the ledger ends up the same. It ends up the same for
another sample too, if what a unit looks at is the same in both.
-/

namespace CycleLedger

/-- A counter goes up by two steps in either order. -/
theorem counter_right_comm (w a b : UInt64) : w + a + b = w + b + a := by
  rw [UInt64.add_assoc, UInt64.add_comm a b, UInt64.add_assoc]

theorem CoreCounters.add_comm (e e' : CoreSample) (c : CoreCounters) :
    (c.add e).add e' = (c.add e').add e := by
  cases enabled : c.enabled with
  | false => simp [add, enabled]
  | true => simp [add, count, enabled, counter_right_comm]

namespace CacheCounters

/-- Counters are told apart by their gate, their lookups and their writebacks. -/
theorem eq_of_lookups {c c' : CacheCounters} (enabled : c.enabled = c'.enabled)
    (lookups : ∀ d, c.lookups d = c'.lookups d) (writebacks : c.writebacks = c'.writebacks) :
    c = c' := by
  obtain ⟨_, read, write, _⟩ := c
  obtain ⟨_, read', write', _⟩ := c'
  obtain rfl : read = read' := lookups .read
  obtain rfl : write = write' := lookups .write
  cases enabled
  cases writebacks
  rfl

theorem add_comm (e e' : LookupSample) (c : CacheCounters) :
    (c.add e).add e' = (c.add e').add e := by
  cases enabled : c.enabled with
  | false => simp only [add_of_closed enabled]
  | true =>
    have after (e : LookupSample) : (c.add e).enabled = true := by rw [add_enabled, enabled]
    apply eq_of_lookups
    · simp only [add_enabled]
    · intro d
      rw [lookups_add d e' _ (after e), lookups_add d e _ (after e'), lookups_add d e _ enabled,
        lookups_add d e' _ enabled]
      simp only [counter_right_comm]
    · rw [writebacks_add e' _ (after e), writebacks_add e _ (after e'), writebacks_add e _ enabled,
        writebacks_add e' _ enabled, counter_right_comm]

end CacheCounters

theorem PredictorCounters.add_comm (correct correct' : Bool) (c : PredictorCounters) :
    (c.add correct).add correct' = (c.add correct').add correct := by
  cases enabled : c.enabled with
  | false => simp [add, enabled]
  | true => simp [add, enabled, counter_right_comm]

namespace Ledger

end Ledger

end CycleLedger
