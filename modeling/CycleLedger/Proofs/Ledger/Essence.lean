import CycleLedger.Proofs.Ledger.Counts

/-! # What of a sample is counted

A sample says more than its unit looks at. What the unit passes over can be cleared, and a lookup
that did not happen be left out, without the counters telling the difference. A summary leaves
nothing behind that the next one does not replace.
-/

namespace CycleLedger

namespace LookupSample

/-- All that a cache looks at: a miss counts only without a hit, a writeback only with a miss. -/
def forCache (e : LookupSample) : LookupSample where
  accessed := e.accessed
  hit := e.hit
  miss := e.misses
  writeback := e.misses && e.writeback
  isStore := e.isStore

/-- All that the predictor looks at. -/
def forPredictor (e : LookupSample) : LookupSample where
  accessed := e.accessed
  hit := e.hit

end LookupSample

theorem CacheCounters.add_forCache (e : LookupSample) (c : CacheCounters) :
    c.add e.forCache = c.add e := by
  obtain ⟨accessed, hit, miss, writeback, isStore, size, outcome⟩ := e
  cases hit <;> cases miss <;> rfl

theorem PredictorCounters.summarize_add (retired : UInt64) (correct : Bool)
    (c : PredictorCounters) :
    (c.add correct).summarize retired = (c.summarize retired).add correct := by
  cases enabled : c.enabled <;> simp [add, summarize, enabled]

namespace Ledger

/-- What a unit looks at in a sample; of a lookup that did not happen, nothing. -/
def Sample.essence : Sample → List Sample
  | core e => [.core e]
  | lookup kind e => if e.accessed then [.lookup kind e.forCache] else []
  | prediction e => if e.accessed then [.prediction e.forPredictor] else []

theorem after_essence (l : Ledger) (s : Sample) :
    l.after (s.essence.map .sample) = l.update (.sample s) := by
  cases s with
  | core e => rfl
  | lookup kind e =>
    cases accessed : e.accessed with
    | false =>
      have idle (c : CacheCounters) : c.add e = c := by simp [CacheCounters.add, accessed]
      cases kind <;> simp [Sample.essence, update, addLookup, accessed, idle]
    | true =>
      cases kind <;>
        simp [Sample.essence, update, addLookup, accessed, CacheCounters.add_forCache]
  | prediction e =>
    cases accessed : e.accessed <;>
      simp [Sample.essence, update, addPrediction, LookupSample.forPredictor, accessed]

/-- The ledger as if no summary had been taken of it. -/
def unsummarized (l : Ledger) : Ledger := { l with predictor := l.predictor.summarize 0 }

theorem unsummarized_gates (l : Ledger) (change? : Option Bool) :
    (l.after (change?.toList.map .gate)).unsummarized =
      l.unsummarized.after (change?.toList.map .gate) := by
  cases change? <;> rfl

theorem unsummarized_sample (l : Ledger) (s : Sample) :
    (l.update (.sample s)).unsummarized = l.unsummarized.update (.sample s) := by
  cases s with
  | core e => rfl
  | lookup kind e => cases kind <;> rfl
  | prediction e =>
    cases accessed : e.accessed <;>
      simp [update, addPrediction, unsummarized, accessed, PredictorCounters.summarize_add]

theorem unsummarized_samples (l : Ledger) (ss : List Sample) :
    (l.after (ss.map .sample)).unsummarized = l.unsummarized.after (ss.map .sample) := by
  induction ss generalizing l with
  | nil => rfl
  | cons s ss ih => rw [List.map_cons, after_cons, after_cons, ih, unsummarized_sample]

end Ledger

end CycleLedger
