import Mathlib.Algebra.Group.Nat.Defs
import CycleLedger.Proofs.Ledger.Gates

/-! # What the counters of a ledger count

The counted samples are those delivered while the gates are open. As long as fewer than 2^64 of them
went to each unit, every counter is the exact number of the counted samples that it stands for, so
no addition has wrapped.
-/

namespace CycleLedger

@[simp] theorem toUInt64_false : false.toUInt64 = 0 := rfl

@[simp] theorem toUInt64_true : true.toUInt64 = 1 := rfl

/-- A counter below its last value goes up by one if the flag is set. -/
theorem toNat_add_flag {w : UInt64} {n : Nat} (b : Bool) (h : w.toNat = n) (hn : n + 1 < 2 ^ 64) :
    (w + b.toUInt64).toNat = n + b.toNat := by
  cases b
  · simpa using h
  · rw [UInt64.toNat_add, h]
    exact Nat.mod_eq_of_lt hn

/-- A counter of the elements with a flag stays exact if it goes up by the flag of the next one. -/
theorem toNat_countP_snoc {α : Type} {p : α → Bool} {es : List α} {w : UInt64}
    (h : w.toNat = es.countP p) (e : α) (hn : es.length + 1 < 2 ^ 64) :
    (w + (p e).toUInt64).toNat = (es ++ [e]).countP p := by
  have hle : es.countP p ≤ es.length := List.countP_le_length
  have hp : (p e).toNat = if p e then 1 else 0 := by cases p e <;> rfl
  rw [List.countP_append, List.countP_singleton, ← hp]
  exact toNat_add_flag _ h (by omega)

namespace CoreCounters

structure Counts (es : List CoreSample) (c : CoreCounters) : Prop where
  cycles : c.cycles.toNat = es.length
  badSpeculation : c.badSpeculation.toNat = es.countP (·.badSpeculation)
  frontend : c.frontend.toNat = es.countP (·.frontend)
  frontendCache : c.frontendCache.toNat = es.countP (·.frontendCache)
  backend : c.backend.toNat = es.countP (·.backend)
  backendCache : c.backendCache.toNat = es.countP (·.backendCache)
  simd : c.simd.toNat = es.countP (·.simd)

theorem Counts.setEnabled {es : List CoreSample} {c : CoreCounters} (h : c.Counts es)
    (enable : Bool) : (c.setEnabled enable).Counts es :=
  ⟨h.1, h.2, h.3, h.4, h.5, h.6, h.7⟩

theorem Counts.add {es : List CoreSample} {c : CoreCounters} (h : c.Counts es)
    (ho : c.enabled = true) (e : CoreSample) (hn : es.length + 1 < 2 ^ 64) :
    (c.add e).Counts (es ++ [e]) := by
  rw [CoreCounters.add, if_pos ho]
  constructor
  · rw [List.length_append]
    exact toNat_add_flag true h.cycles hn
  · exact toNat_countP_snoc h.badSpeculation e hn
  · exact toNat_countP_snoc h.frontend e hn
  · exact toNat_countP_snoc h.frontendCache e hn
  · exact toNat_countP_snoc h.backend e hn
  · exact toNat_countP_snoc h.backendCache e hn
  · exact toNat_countP_snoc h.simd e hn

end CoreCounters

namespace LookupSample

/-- A lookup that happened in the direction: a store writes, all else reads. -/
def refers : Direction → LookupSample → Bool
  | .read, e => e.accessed && !e.isStore
  | .write, e => e.accessed && e.isStore

/-- A hit wins over a miss in the same sample. -/
def misses (e : LookupSample) : Bool := e.miss && !e.hit

end LookupSample

namespace CacheCounters

structure Counts (es : List LookupSample) (c : CacheCounters) : Prop where
  references (d : Direction) : (c.lookups d).references.toNat = es.countP (·.refers d)
  hits (d : Direction) : (c.lookups d).hits.toNat = es.countP fun e => e.refers d && e.hit
  misses (d : Direction) : (c.lookups d).misses.toNat = es.countP fun e => e.refers d && e.misses
  writebacks : c.writebacks.toNat = es.countP fun e => e.accessed && e.misses && e.writeback

theorem Counts.setEnabled {es : List LookupSample} {c : CacheCounters} (h : c.Counts es)
    (enable : Bool) : (c.setEnabled enable).Counts es := by
  have hl (d : Direction) : (c.setEnabled enable).lookups d = c.lookups d := by cases d <;> rfl
  exact ⟨fun d => hl d ▸ h.references d, fun d => hl d ▸ h.hits d, fun d => hl d ▸ h.misses d,
    h.writebacks⟩

/-- All that one sample does to the counters of one direction. -/
theorem lookups_add (d : Direction) (e : LookupSample) (c : CacheCounters)
    (ho : c.enabled = true) :
    (c.add e).lookups d =
      { references := (c.lookups d).references + (e.refers d).toUInt64
        hits := (c.lookups d).hits + (e.refers d && e.hit).toUInt64
        misses := (c.lookups d).misses + (e.refers d && e.misses).toUInt64 } := by
  obtain ⟨accessed, hit, miss, writeback, isStore, size, outcome⟩ := e
  cases accessed <;> cases hit <;> cases miss <;> cases writeback <;> cases isStore <;> cases d <;>
    simp [add, reference, CacheCounters.hit, CacheCounters.miss, CacheCounters.writeback, modify,
      lookups, LookupSample.refers, LookupSample.misses, LookupSample.direction,
      Direction.ofStore, ho]

theorem writebacks_add (e : LookupSample) (c : CacheCounters) (ho : c.enabled = true) :
    (c.add e).writebacks = c.writebacks + (e.accessed && e.misses && e.writeback).toUInt64 := by
  obtain ⟨accessed, hit, miss, writeback, isStore, size, outcome⟩ := e
  cases accessed <;> cases hit <;> cases miss <;> cases writeback <;> cases isStore <;>
    simp [add, reference, CacheCounters.hit, CacheCounters.miss, CacheCounters.writeback, modify,
      LookupSample.misses, LookupSample.direction, Direction.ofStore, ho]

theorem Counts.add {es : List LookupSample} {c : CacheCounters} (h : c.Counts es)
    (ho : c.enabled = true) (e : LookupSample) (hn : es.length + 1 < 2 ^ 64) :
    (c.add e).Counts (es ++ [e]) := by
  constructor
  · intro d
    rw [lookups_add d e c ho]
    exact toNat_countP_snoc (h.references d) e hn
  · intro d
    rw [lookups_add d e c ho]
    exact toNat_countP_snoc (h.hits d) e hn
  · intro d
    rw [lookups_add d e c ho]
    exact toNat_countP_snoc (h.misses d) e hn
  · rw [writebacks_add e c ho]
    exact toNat_countP_snoc h.writebacks e hn

end CacheCounters

namespace PredictorCounters

/-- `es` are the lookups in the predictor, whether they happened or not. -/
structure Counts (es : List LookupSample) (c : PredictorCounters) : Prop where
  total : c.total.toNat = es.countP (·.accessed)
  correct : c.correct.toNat = es.countP fun e => e.accessed && e.hit

theorem Counts.setEnabled {es : List LookupSample} {c : PredictorCounters} (h : c.Counts es)
    (enable : Bool) : (c.setEnabled enable).Counts es := ⟨h.total, h.correct⟩

theorem Counts.add {es : List LookupSample} {c : PredictorCounters} (h : c.Counts es)
    (ho : c.enabled = true) (e : LookupSample) (hn : es.length + 1 < 2 ^ 64) :
    (if e.accessed then c.add e.hit else c).Counts (es ++ [e]) := by
  have ht := toNat_countP_snoc h.total e hn
  have hc := toNat_countP_snoc h.correct e hn
  cases ha : e.accessed with
  | false => exact ⟨by simpa [ha] using ht, by simpa [ha] using hc⟩
  | true =>
    rw [if_pos rfl, PredictorCounters.add, if_pos ho]
    exact ⟨by simpa [ha] using ht, by simpa [ha] using hc⟩

end PredictorCounters

namespace Ledger

namespace Sample

def core? : Sample → Option CoreSample
  | core e => some e
  | _ => none

def lookup? (kind : CacheKind) : Sample → Option LookupSample
  | lookup k e => if k = kind then some e else none
  | _ => none

def prediction? : Sample → Option LookupSample
  | prediction e => some e
  | _ => none

end Sample

def coreSamples (ss : List Sample) : List CoreSample := ss.filterMap Sample.core?

def lookups (kind : CacheKind) (ss : List Sample) : List LookupSample :=
  ss.filterMap (Sample.lookup? kind)

def predictions (ss : List Sample) : List LookupSample := ss.filterMap Sample.prediction?

theorem coreSamples_snoc (ss : List Sample) (s : Sample) :
    coreSamples (ss ++ [s]) = coreSamples ss ++ s.core?.toList := by
  cases s <;> simp [coreSamples, Sample.core?]

theorem lookups_snoc (kind : CacheKind) (ss : List Sample) (s : Sample) :
    lookups kind (ss ++ [s]) = lookups kind ss ++ (s.lookup? kind).toList := by
  cases h : s.lookup? kind <;> simp [lookups, h]

theorem predictions_snoc (ss : List Sample) (s : Sample) :
    predictions (ss ++ [s]) = predictions ss ++ s.prediction?.toList := by
  cases s <;> simp [predictions, Sample.prediction?]

/-- The counters of all units are exact. -/
structure Counts (ss : List Sample) (l : Ledger) : Prop where
  core : l.core.Counts (coreSamples ss)
  cache (kind : CacheKind) : (l.cache kind).Counts (lookups kind ss)
  predictor : l.predictor.Counts (predictions ss)

/-- No unit has been sent more than `n` samples. -/
structure Within (n : Nat) (ss : List Sample) : Prop where
  core : (coreSamples ss).length ≤ n
  cache (kind : CacheKind) : (lookups kind ss).length ≤ n
  predictor : (predictions ss).length ≤ n

theorem Within.append {m n : Nat} {ss ts : List Sample} (h : Within m ss) (ht : Within n ts) :
    Within (m + n) (ss ++ ts) := by
  refine ⟨?_, fun kind => ?_, ?_⟩ <;>
    simp only [coreSamples, lookups, predictions, List.filterMap_append, List.length_append]
  · exact Nat.add_le_add h.core ht.core
  · exact Nat.add_le_add (h.cache kind) (ht.cache kind)
  · exact Nat.add_le_add h.predictor ht.predictor

theorem Within.of_append {n : Nat} {ss ts : List Sample} (h : Within n (ss ++ ts)) :
    Within n ss := by
  refine ⟨Nat.le_trans ?_ h.core, fun kind => Nat.le_trans ?_ (h.cache kind),
    Nat.le_trans ?_ h.predictor⟩ <;>
    simp [coreSamples, lookups, predictions, List.filterMap_append]

theorem within_length (ss : List Sample) : Within ss.length ss :=
  ⟨List.length_filterMap_le _ _, fun _ => List.length_filterMap_le _ _,
    List.length_filterMap_le _ _⟩

theorem Within.mono {m n : Nat} {ss : List Sample} (h : Within m ss) (hmn : m ≤ n) :
    Within n ss :=
  ⟨Nat.le_trans h.core hmn, fun kind => Nat.le_trans (h.cache kind) hmn,
    Nat.le_trans h.predictor hmn⟩

/-- The samples that updates deliver while the gates are open. -/
def counted : Bool → List Update → List Sample
  | _, [] => []
  | enable, .sample s :: us => if enable then s :: counted enable us else counted enable us
  | enable, u :: us => counted (u.gateAfter enable) us

theorem counts_initial : Counts [] {} :=
  ⟨⟨rfl, rfl, rfl, rfl, rfl, rfl, rfl⟩,
    fun kind => ⟨fun d => by cases kind <;> cases d <;> rfl,
      fun d => by cases kind <;> cases d <;> rfl, fun d => by cases kind <;> cases d <;> rfl,
      by cases kind <;> rfl⟩,
    ⟨rfl, rfl⟩⟩

theorem Counts.setEnabled {ss : List Sample} {l : Ledger} (h : l.Counts ss) (enable : Bool) :
    (l.setEnabled enable).Counts ss := by
  refine ⟨h.core.setEnabled enable, fun kind => ?_, h.predictor.setEnabled enable⟩
  have hk := (h.cache kind).setEnabled enable
  cases kind <;> exact hk

theorem Counts.summarize {ss : List Sample} {l : Ledger} (h : l.Counts ss) :
    l.summarize.Counts ss := ⟨h.core, h.cache, ⟨h.predictor.total, h.predictor.correct⟩⟩

/-- A sample that meets open gates joins the counted ones. -/
theorem Counts.sample {ss : List Sample} {l : Ledger} (h : l.Counts ss) (hg : l.GatesAgree true)
    (s : Sample) (hf : Within (2 ^ 64 - 1) (ss ++ [s])) :
    (l.update (.sample s)).Counts (ss ++ [s]) := by
  have hcore := hf.core
  have hcache := hf.cache
  have hpredictor := hf.predictor
  simp only [coreSamples_snoc, List.length_append] at hcore
  simp only [lookups_snoc, List.length_append] at hcache
  simp only [predictions_snoc, List.length_append] at hpredictor
  cases s with
  | core e =>
    refine ⟨?_, fun kind => ?_, ?_⟩ <;>
      simp only [coreSamples_snoc, lookups_snoc, predictions_snoc, Sample.lookup?,
        Sample.prediction?, Option.toList_none, List.append_nil]
    · exact h.core.add hg.core e (by simpa [Sample.core?] using Nat.lt_succ_of_le hcore)
    · cases kind <;> exact h.cache _
    · exact h.predictor
  | lookup kind e =>
    have hk := (h.cache kind).add (hg.cache kind) e
      (by simpa [Sample.lookup?] using Nat.lt_succ_of_le (hcache kind))
    refine ⟨?_, fun k => ?_, ?_⟩ <;>
      simp only [coreSamples_snoc, lookups_snoc, predictions_snoc, Sample.core?,
        Sample.prediction?, Option.toList_none, List.append_nil]
    · cases kind <;> exact h.core
    · have hother := h.cache k
      cases kind <;> cases k <;> simp [Sample.lookup?] at hother ⊢ <;> assumption
    · cases kind <;> exact h.predictor
  | prediction e =>
    have hp := h.predictor.add hg.predictor e
      (by simpa [Sample.prediction?] using Nat.lt_succ_of_le hpredictor)
    refine ⟨?_, fun kind => ?_, ?_⟩ <;>
      simp only [coreSamples_snoc, lookups_snoc, predictions_snoc, Sample.core?, Sample.lookup?,
        Option.toList_none, List.append_nil, Ledger.update, addPrediction]
    · cases e.accessed <;> exact h.core
    · cases e.accessed <;> cases kind <;> exact h.cache _
    · cases he : e.accessed <;> simpa [Sample.prediction?, he] using hp

/-- Closed gates let no sample pass. -/
theorem update_sample_of_closed {l : Ledger} (hg : l.GatesAgree false) (s : Sample) :
    l.update (.sample s) = l := by
  cases s with
  | core e => simp [update, addCore, CoreCounters.add, hg.core]
  | lookup kind e =>
    have hk : (l.cache kind).add e = l.cache kind := CacheCounters.add_of_closed (hg.cache kind) e
    cases kind <;> simp only [update, addLookup] <;> exact hk ▸ rfl
  | prediction e => simp [update, addPrediction, PredictorCounters.add, hg.predictor]

/-- Whatever is delivered and however the gates move, the counters count what met open gates. -/
theorem Counts.after {enable : Bool} {ss : List Sample} {l : Ledger} (h : l.Counts ss)
    (hg : l.GatesAgree enable) (us : List Update)
    (hf : Within (2 ^ 64 - 1) (ss ++ counted enable us)) :
    (l.after us).Counts (ss ++ counted enable us) := by
  induction us generalizing enable ss l with
  | nil => simpa [counted] using h
  | cons u us ih =>
    have hu := hg.update u
    cases u with
    | gate b => exact ih (h.setEnabled b) hu hf
    | summary => exact ih h.summarize hu hf
    | sample s =>
      cases enable with
      | false =>
        rw [after_cons, update_sample_of_closed hg]
        exact ih h hg hf
      | true =>
        simp only [counted, if_true] at hf ⊢
        rw [← List.singleton_append, ← List.append_assoc] at hf ⊢
        exact ih (h.sample hg s hf.of_append) hu hf

end Ledger

end CycleLedger
