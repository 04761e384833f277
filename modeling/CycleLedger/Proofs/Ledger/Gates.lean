import Mathlib.Tactic.SplitIfs
import CycleLedger.Proofs.Ledger.Run

/-! # The gates of a ledger

The four gates open and close together and by nothing else: counting leaves a gate as it stands.
-/

namespace CycleLedger

@[simp] theorem CoreCounters.add_enabled (e : CoreSample) (c : CoreCounters) :
    (c.add e).enabled = c.enabled := by
  unfold add
  split <;> rfl

@[simp] theorem PredictorCounters.add_enabled (correct : Bool) (c : PredictorCounters) :
    (c.add correct).enabled = c.enabled := by
  unfold add
  split <;> rfl

namespace CacheCounters

@[simp] theorem modify_enabled (f : LookupCounters → LookupCounters) (d : Direction)
    (c : CacheCounters) : (c.modify f d).enabled = c.enabled := by
  unfold modify
  cases d <;> split <;> rfl

@[simp] theorem writeback_enabled (c : CacheCounters) : c.writeback.enabled = c.enabled := by
  unfold writeback
  split <;> rfl

@[simp] theorem add_enabled (e : LookupSample) (c : CacheCounters) :
    (c.add e).enabled = c.enabled := by
  simp only [add, reference, hit, miss]
  split_ifs <;> simp

theorem add_of_closed {c : CacheCounters} (h : c.enabled = false) (e : LookupSample) :
    c.add e = c := by
  simp [add, reference, hit, miss, writeback, modify, h]

end CacheCounters

namespace Ledger

/-- All four gates stand alike. -/
structure GatesAgree (enable : Bool) (l : Ledger) : Prop where
  core : l.core.enabled = enable
  predictor : l.predictor.enabled = enable
  cache : ∀ kind, (l.cache kind).enabled = enable

/-- How the gates stand after an update. -/
def Update.gateAfter (enable : Bool) : Update → Bool
  | gate b => b
  | _ => enable

/-- How the gates stand after updates in order. -/
def gateAfter (enable : Bool) (us : List Update) : Bool := us.foldl Update.gateAfter enable

theorem GatesAgree.isEnabled {enable : Bool} {l : Ledger} (h : l.GatesAgree enable) :
    l.isEnabled = enable := h.core

theorem gatesAgree_setEnabled (enable : Bool) (l : Ledger) :
    (l.setEnabled enable).GatesAgree enable :=
  ⟨rfl, rfl, fun kind => by cases kind <;> rfl⟩

theorem GatesAgree.update {enable : Bool} {l : Ledger} (h : l.GatesAgree enable) (u : Update) :
    (l.update u).GatesAgree (u.gateAfter enable) := by
  have hi := h.cache .instruction
  have hd := h.cache .data
  cases u with
  | gate b => exact gatesAgree_setEnabled b l
  | summary => exact ⟨h.core, h.predictor, h.cache⟩
  | sample s =>
    cases s with
    | core e =>
      refine ⟨?_, h.predictor, h.cache⟩
      simpa [Ledger.update, addCore, Update.gateAfter] using h.core
    | lookup kind e =>
      cases kind with
      | instruction =>
        refine ⟨h.core, h.predictor, fun kind => ?_⟩
        cases kind
        · simpa [Ledger.update, addLookup, Ledger.cache, Update.gateAfter] using hi
        · exact hd
      | data =>
        refine ⟨h.core, h.predictor, fun kind => ?_⟩
        cases kind
        · exact hi
        · simpa [Ledger.update, addLookup, Ledger.cache, Update.gateAfter] using hd
    | prediction e =>
      refine ⟨?_, ?_, fun kind => ?_⟩ <;> simp only [Ledger.update, addPrediction] <;> split
      · exact h.core
      · exact h.core
      · simpa [Update.gateAfter] using h.predictor
      · exact h.predictor
      · exact h.cache kind
      · exact h.cache kind

theorem GatesAgree.after {enable : Bool} {l : Ledger} (h : l.GatesAgree enable)
    (us : List Update) : (l.after us).GatesAgree (gateAfter enable us) := by
  induction us generalizing enable l with
  | nil => exact h
  | cons u us ih => exact ih (h.update u)

end Ledger

end CycleLedger
