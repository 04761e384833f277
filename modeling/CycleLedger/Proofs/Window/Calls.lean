import CycleLedger.Window
import Mathlib.Data.List.Induction
import Mathlib.Tactic.SplitIfs

/-! # Calls of a window

A window is asked to look at program counters and is forced, in any order. While it is armed, the
last call that decides says whether it is active: of two different bounds each decides for its own
side, and a window whose bounds coincide turns over at each passage. A window of a single match goes
the same way up to the first close that a program counter brings; from there on only forcing counts.
-/

namespace CycleLedger.Window

inductive Call where
  | observe (pc : UInt32)
  | force (active : Bool)
deriving DecidableEq

/-- What an observation answers: the change it makes, if any. -/
def answer (w : Window) (pc : UInt32) : Option Bool := (w.observe pc).result.1

def call (w : Window) : Call → Window
  | .observe pc => (w.observe pc).result.2
  | .force active => w.force active

/-- The window after calls in order. -/
def after (w : Window) (calls : List Call) : Window := calls.foldl call w

/-- The answers of all observations among the calls. -/
def answers (w : Window) : List Call → List (Option Bool)
  | [] => []
  | .observe pc :: calls => w.answer pc :: (w.call (.observe pc)).answers calls
  | .force active :: calls => (w.call (.force active)).answers calls

@[simp] theorem after_nil (w : Window) : w.after [] = w := rfl

@[simp] theorem after_cons (w : Window) (c : Call) (calls : List Call) :
    w.after (c :: calls) = (w.call c).after calls := rfl

theorem after_append (w : Window) (calls later : List Call) :
    w.after (calls ++ later) = (w.after calls).after later := List.foldl_append

theorem after_snoc (w : Window) (calls : List Call) (c : Call) :
    w.after (calls ++ [c]) = (w.after calls).call c := after_append w calls [c]

/-! ## What the calls say -/

/-- Which way a call decides by itself, if it does. -/
def Call.says? (p : ProfilingSettings) : Call → Option Bool
  | force active => some active
  | observe pc => if pc = p.start then some true else if pc = p.stop then some false else none

def Call.forced? : Call → Option Bool
  | force active => some active
  | observe _ => none

/-- The last decision among the calls. -/
def lastSaid (p : ProfilingSettings) (calls : List Call) : Bool :=
  (calls.reverse.findSome? (Call.says? p)).getD p.onBoot

/-- Where the last forcing among the calls has left the window. -/
def lastForced (initial : Bool) (calls : List Call) : Bool :=
  (calls.reverse.findSome? Call.forced?).getD initial

/-- How often the calls behind the last forcing have observed the program counter. -/
def passages (pc : UInt32) (calls : List Call) : Nat :=
  (calls.reverse.takeWhile fun c => c.forced?.isNone).count (.observe pc)

/-- The last forced state, turned over by each passage since. -/
def turnedOver (p : ProfilingSettings) (calls : List Call) : Bool :=
  lastForced p.onBoot calls ^^ (passages p.start calls % 2 == 1)

theorem lastSaid_snoc (p : ProfilingSettings) (calls : List Call) (c : Call) :
    lastSaid p (calls ++ [c]) = (c.says? p).getD (lastSaid p calls) := by
  cases h : c.says? p <;> simp [lastSaid, h]

theorem lastForced_snoc (initial : Bool) (calls : List Call) (c : Call) :
    lastForced initial (calls ++ [c]) = c.forced?.getD (lastForced initial calls) := by
  cases h : c.forced? <;> simp [lastForced, h]

theorem turnedOver_force (p : ProfilingSettings) (calls : List Call) (active : Bool) :
    turnedOver p (calls ++ [.force active]) = active := by
  simp [turnedOver, lastForced_snoc, Call.forced?, passages]

theorem turnedOver_observe (p : ProfilingSettings) (calls : List Call) (pc : UInt32) :
    turnedOver p (calls ++ [.observe pc]) = (turnedOver p calls ^^ (pc == p.start)) := by
  have hp : passages p.start (calls ++ [.observe pc]) =
      passages p.start calls + (pc == p.start).toNat := by
    by_cases h : pc = p.start <;> simp [passages, Call.forced?, h]
  rw [turnedOver, turnedOver, lastForced_snoc, hp]
  cases pc == p.start
  · simp [Call.forced?]
  · rcases Nat.mod_two_eq_zero_or_one (passages p.start calls) with h | h <;>
      simp [Call.forced?, Nat.add_mod, h]

/-! ## What the window does -/

theorem answers_append (w : Window) (calls later : List Call) :
    w.answers (calls ++ later) = w.answers calls ++ (w.after calls).answers later := by
  induction calls generalizing w with
  | nil => rfl
  | cons c calls ih => cases c <;> simp [answers, ih]

theorem answers_snoc (w : Window) (calls : List Call) (c : Call) :
    w.answers (calls ++ [c]) = w.answers calls ++ (w.after calls).answers [c] :=
  answers_append w calls [c]

theorem active_observe (w : Window) (pc : UInt32) :
    (w.call (.observe pc)).active = (w.answer pc).getD w.active := by
  show (apply (w.answer pc) w).active = _
  rcases w.answer pc with _ | _ | _ <;> rfl

/-- An armed window turns over at the bound of the side that it is on. -/
theorem answer_of_armed {w : Window} (h : w.armed = true) (pc : UInt32) :
    w.answer pc = if pc = (if w.active then w.stop else w.start) then some !w.active else none := by
  simp only [answer, observe, change?, h]
  cases w.active <;> simp

theorem answer_of_spent {w : Window} (h : w.armed = false) (pc : UInt32) : w.answer pc = none := by
  simp [answer, observe, change?, h]

/-- An observation answers exactly when it changes the window, and says to what. -/
theorem answer_eq_some_iff (w : Window) (pc : UInt32) (b : Bool) :
    w.answer pc = some b ↔ w.active ≠ b ∧ (w.call (.observe pc)).active = b := by
  rw [active_observe]
  cases ha : w.armed
  · simp [answer_of_spent ha]
  · rw [answer_of_armed ha]
    by_cases h : pc = (if w.active then w.stop else w.start)
    · rw [if_pos h]
      cases w.active <;> cases b <;> simp
    · simp [h]

theorem call_frame (w : Window) (c : Call) :
    (w.call c).start = w.start ∧ (w.call c).stop = w.stop ∧
      (w.call c).singleMatch = w.singleMatch := by
  cases c with
  | force active => exact ⟨rfl, rfl, rfl⟩
  | observe pc =>
    show (apply (w.answer pc) w).start = _ ∧ (apply (w.answer pc) w).stop = _ ∧
      (apply (w.answer pc) w).singleMatch = _
    rcases w.answer pc with _ | _ | _ <;> exact ⟨rfl, rfl, rfl⟩

/-- No call moves the bounds or the number of matches. -/
theorem after_frame (w : Window) (calls : List Call) :
    (w.after calls).start = w.start ∧ (w.after calls).stop = w.stop ∧
      (w.after calls).singleMatch = w.singleMatch := by
  induction calls generalizing w with
  | nil => exact ⟨rfl, rfl, rfl⟩
  | cons c calls ih =>
    obtain ⟨h1, h2, h3⟩ := ih (w.call c)
    obtain ⟨g1, g2, g3⟩ := w.call_frame c
    exact ⟨h1.trans g1, h2.trans g2, h3.trans g3⟩

/-- Only a close by a program counter spends a window, and only one of a single match. -/
theorem armed_call (w : Window) (c : Call) :
    (w.call c).armed = (w.armed && !(w.singleMatch && (w.answers [c]).contains (some false))) := by
  cases c with
  | force active => simp [call, force, answers]
  | observe pc =>
    show (apply (w.answer pc) w).armed = _
    rcases h : w.answer pc with _ | _ | _ <;> simp [apply, answers, h]

/-! ## The law -/

/-- What the calls make of a window that is still armed. -/
def verdict (p : ProfilingSettings) (calls : List Call) : Bool :=
  if p.start = p.stop then turnedOver p calls else lastSaid p calls

theorem verdict_observe (p : ProfilingSettings) (calls : List Call) (pc : UInt32) :
    verdict p (calls ++ [.observe pc]) =
      if pc = (if verdict p calls then p.stop else p.start) then !verdict p calls
      else verdict p calls := by
  by_cases hp : p.start = p.stop
  · simp only [verdict, turnedOver_observe, ← hp, ite_self, if_true]
    by_cases h : pc = p.start
    · simp [h]
    · rw [if_neg h, beq_false_of_ne h, Bool.xor_false]
  · simp only [verdict, if_neg hp, lastSaid_snoc, Call.says?]
    cases lastSaid p calls <;> by_cases h : pc = p.start <;> by_cases h' : pc = p.stop <;>
      simp_all

/-- Up to the first close the calls alone decide, whether the window takes one match or many. -/
def Unspent (p : ProfilingSettings) (calls : List Call) : Prop :=
  p.singleMatch = true → some false ∉ (ofSettings p).answers calls

theorem Unspent.of_snoc {p : ProfilingSettings} {calls : List Call} {c : Call}
    (h : Unspent p (calls ++ [c])) : Unspent p calls := by
  intro hs hm
  exact h hs (by rw [answers_snoc]; exact List.mem_append_left _ hm)

theorem Unspent.armed {p : ProfilingSettings} {calls : List Call} (h : Unspent p calls) :
    ((ofSettings p).after calls).armed = true := by
  induction calls using List.reverseRecOn with
  | nil => rfl
  | append_singleton calls c ih =>
    rw [after_snoc, armed_call, ih h.of_snoc, (after_frame _ calls).2.2]
    cases hs : p.singleMatch
    · simp [ofSettings, hs]
    · have hm := h hs
      rw [answers_snoc, List.mem_append, not_or] at hm
      simp [hm.2]

theorem verdict_force (p : ProfilingSettings) (calls : List Call) (active : Bool) :
    verdict p (calls ++ [.force active]) = active := by
  simp [verdict, turnedOver_force, lastSaid_snoc, Call.says?]

/-- The call that closes a window of a single match is still decided by the calls alone. -/
theorem Unspent.active_snoc {p : ProfilingSettings} {calls : List Call} (h : Unspent p calls)
    (ha : ((ofSettings p).after calls).active = verdict p calls) (c : Call) :
    ((ofSettings p).after (calls ++ [c])).active = verdict p (calls ++ [c]) := by
  rw [after_snoc]
  cases c with
  | force active => rw [verdict_force]; rfl
  | observe pc =>
    obtain ⟨hstart, hstop, -⟩ := after_frame (ofSettings p) calls
    rw [active_observe, answer_of_armed h.armed, verdict_observe, ha, hstart, hstop]
    exact (apply_ite (fun a : Option Bool => a.getD (verdict p calls)) _ _ _)

theorem Unspent.active {p : ProfilingSettings} {calls : List Call} (h : Unspent p calls) :
    ((ofSettings p).after calls).active = verdict p calls := by
  induction calls using List.reverseRecOn with
  | nil =>
    by_cases hp : p.start = p.stop <;>
      simp [verdict, hp, turnedOver, lastSaid, lastForced, passages, ofSettings]
  | append_singleton calls c ih => exact h.of_snoc.active_snoc (ih h.of_snoc) c

/-- A close spends a window of a single match. -/
theorem spent_of_close {w : Window} (hs : w.singleMatch = true) {pc : UInt32}
    (h : w.answer pc = some false) :
    (w.call (.observe pc)).armed = false ∧ (w.call (.observe pc)).active = false := by
  rw [armed_call, active_observe, h, hs]
  simp [answers, h]

theorem armed_after_of_spent {w : Window} (h : w.armed = false) (calls : List Call) :
    (w.after calls).armed = false := by
  induction calls generalizing w with
  | nil => exact h
  | cons c calls ih => exact ih (by simp [armed_call, h])

theorem answers_of_spent {w : Window} (h : w.armed = false) (calls : List Call) :
    ∀ a ∈ w.answers calls, a = none := by
  induction calls generalizing w with
  | nil => simp [answers]
  | cons c calls ih =>
    have hc := ih (w := w.call c) (by simp [armed_call, h])
    cases c with
    | force active => exact hc
    | observe pc => simpa [answers, answer_of_spent h] using hc

/-- A spent window stays where it is forced. -/
theorem active_of_spent {w : Window} (h : w.armed = false) (calls : List Call) :
    (w.after calls).active = lastForced w.active calls := by
  induction calls using List.reverseRecOn with
  | nil => rfl
  | append_singleton calls c ih =>
    rw [after_snoc, lastForced_snoc, ← ih]
    cases c with
    | force active => rfl
    | observe pc => rw [active_observe, answer_of_spent (armed_after_of_spent h calls)]; rfl

end CycleLedger.Window
