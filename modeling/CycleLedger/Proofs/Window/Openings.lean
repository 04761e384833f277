import Mathlib.Algebra.Group.Nat.Defs
import CycleLedger.Proofs.Window.Calls

/-! # How often a window opens

A window counts its openings in a word of 32 bits; one that is open from the first cycle has opened
once, and a forced opening is none. The count is exact, and no opening finds the word full, exactly
as long as there are fewer than 2^32 of them. That many take almost 2^33 calls, since what is open
does not open, and a single match that nobody forces opens once at most. A window of many matches
gets there: 2^32 rounds bring its count back to zero.
-/

namespace CycleLedger.Window

/-- How often the window of the settings has opened after calls, by what it has answered. -/
def openings (p : ProfilingSettings) (calls : List Call) : Nat :=
  p.onBoot.toNat + ((ofSettings p).answers calls).count (some true)

/-- No opening among the calls finds the counter full. -/
def NeverFull (w : Window) (calls : List Call) : Prop :=
  ∀ before pc later, calls = before ++ .observe pc :: later →
    (w.after before).answer pc = some true → (w.after before).opened.toNat + 1 < 2 ^ 32

/-- Whether the window goes on to open at its start. -/
def waiting (w : Window) : Bool := w.armed && !w.active

/-! ## One call -/

theorem opened_call (w : Window) (c : Call) :
    (w.call c).opened = w.opened + UInt32.ofNat ((w.answers [c]).count (some true)) := by
  cases c with
  | force active => simp [call, force, answers]
  | observe pc =>
    show (apply (w.answer pc) w).opened = _
    rcases h : w.answer pc with _ | _ | _ <;> simp [apply, answers, h]

/-- Only a closed window opens. -/
theorem opens_call (w : Window) (c : Call) :
    2 * (w.answers [c]).count (some true) + w.active.toNat ≤ (w.call c).active.toNat + 1 := by
  cases c with
  | force active =>
    have closed := w.active.toNat_le
    simp only [answers, List.count_nil]
    omega
  | observe pc =>
    rw [active_observe]
    rcases h : w.answer pc with _ | _ | _
    · simp [answers, h]
    · simpa [answers, h] using w.active.toNat_le
    · have change := (answer_eq_some_iff w pc true).1 h
      simp [answers, h, eq_false_of_ne_true change.1]

/-- A single match that waits is open once it has opened, and spent once it has closed. -/
theorem waiting_observe {w : Window} (single : w.singleMatch = true) (pc : UInt32) :
    (w.answers [.observe pc]).count (some true) + (w.call (.observe pc)).waiting.toNat =
      w.waiting.toNat := by
  rw [waiting, waiting, armed_call, active_observe, single]
  cases armed : w.armed with
  | false => simp [answers, answer_of_spent armed]
  | true =>
    rcases h : w.answer pc with _ | _ | _
    · simp [answers, h]
    · have change := (answer_eq_some_iff w pc false).1 h
      simp [answers, h, eq_true_of_ne_false change.1]
    · have change := (answer_eq_some_iff w pc true).1 h
      simp [answers, h, eq_false_of_ne_true change.1]

/-! ## Runs of calls -/

theorem openings_append (p : ProfilingSettings) (calls later : List Call) :
    openings p (calls ++ later) =
      openings p calls + (((ofSettings p).after calls).answers later).count (some true) := by
  rw [openings, openings, answers_append, List.count_append, Nat.add_assoc]

/-- The counter holds the openings modulo 2^32. -/
theorem toNat_opened (p : ProfilingSettings) (calls : List Call) :
    ((ofSettings p).after calls).opened.toNat = openings p calls % 2 ^ 32 := by
  induction calls using List.reverseRecOn with
  | nil => cases h : p.onBoot <;> simp [openings, answers, ofSettings, h] <;> rfl
  | append_singleton calls c ih =>
    rw [after_snoc, opened_call, openings_append, UInt32.toNat_add, ih, UInt32.toNat_ofNat']
    exact (Nat.add_mod _ _ _).symm

/-- Between two openings the window closes, which takes a call. -/
theorem two_mul_openings_le (p : ProfilingSettings) (calls : List Call) :
    2 * openings p calls ≤ calls.length + 1 + ((ofSettings p).after calls).active.toNat := by
  induction calls using List.reverseRecOn with
  | nil => cases h : p.onBoot <;> simp [openings, answers, ofSettings, h]
  | append_singleton calls c ih =>
    have step := opens_call ((ofSettings p).after calls) c
    rw [openings_append, after_snoc, List.length_append, List.length_singleton]
    omega

/-- A single match that nobody forces has opened once, or else it still waits. -/
theorem openings_single {p : ProfilingSettings} (single : p.singleMatch = true)
    {calls : List Call} (unforced : ∀ c ∈ calls, c.forced? = none) :
    openings p calls + ((ofSettings p).after calls).waiting.toNat = 1 := by
  induction calls using List.reverseRecOn with
  | nil => cases h : p.onBoot <;> simp [openings, answers, waiting, ofSettings, h]
  | append_singleton calls c ih =>
    have before := ih fun d hd => unforced d (List.mem_append_left _ hd)
    cases c with
    | force active => simpa [Call.forced?] using unforced (.force active)
    | observe pc =>
      have frame := (after_frame (ofSettings p) calls).2.2
      have step := waiting_observe (frame.trans single) pc
      rw [openings_append, after_snoc]
      omega

/-- The counter has room at every opening exactly if it has room for all of them. -/
theorem neverFull_iff (p : ProfilingSettings) (calls : List Call) :
    NeverFull (ofSettings p) calls ↔ openings p calls < 2 ^ 32 := by
  constructor
  · intro room
    induction calls using List.reverseRecOn with
    | nil => cases h : p.onBoot <;> simp [openings, answers, h]
    | append_singleton calls c ih =>
      have before : openings p calls < 2 ^ 32 := by
        apply ih
        rintro earlier pc later rfl
        exact room earlier pc (later ++ [c]) (by simp)
      rw [openings_append]
      cases c with
      | force active => simpa [answers] using before
      | observe pc =>
        -- below the bound the word is the count, so that room in the one is room in the other
        have stored := toNat_opened p calls
        rw [Nat.mod_eq_of_lt before] at stored
        by_cases h : ((ofSettings p).after calls).answer pc = some true
        · have next := room calls pc [] rfl h
          simpa [answers, h, ← stored] using next
        · simpa [answers, List.count_singleton, h] using before
  · rintro few before pc later rfl opens
    have stored := toNat_opened p before
    have fewer := Nat.mod_le (openings p before) (2 ^ 32)
    rw [openings_append, answers, opens, List.count_cons_self] at few
    omega

/--
The counter of a window is exact, and has room for each opening, as long as the openings are fewer
than 2^32. These are at most one for every two calls, beside the one that a window starts with, and
at most one in all for a single match that is not forced.
-/
theorem openings_counted (p : ProfilingSettings) (calls : List Call) :
    let w := (ofSettings p).after calls
    (NeverFull (ofSettings p) calls ↔ openings p calls < 2 ^ 32) ∧
      (w.opened.toNat = openings p calls ↔ openings p calls < 2 ^ 32) ∧
      w.opened.toNat = openings p calls % 2 ^ 32 ∧
      2 * openings p calls ≤ calls.length + 2 ∧
      (p.singleMatch = true → (∀ c ∈ calls, c.forced? = none) → openings p calls ≤ 1) := by
  intro w
  have stored : w.opened.toNat = openings p calls % 2 ^ 32 := toNat_opened p calls
  refine ⟨neverFull_iff p calls, ⟨fun counted => ?_, fun few => ?_⟩, stored, ?_, ?_⟩
  · rw [← counted]
    exact w.opened.toNat_lt
  · rw [stored, Nat.mod_eq_of_lt few]
  · have spaced : 2 * openings p calls ≤ calls.length + 1 + w.active.toNat :=
      two_mul_openings_le p calls
    have open_le := w.active.toNat_le
    omega
  · intro single unforced
    have once := openings_single single unforced
    omega

/-- A single match that its start and stop pass twice has opened once, and its count is exact. -/
theorem openings_counted_single_match :
    let p : ProfilingSettings := ⟨0x100, 0x200, true, false⟩
    let calls : List Call := [.observe 0x100, .observe 0x200, .observe 0x100, .observe 0x200]
    p.singleMatch = true ∧ (∀ c ∈ calls, c.forced? = none) ∧
      openings p calls ≤ 1 ∧ ((ofSettings p).after calls).opened.toNat = openings p calls := by
  intro p calls
  obtain ⟨-, exact_iff, -, -, once⟩ := openings_counted p calls
  have unforced : ∀ c ∈ calls, c.forced? = none := by decide
  have one := once rfl unforced
  exact ⟨rfl, unforced, one, exact_iff.2 (by omega)⟩

/-! ## Rounds -/

/-- In each round the program counter comes by the start and then by the stop. -/
def rounds (start stop : UInt32) (n : Nat) : List Call :=
  (List.replicate n [.observe start, .observe stop]).flatten

theorem length_rounds (start stop : UInt32) (n : Nat) :
    (rounds start stop n).length = 2 * n := by
  rw [rounds, List.length_flatten, List.map_replicate, List.sum_replicate_nat]
  exact Nat.mul_comm n 2

/-- A round leaves a window of many matches as it was, but for its count. -/
theorem round_waiting {w : Window} (waits : w.waiting = true) (many : w.singleMatch = false) :
    w.answers [.observe w.start, .observe w.stop] = [some true, some false] ∧
      w.after [.observe w.start, .observe w.stop] = { w with opened := w.opened + 1 } := by
  obtain ⟨start, stop, singleMatch, armed, active, opened⟩ := w
  obtain ⟨rfl, rfl⟩ : armed = true ∧ active = false := by simpa [waiting] using waits
  subst many
  constructor <;> simp [answers, answer, call, observe, change?, apply]

theorem count_answers_rounds {w : Window} (waits : w.waiting = true)
    (many : w.singleMatch = false) (n : Nat) :
    (w.answers (rounds w.start w.stop n)).count (some true) = n := by
  induction n generalizing w with
  | zero => rfl
  | succ n ih =>
    obtain ⟨answered, left⟩ := round_waiting waits many
    have rest := ih (w := { w with opened := w.opened + 1 }) waits many
    rw [rounds, List.replicate_succ, List.flatten_cons, answers_append, answered, left,
      List.count_append, ← rounds, rest, Nat.add_comm]
    rfl

/-- A window of many matches that starts closed, opens once for each round. -/
theorem openings_rounds {p : ProfilingSettings} (many : p.singleMatch = false)
    (closed : p.onBoot = false) (n : Nat) : openings p (rounds p.start p.stop n) = n := by
  have count : ((ofSettings p).answers (rounds p.start p.stop n)).count (some true) = n :=
    count_answers_rounds (w := ofSettings p) (by simp [waiting, ofSettings, closed]) many n
  rw [openings, closed, count]
  exact Nat.zero_add n

/-- After 2^32 rounds the count of a window of the default settings is back at zero. -/
theorem openings_wrap :
    let p : ProfilingSettings := {}
    let calls := rounds p.start p.stop (2 ^ 32)
    calls.length < 2 ^ 64 ∧ openings p calls = 2 ^ 32 ∧
      ((ofSettings p).after calls).opened.toNat = 0 ∧ ¬ NeverFull (ofSettings p) calls := by
  intro p calls
  have count : openings p calls = 2 ^ 32 := openings_rounds rfl rfl (2 ^ 32)
  refine ⟨?_, count, ?_, ?_⟩
  · rw [length_rounds]
    decide
  · rw [toNat_opened, count, Nat.mod_self]
  · rw [neverFull_iff, count]
    exact Nat.lt_irrefl _

end CycleLedger.Window
