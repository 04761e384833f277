import CycleLedger.Access
import CycleLedger.Text.Field

/-! # Notices

A run raises notices about what it does. A notice has a severity, an origin by which a log selects
it, a message and named fields. `Noted` is a result together with the notices raised on the way to
it, in order.
-/

namespace CycleLedger

inductive Severity where
  | error
  | warn
  | info
  | debug
  | trace
deriving DecidableEq

namespace Severity

/-- One for the most severe, five for the least. -/
def rank : Severity → Nat
  | error => 1
  | warn => 2
  | info => 3
  | debug => 4
  | trace => 5

def name : Severity → String
  | error => "ERROR"
  | warn => "WARN"
  | info => "INFO"
  | debug => "DEBUG"
  | trace => "TRACE"

end Severity

inductive Notice where
  | windowOpened (pc : UInt32)
  | windowClosed (pc : UInt32)
  | gateChanged (clock : UInt64) (enable : Bool)
  /-- a cache sample with both flags -/
  | hitAndMiss (cache : CacheKind)
  /-- the flags of core samples overlap, and a derived count has wrapped -/
  | overlapping (cycles stalls : UInt64)
  | reportWritten (path : String)
  | sessionCreated (start stop : UInt32)
deriving DecidableEq

namespace Notice

inductive Field where
  | number (n : Nat)
  | flag (b : Bool)
  | text (s : String)
deriving DecidableEq

def Field.shown : Field → String
  | number n => toString n
  | flag b => if b then "true" else "false"
  | text s => s

def severity : Notice → Severity
  | overlapping _ _ => .warn
  | reportWritten _ => .info
  | windowOpened _ | windowClosed _ | gateChanged _ _ | hitAndMiss _ | sessionCreated _ _ => .debug

/-- The name by which filters select notices. -/
def origin : Notice → String
  | windowOpened _ | windowClosed _ => "cosim_core::sim::window"
  | gateChanged _ _ => "cosim_core::sim::session"
  | hitAndMiss _ | reportWritten _ => "cosim_core::stats"
  | overlapping _ _ => "cosim_core::stats::tda"
  | sessionCreated _ _ => "_core::stats"

def message : Notice → String
  | windowOpened pc => "profiling window opened at " ++ Text.markedHex pc
  | windowClosed pc => "profiling window closed at " ++ Text.markedHex pc
  | gateChanged _ _ => "profiling gate changed"
  | hitAndMiss _ => "cache sample flagged both hit and miss"
  | overlapping _ _ => "core event flags are not mutually exclusive; top-down breakdown wrapped"
  | reportWritten _ => "hardware stats report written"
  | sessionCreated _ _ => "cosim session created"

def fields : Notice → List (String × Field)
  | windowOpened _ | windowClosed _ => []
  | gateChanged clock enable => [("clk", .number clock.toNat), ("enable", .flag enable)]
  | hitAndMiss cache => [("icache", .flag (cache == .instruction))]
  | overlapping cycles stalls =>
    [("cycles", .number cycles.toNat), ("stalls", .number stalls.toNat)]
  | reportWritten path => [("path", .text path)]
  | sessionCreated start stop =>
    [("pc_start", .number start.toNat), ("pc_stop", .number stop.toNat)]

/-- Whether a notice has a field; its message counts as one. -/
def has (n : Notice) (field : String) : Bool :=
  field == "message" || n.fields.any (·.1 == field)

/-- The message with its fields behind it. -/
def line (n : Notice) : String :=
  n.message ++ String.join (n.fields.map fun (name, field) => " " ++ name ++ "=" ++ field.shown)

end Notice

structure Noted (α : Type) where
  result : α
  notices : List Notice

namespace Noted

/-- A result without any notice. -/
def quiet {α : Type} (result : α) : Noted α := ⟨result, []⟩

/-- Goes on from a result, with the later notices behind the earlier ones. -/
def andThen {α β : Type} (m : Noted α) (f : α → Noted β) : Noted β :=
  let n := f m.result
  ⟨n.result, m.notices ++ n.notices⟩

def map {α β : Type} (f : α → β) (m : Noted α) : Noted β := ⟨f m.result, m.notices⟩

end Noted

end CycleLedger
