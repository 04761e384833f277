import CycleLedger.Notice
import CycleLedger.Settings

/-! # Profiling windows

A window watches the program counter. It opens at its start and closes at its stop, and it can be
forced either way. A window of a single match is spent once a program counter has closed it; forcing
neither spends a window nor renews one.
-/

namespace CycleLedger

structure Window where
  start : UInt32
  stop : UInt32
  singleMatch : Bool
  /-- not spent -/
  armed : Bool
  active : Bool
  /-- how often the window has opened, modulo 2^32; a forced opening does not count -/
  opened : UInt32
deriving DecidableEq, Inhabited

namespace Window

def ofSettings (p : ProfilingSettings) : Window where
  start := p.start
  stop := p.stop
  singleMatch := p.singleMatch
  armed := true
  active := p.onBoot
  opened := p.onBoot.toUInt32

def force (active : Bool) (w : Window) : Window := { w with active := active }

/--
What a program counter changes, if anything: `some true` opens the window, `some false` closes it.
-/
def change? (pc : UInt32) (w : Window) : Option Bool :=
  if !w.armed then none
  else if !w.active && pc == w.start then some true
  else if w.active && pc == w.stop then some false
  else none

/-- The window after a change. -/
def apply : Option Bool → Window → Window
  | none, w => w
  | some true, w => { w with active := true, opened := w.opened + 1 }
  | some false, w => { w with active := false, armed := w.armed && !w.singleMatch }

def changeNotices (pc : UInt32) : Option Bool → List Notice
  | none => []
  | some true => [.windowOpened pc]
  | some false => [.windowClosed pc]

/-- The change that the program counter of the next instruction makes, and the window after it. -/
def observe (pc : UInt32) (w : Window) : Noted (Option Bool × Window) :=
  let change? := w.change? pc
  ⟨(change?, w.apply change?), changeNotices pc change?⟩

end Window

end CycleLedger
