import CycleLedger.Access
import CycleLedger.Text.Field

/-! # Trace entries

A trace entry describes one retired instruction, and is shown as one line.
-/

namespace CycleLedger

/-- Transactions of the instruction channel: what the core asked for and memory gave. -/
structure FetchChannel where
  requested : Bool := false
  returned : Bool := false
deriving DecidableEq, Inhabited

/-- Transactions of the data channel: what the core asked for and memory carried out. -/
structure DataChannel where
  readRequested : Bool := false
  writeRequested : Bool := false
  readServed : Bool := false
  writeServed : Bool := false
deriving DecidableEq, Inhabited

structure TraceEntry where
  pc : UInt32 := 0
  instruction : UInt32 := 0
  /-- nothing if it is not known -/
  nextPc? : Option UInt32 := none
  stackPointer : UInt32 := 0
  /-- a branch or jump was taken -/
  taken : Bool := false
  dataAddress : UInt32 := 0
  /-- bytes of data accessed -/
  dataSize : UInt8 := 0
  /-- bytes of the instruction -/
  instructionSize : UInt8 := 0
  clock : UInt64 := 0
  fetchOutcome : Outcome := .unknown
  dataOutcome : Outcome := .unknown
  predictionOutcome : Outcome := .unknown
  fetchChannel : FetchChannel := {}
  dataChannel : DataChannel := {}
deriving DecidableEq, Inhabited

namespace TraceEntry

/-- The size of an instruction that is not compressed. -/
def fullInstructionSize : UInt8 := 4

/-- An entry as it is before anything has been filled in, whatever it held. -/
def reset (_ : TraceEntry) : TraceEntry := {}

def setInstruction (pc instruction : UInt32) (size : UInt8) (e : TraceEntry) : TraceEntry :=
  { e with pc := pc, instruction := instruction, instructionSize := size }

def setData (address : UInt32) (size : UInt8) (e : TraceEntry) : TraceEntry :=
  { e with dataAddress := address, dataSize := size }

/-- The outcomes of fetch, data access and prediction in their two-bit encoding. -/
def setOutcomes (fetch data prediction : UInt8) (e : TraceEntry) : TraceEntry :=
  { e with
    fetchOutcome := .ofBits fetch
    dataOutcome := .ofBits data
    predictionOutcome := .ofBits prediction }

/-- Whether there was a transaction on either channel. -/
def hasActivity (e : TraceEntry) : Bool :=
  e.fetchChannel.requested || e.fetchChannel.returned || e.dataChannel.readRequested ||
    e.dataChannel.writeRequested || e.dataChannel.readServed || e.dataChannel.writeServed

def nextText (e : TraceEntry) : String :=
  match e.nextPc? with
  | some next => Text.hex8 next
  | none => "--------"

def line (e : TraceEntry) : String :=
  Text.field .right 10 none (toString e.clock) ++
    "  pc " ++ Text.hex8 e.pc ++ "  inst " ++ Text.hex8 e.instruction ++
    "  sp " ++ Text.hex8 e.stackPointer ++ "  next " ++ e.nextText ++
    (if e.taken then "  T" else "") ++
    (if e.dataSize = 0 then ""
      else "  dmem " ++ Text.hex8 e.dataAddress ++ "/" ++ toString e.dataSize) ++
    "  ic:" ++ e.fetchOutcome.tag.toString ++ " dc:" ++ e.dataOutcome.tag.toString ++
    " bp:" ++ e.predictionOutcome.tag.toString

end TraceEntry

end CycleLedger
