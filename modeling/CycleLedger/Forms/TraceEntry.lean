import CycleLedger.Forms.Access
import CycleLedger.TraceEntry

/-! # Written form of trace entries

Every member is required except the next program counter, which is null if it is not known.
-/

namespace CycleLedger

open Json

def FetchChannel.form : Form FetchChannel where
  shape := .record "ImemChannel" <|
    .cons "core" .required .flag <|
    .cons "mem" .required .flag .nil
  ofCarrier := fun (requested, returned, _) => { requested := requested, returned := returned }
  toCarrier := fun c => (c.requested, c.returned, ())
  ofCarrier_toCarrier _ := rfl

def DataChannel.form : Form DataChannel where
  shape := .record "DmemChannel" <|
    .cons "core_r" .required .flag <|
    .cons "core_w" .required .flag <|
    .cons "mem_r" .required .flag <|
    .cons "mem_w" .required .flag .nil
  ofCarrier := fun (readRequested, writeRequested, readServed, writeServed, _) =>
    { readRequested := readRequested
      writeRequested := writeRequested
      readServed := readServed
      writeServed := writeServed }
  toCarrier := fun c => (c.readRequested, c.writeRequested, c.readServed, c.writeServed, ())
  ofCarrier_toCarrier _ := rfl

def TraceEntry.form : Form TraceEntry where
  shape := .record "TraceEntry" <|
    .cons "pc" .required (.word 32 "u32") <|
    .cons "inst" .required (.word 32 "u32") <|
    .cons "next_pc" .required (.nullable (.word 32 "u32")) <|
    .cons "sp" .required (.word 32 "u32") <|
    .cons "taken" .required .flag <|
    .cons "dmem" .required (.word 32 "u32") <|
    .cons "dmem_size" .required (.word 8 "u8") <|
    .cons "inst_size" .required (.word 8 "u8") <|
    .cons "sample_cnt" .required (.word 64 "u64") <|
    .cons "ic_hm" .required Outcome.form.shape <|
    .cons "dc_hm" .required Outcome.form.shape <|
    .cons "bp_hm" .required Outcome.form.shape <|
    .cons "imem" .required FetchChannel.form.shape <|
    .cons "dmem_ch" .required DataChannel.form.shape .nil
  ofCarrier := fun (pc, instruction, nextPc?, stackPointer, taken, dataAddress, dataSize,
      instructionSize, clock, fetchOutcome, dataOutcome, predictionOutcome, fetchChannel,
      dataChannel, _) =>
    { pc := UInt32.ofBitVec pc
      instruction := UInt32.ofBitVec instruction
      nextPc? := nextPc?.map UInt32.ofBitVec
      stackPointer := UInt32.ofBitVec stackPointer
      taken := taken
      dataAddress := UInt32.ofBitVec dataAddress
      dataSize := UInt8.ofBitVec dataSize
      instructionSize := UInt8.ofBitVec instructionSize
      clock := UInt64.ofBitVec clock
      fetchOutcome := Outcome.form.ofCarrier fetchOutcome
      dataOutcome := Outcome.form.ofCarrier dataOutcome
      predictionOutcome := Outcome.form.ofCarrier predictionOutcome
      fetchChannel := FetchChannel.form.ofCarrier fetchChannel
      dataChannel := DataChannel.form.ofCarrier dataChannel }
  toCarrier := fun e =>
    (e.pc.toBitVec, e.instruction.toBitVec, e.nextPc?.map UInt32.toBitVec,
      e.stackPointer.toBitVec, e.taken, e.dataAddress.toBitVec, e.dataSize.toBitVec,
      e.instructionSize.toBitVec, e.clock.toBitVec, Outcome.form.toCarrier e.fetchOutcome,
      Outcome.form.toCarrier e.dataOutcome, Outcome.form.toCarrier e.predictionOutcome,
      FetchChannel.form.toCarrier e.fetchChannel, DataChannel.form.toCarrier e.dataChannel, ())
  ofCarrier_toCarrier e := by
    obtain ⟨_, _, nextPc?, _, _, _, _, _, _, _, _, _, _, _⟩ := e
    simp only [Outcome.form.ofCarrier_toCarrier, FetchChannel.form.ofCarrier_toCarrier,
      DataChannel.form.ofCarrier_toCarrier]
    cases nextPc? <;> rfl

end CycleLedger
