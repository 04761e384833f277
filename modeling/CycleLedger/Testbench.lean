import CycleLedger.FileTree
import CycleLedger.Forms.Settings
import CycleLedger.Notice.Filter
import CycleLedger.Session
import CycleLedger.Testbench.Signature

/-! # Testbench scripts

A script drives one session at a time by calls, and says once which notices it wants to see. A call
that is refused or fails changes nothing but what the failure itself leaves behind; a session that
could not be created leaves the script without one.
-/

namespace CycleLedger

structure Testbench where
  session? : Option Session := none
  /-- nothing until a filter has been installed -/
  filter? : Option Notice.Filter := none
  /-- the filter that is installed when none is named -/
  standingFilter : String := ""
  tree : FileTree
  /-- the notices shown, the latest first -/
  shown : List Notice := []

namespace Testbench

inductive Answer where
  | nothing
  | flag (b : Bool)
  | text (s : String)
  | document (v : Json.Value)

inductive CallFault where
  | unknownName
  | argument (fault : ArgumentFault)
  | failure (f : Failure)

abbrev Reply := Except CallFault Answer

def version : String := "0.4.0"

/-- Shows what the filter lets through. -/
def notify (notices : List Notice) (t : Testbench) : Testbench :=
  match t.filter? with
  | some filter => { t with shown := (notices.filter filter.shows).reverse ++ t.shown }
  | none => t

/-- Installs a filter unless there is one, and tells whether it did. -/
def installFilter (text? : Option String) (t : Testbench) : Reply × Testbench :=
  match t.filter? with
  | some _ => (.ok (.flag false), t)
  | none => (.ok (.flag true), { t with filter? := some (.ofText (text?.getD t.standingFilter)) })

/-- Null stands for the default settings. -/
def settingsOf : Json.Value → Except Failure Settings
  | .null => .ok {}
  | v => Settings.ofValue v

def create (config : Json.Value) (t : Testbench) : Reply × Testbench :=
  match settingsOf config with
  | .error f => (.error (.failure f), { t with session? := none })
  | .ok settings =>
    (.ok .nothing, { t with session? := some (.ofSettings settings) }.notify
      [.sessionCreated settings.profiling.start settings.profiling.stop])

/-- Goes on with the session after a call, and shows its notices. -/
def update (answer : Answer) (s : Noted Session) (t : Testbench) : Reply × Testbench :=
  (.ok answer, { t with session? := some s.result }.notify s.notices)

/-- The sample of a lookup given by its flags. -/
def lookupSample (accessed hit miss writeback isStore : Bool) (size : UInt8) : LookupSample :=
  { accessed := accessed
    hit := hit
    miss := miss
    writeback := writeback
    isStore := isStore
    size := size
    outcome := .ofFlags hit miss }

def predictionSample (accessed correct : Bool) : LookupSample :=
  if accessed then .prediction correct else .idle

def finish (s : Session) (t : Testbench) : Reply × Testbench :=
  let outcome := s.finish FileTree.storage t.tree
  let (result, s, tree) := outcome.result
  let t := { t with session? := some s, tree := tree }.notify outcome.notices
  (match result with
    | .ok text => .ok (.text text)
    | .error f => .error (.failure f), t)

def createSignature : Signature := [⟨"config_dict", .any, some .null⟩]

def filterSignature : Signature := [⟨"filter", .optionalText, some none⟩]

def stepSignature : Signature := [⟨"clk", .word 64, none⟩, ⟨"pc", .word 32, none⟩]

def profilingSignature : Signature := [⟨"enable", .flag, none⟩]

def coreSignature : Signature :=
  [⟨"bad_spec", .flag, some false⟩, ⟨"fe", .flag, some false⟩, ⟨"fe_ic", .flag, some false⟩,
    ⟨"be", .flag, some false⟩, ⟨"be_dc", .flag, some false⟩, ⟨"ret_simd", .flag, some false⟩]

def lookupSignature : Signature :=
  [⟨"icache", .flag, none⟩, ⟨"accessed", .flag, none⟩, ⟨"hit", .flag, none⟩,
    ⟨"miss", .flag, none⟩, ⟨"writeback", .flag, some false⟩, ⟨"is_store", .flag, some false⟩,
    ⟨"size", .word 8, some (4#8)⟩]

def predictionSignature : Signature := [⟨"accessed", .flag, none⟩, ⟨"correct", .flag, none⟩]

def traceSignature : Signature :=
  [⟨"clk", .word 64, none⟩, ⟨"pc", .word 32, none⟩, ⟨"inst", .word 32, none⟩,
    ⟨"sp", .word 32, some (0#32)⟩, ⟨"dmem_addr", .word 32, some (0#32)⟩,
    ⟨"dmem_size", .word 8, some (0#8)⟩, ⟨"taken", .flag, some false⟩,
    ⟨"ic_hm", .word 8, some (0#8)⟩, ⟨"dc_hm", .word 8, some (0#8)⟩,
    ⟨"bp_hm", .word 8, some (0#8)⟩, ⟨"next_pc", .optionalWord 32, some none⟩,
    ⟨"inst_size", .word 8, some TraceEntry.fullInstructionSize.toBitVec⟩,
    ⟨"ct_imem_core", .flag, some false⟩, ⟨"ct_imem_mem", .flag, some false⟩,
    ⟨"ct_dmem_core_r", .flag, some false⟩, ⟨"ct_dmem_core_w", .flag, some false⟩,
    ⟨"ct_dmem_mem_r", .flag, some false⟩, ⟨"ct_dmem_mem_w", .flag, some false⟩]

/-- A call of the session; nothing if it has no such call. -/
def callSession? (name : String) (arguments : Signature.Arguments) (s : Session) (t : Testbench) :
    Option (Except ArgumentFault (Reply × Testbench)) :=
  match name with
  | "step" => some <| (stepSignature.read arguments).map fun (clock, pc, _) =>
      t.update .nothing (s.step (UInt64.ofBitVec clock) (UInt32.ofBitVec pc))
  | "set_profiling" => some <| (profilingSignature.read arguments).map fun (enable, _) =>
      t.update .nothing (s.setProfiling enable)
  | "log_core" => some <| (coreSignature.read arguments).map
      fun (badSpeculation, frontend, frontendCache, backend, backendCache, simd, _) =>
        t.update .nothing <| .quiet <| s.logCore
          ⟨badSpeculation, frontend, frontendCache, backend, backendCache, simd⟩
  | "log_memory" => some <| (lookupSignature.read arguments).map
      fun (instruction, accessed, hit, miss, writeback, isStore, size, _) =>
        t.update .nothing <| s.logLookup (.ofInstruction instruction)
          (lookupSample accessed hit miss writeback isStore (UInt8.ofBitVec size))
  | "log_branch" => some <| (predictionSignature.read arguments).map fun (accessed, correct, _) =>
      t.update .nothing <| .quiet <| s.logPrediction (predictionSample accessed correct)
  | "add_trace_entry" => some <| (traceSignature.read arguments).map
      fun (clock, pc, instruction, stackPointer, dataAddress, dataSize, taken, fetchOutcome,
          dataOutcome, predictionOutcome, nextPc?, instructionSize, fetchRequested, fetchReturned,
          readRequested, writeRequested, readServed, writeServed, _) =>
        t.update .nothing <| .quiet <| s.trace (UInt64.ofBitVec clock) fun entry =>
          { entry with
            nextPc? := nextPc?.map UInt32.ofBitVec
            stackPointer := UInt32.ofBitVec stackPointer
            taken := taken
            fetchChannel := ⟨fetchRequested, fetchReturned⟩
            dataChannel := ⟨readRequested, writeRequested, readServed, writeServed⟩ }
            |>.setInstruction (UInt32.ofBitVec pc) (UInt32.ofBitVec instruction)
              (UInt8.ofBitVec instructionSize)
            |>.setData (UInt32.ofBitVec dataAddress) (UInt8.ofBitVec dataSize)
            |>.setOutcomes (UInt8.ofBitVec fetchOutcome) (UInt8.ofBitVec dataOutcome)
              (UInt8.ofBitVec predictionOutcome)
  | "last_trace_entry" => some <| (Signature.read [] arguments).map fun _ =>
      t.update (.text s.entry.line) (.quiet s)
  | "trace_history" => some <| (Signature.read [] arguments).map fun _ =>
      t.update (.text s.historyText) (.quiet s)
  | "summary" => some <| (Signature.read [] arguments).map fun _ =>
      let outcome := s.summary
      t.update (.text outcome.result.1) (outcome.map (·.2))
  | "finish" => some <| (Signature.read [] arguments).map fun _ => t.finish s
  | "to_dict" => some <| (Signature.read [] arguments).map fun _ =>
      let outcome := s.ledger.report
      t.update (.document (Report.form.toValue outcome.result.1))
        (outcome.map fun (_, ledger) => s.setLedger ledger)
  -- readings of a session, which bind no arguments at all
  | "is_profiling" | "simulation_cycles" | "profiled_cycles" => some (.error .mismatched)
  | _ => none

/-- A call of the script. -/
def call (name : String) (arguments : Signature.Arguments) (t : Testbench) : Reply × Testbench :=
  match name with
  | "version" => match Signature.read [] arguments with
    | .ok _ => (.ok (.text version), t)
    | .error fault => (.error (.argument fault), t)
  | "init_logging" => match filterSignature.read arguments with
    | .ok (text?, _) => t.installFilter text?
    | .error fault => (.error (.argument fault), t)
  | "new" => match createSignature.read arguments with
    | .ok (config, _) => t.create config
    | .error fault => (.error (.argument fault), { t with session? := none })
  | name => match t.session?.bind (t.callSession? name arguments ·) with
    | none => (.error .unknownName, t)
    | some (.error fault) => (.error (.argument fault), t)
    | some (.ok reply) => reply

end Testbench

end CycleLedger
