import CycleLedger.Json.Value
import CycleLedger.Word

/-! # Arguments of calls

A testbench script calls by name, with positional and named arguments. A signature lists the
parameters of a call. Arguments are first bound to parameters and then converted, in the order of
the signature, so a call that does not bind is refused whatever its values are.
-/

namespace CycleLedger.Testbench

/-- What a parameter takes; a word also takes a flag as one or zero. -/
inductive Kind where
  | flag
  | word (bits : Nat)
  | optionalWord (bits : Nat)
  | optionalText
  | any

inductive ArgumentFault where
  /-- arguments that do not bind, or a value of another kind -/
  | mismatched
  /-- an integer that a word cannot hold -/
  | outOfRange
deriving DecidableEq

namespace Kind

def Carrier : Kind → Type
  | flag => Bool
  | word bits => BitVec bits
  | optionalWord bits => Option (BitVec bits)
  | optionalText => Option String
  | any => Json.Value

def readWord (bits : Nat) : Json.Value → Except ArgumentFault (BitVec bits)
  | .integer n => match wordOf? bits n with
    | some w => .ok w
    | none => .error .outOfRange
  | .flag b => .ok (BitVec.ofNat bits b.toNat)
  | _ => .error .mismatched

def read : (kind : Kind) → Json.Value → Except ArgumentFault kind.Carrier
  | flag, v => match v with
    | .flag b => .ok b
    | _ => .error .mismatched
  | word bits, v => readWord bits v
  | optionalWord bits, v => match v with
    | .null => .ok none
    | v => (readWord bits v).map some
  | optionalText, v => match v with
    | .null => .ok none
    | .text s => .ok (some s)
    | _ => .error .mismatched
  | any, v => .ok v

end Kind

structure Parameter where
  name : String
  kind : Kind
  /-- the value of an argument that is left out, if it may be -/
  preset? : Option kind.Carrier := none

abbrev Signature := List Parameter

namespace Signature

def Carrier : Signature → Type
  | [] => Unit
  | p :: ps => p.kind.Carrier × Carrier ps

/-- The arguments of a call. -/
structure Arguments where
  positional : List Json.Value := []
  named : List (String × Json.Value) := []

/--
Whether each parameter has at most one argument, or a preset value, and no position is left over.
-/
def fits (named : List (String × Json.Value)) : Signature → List Json.Value → Bool
  | [], positional => positional.isEmpty
  | p :: ps, _ :: positional => (named.lookup p.name).isNone && fits named ps positional
  | p :: ps, [] => ((named.lookup p.name).isSome || p.preset?.isSome) && fits named ps []

def binds (signature : Signature) (arguments : Arguments) : Bool :=
  arguments.named.all (fun (name, _) => signature.any (·.name == name)) &&
    signature.fits arguments.named arguments.positional

/-- Converts arguments that bind. -/
def convert (named : List (String × Json.Value)) :
    (signature : Signature) → List Json.Value → Except ArgumentFault signature.Carrier
  | [], _ => .ok ()
  | p :: ps, v :: positional => do
    let first ← p.kind.read v
    return (first, ← convert named ps positional)
  | p :: ps, [] => do
    let first ← match named.lookup p.name, p.preset? with
      | some v, _ => p.kind.read v
      | none, some v => pure v
      | none, none => throw .mismatched
    return (first, ← convert named ps [])

def read (signature : Signature) (arguments : Arguments) :
    Except ArgumentFault signature.Carrier :=
  if signature.binds arguments then signature.convert arguments.named arguments.positional
  else .error .mismatched

end Signature

end CycleLedger.Testbench
