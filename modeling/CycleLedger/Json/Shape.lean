import CycleLedger.Json.Mismatch
import CycleLedger.Word

/-! # Shapes of documents

A shape says what a document must hold, and `Carrier` is the type of what it then means. One
decoder and one encoder serve all shapes. The decoder goes through a document in the order of its
bytes, so the first fault or mismatch decides. A record is an object with members in any order and
with unknown members among them, or a list of its members in order.
-/

namespace CycleLedger.Json

/-- Whether a member must be there; a preset member that is absent is left to the reader. -/
inductive Presence where
  | required
  | preset
deriving DecidableEq

mutual

inductive Shape where
  | flag
  /-- an unsigned integer of so many bits -/
  | word (bits : Nat) (wanted : String)
  | real
  | text (wanted : String)
  /-- one of some names -/
  | choice (names : List String)
  /-- a value or null -/
  | nullable (s : Shape)
  | record (name : String) (members : Members)
  /-- a list with one item for each member, whose keys are not written -/
  | row (wanted sized : String) (members : Members)

inductive Members where
  | nil
  | cons (key : String) (presence : Presence) (s : Shape) (rest : Members)

end

def Presence.Carrier (presence : Presence) (α : Type) : Type :=
  match presence with
  | .required => α
  | .preset => Option α

mutual

def Shape.Carrier : Shape → Type
  | .flag => Bool
  | .word bits _ => BitVec bits
  | .real => Binary64
  | .text _ => String
  | .choice names => Fin names.length
  | .nullable s => Option s.Carrier
  | .record _ members => members.Carrier
  | .row _ _ members => members.Carrier

def Members.Carrier : Members → Type
  | .nil => Unit
  | .cons _ presence s rest => presence.Carrier s.Carrier × rest.Carrier

end

namespace Members

def length : Members → Nat
  | nil => 0
  | cons _ _ _ rest => rest.length + 1

/-- What has been read of an object: nothing or a value for each member. -/
def Slots : Members → Type
  | nil => Unit
  | cons _ _ s rest => Option s.Carrier × rest.Slots

def noSlots : (members : Members) → members.Slots
  | nil => ()
  | cons _ _ _ rest => (none, rest.noSlots)

end Members

/-- The value of a required member that is absent, if it may be. -/
def Shape.absent? : (s : Shape) → Option s.Carrier
  | .nullable _ => some none
  | _ => none

/-- The value of a record at the end of an object. -/
def Members.close : (members : Members) → members.Slots → Except Problem members.Carrier
  | .nil, () => .ok ()
  | .cons _ .preset _ rest, (slot, slots) => (rest.close slots).map ((slot, ·))
  | .cons key .required s rest, (slot, slots) =>
    match slot.or s.absent? with
    | some v => (rest.close slots).map ((v, ·))
    | none => .error (.mismatch (.missing key))

/-- The refusal of a value that is not of the kind wanted; scalars are read to their end first. -/
def Node.refuse (wanted : String) : Node → Problem
  | .word _ (some f) => .fault f
  | .word .null none => .mismatch (.wrongKind .null wanted)
  | .word .true none => .mismatch (.wrongKind (.flag true) wanted)
  | .word .false none => .mismatch (.wrongKind (.flag false) wanted)
  | .number (.error f) => .fault f
  | .number (.ok n) => match n.value? with
    | none => .fault .unbounded
    | some (.integer i) => .mismatch (.wrongKind (.integer i) wanted)
    | some (.real x) => .mismatch (.wrongKind (.real x) wanted)
  | .text q => match q.text with
    | .error f => .fault f
    | .ok s => .mismatch (.wrongKind (.text s) wanted)
  | .list _ _ => .mismatch (.wrongKind .list wanted)
  | .object _ _ => .mismatch (.wrongKind .object wanted)
  | .broken f => .fault f

namespace Decoding

def flag : Node → Except Problem Bool
  | .word .true none => .ok true
  | .word .false none => .ok false
  | n => .error (n.refuse "a boolean")

def word (bits : Nat) (wanted : String) : Node → Except Problem (BitVec bits)
  | .number (.ok n) => match n.value? with
    | some (.integer i) => match wordOf? bits i with
      | some w => .ok w
      | none => .error (.mismatch (.outOfRange i wanted))
    | _ => .error ((Node.number (.ok n)).refuse wanted)
  | n => .error (n.refuse wanted)

def real : Node → Except Problem Binary64
  | .number (.ok n) => match n.value? with
    | some (.integer i) => .ok (Binary64.ofInt i)
    | some (.real x) => .ok x
    | none => .error (.fault .unbounded)
  | n => .error (n.refuse "f64")

def text (wanted : String) : Node → Except Problem String
  | .text q => q.text.mapError .fault
  | n => .error (n.refuse wanted)

/-- The place of a name among the known ones. -/
def name (names : List String) (q : Quoted) : Except Problem (Fin names.length) :=
  match q.text with
  | .error f => .error (.fault f)
  | .ok s => match names.finIdxOf? s with
    | some i => .ok i
    | none => .error (.mismatch (.unknownName s names))

/-- A name stands for itself or is the only key of an object whose value is null. -/
def choice (names : List String) : Node → Except Problem (Fin names.length)
  | .text q => name names q
  | .object [] fault? => .error (.fault (fault?.getD .malformed))
  | .object ((key, value) :: more) fault? => do
    let i ← match key with
      | .ok q => name names q
      | .error f => .error (.fault f)
    match value with
    | .word .null none => pure ()
    | value => throw (value.refuse "unit")
    match more, fault? with
    | [], none => pure i
    | [], some f => throw (.fault f)
    | _ :: _, _ => throw (.fault .malformed)
  | .broken f => .error (.fault f)
  | _ => .error (.fault .malformed)

def key : Key → Except Problem String
  | .ok q => q.text.mapError .fault
  | .error f => .error (.fault f)

/--
The members of an object in order. `fill` stores the value of a known key and knows nothing of
others; the values of those only have to be well formed.
-/
def members {σ : Type} (fill : String → Node → σ → Option (Except Problem σ)) :
    List (Key × Node) → σ → Except Problem σ
  | [], slots => .ok slots
  | (k, value) :: rest, slots => do
    match fill (← key k) value slots with
    | some filled => members fill rest (← filled)
    | none => match value.skipFault? with
      | some f => throw (.fault f)
      | none => members fill rest slots

end Decoding

def Shape.recordKind (name : String) : String := "struct " ++ name

def Members.sizedKind (members : Members) (name : String) : String :=
  Shape.recordKind name ++ " with " ++ toString members.length ++
    (if members.length = 1 then " element" else " elements")

mutual

def Shape.decode : (s : Shape) → Node → Except Problem s.Carrier
  | .flag, n => Decoding.flag n
  | .word bits wanted, n => Decoding.word bits wanted n
  | .real, n => Decoding.real n
  | .text wanted, n => Decoding.text wanted n
  | .choice names, n => Decoding.choice names n
  | .nullable s, n => match n with
    | .word .null none => .ok none
    | .word .null (some f) => .error (.fault f)
    | n => (s.decode n).map some
  | .record name ms, n => match n with
    | .object members fault? => do
      let slots ← Decoding.members ms.fill members ms.noSlots
      match fault? with
      | some f => throw (.fault f)
      | none => ms.close slots
    | .list items fault? => ms.decodeItems (ms.sizedKind name) 0 items fault?
    | n => .error (n.refuse (Shape.recordKind name))
  | .row wanted sized ms, n => match n with
    | .list items fault? => ms.decodeItems sized 0 items fault?
    | n => .error (n.refuse wanted)

/-- Stores the value of a member with the key, if there is one; a second value is refused unread. -/
def Members.fill : (ms : Members) → String → Node → ms.Slots → Option (Except Problem ms.Slots)
  | .nil, _, _, _ => none
  | .cons key _ s rest, k, value, slots =>
    if k = key then
      some (match slots.1 with
        | some _ => .error (.mismatch (.repeated key))
        | none => (s.decode value).map fun v => (some v, slots.2))
    else (rest.fill k value slots.2).map fun filled => filled.map fun more => (slots.1, more)

/-- The members as items of a list, of which `index` came before. -/
def Members.decodeItems : (ms : Members) → (sized : String) → (index : Nat) → List Node →
    Option Fault → Except Problem ms.Carrier
  | .nil, _, _, items, fault? => match items, fault? with
    | [], none => .ok ()
    | [], some f => .error (.fault f)
    | _ :: _, _ => .error (.fault .surplus)
  | .cons _ presence s rest, sized, index, items, fault? => match items with
    | item :: items => do
      let v ← s.decode item
      let more ← rest.decodeItems sized (index + 1) items fault?
      return match presence with
        | .required => (v, more)
        | .preset => (some v, more)
    | [] => match fault?, presence with
      | some f, _ => .error (.fault f)
      | none, .required => .error (.mismatch (.wrongLength index sized))
      | none, .preset => (rest.decodeItems sized (index + 1) [] none).map ((none, ·))

end

/-- What the bytes of a document mean; nothing but blanks may follow the value. -/
def Shape.read (s : Shape) (d : Document) : Except Problem s.Carrier := do
  let v ← s.decode d.root
  if d.trailing then throw (.fault .surplus) else return v

def Shape.readBytes (s : Shape) (bytes : List UInt8) : Except Problem s.Carrier :=
  s.read (.ofBytes bytes)

mutual

/-- The value that is written; a preset member that is absent is left out. -/
def Shape.encode : (s : Shape) → s.Carrier → Value
  | .flag, b => .flag b
  | .word _ _, w => .integer (BitVec.toNat w)
  | .real, x => if Binary64.isFinite x then .real x else .null
  | .text _, s => .text s
  | .choice names, i => .text (names.get i)
  | .nullable s, v => match v with
    | none => .null
    | some v => s.encode v
  | .record _ ms, v => .object (ms.encode v)
  | .row _ _ ms, v => .list ((ms.encode v).map (·.2))

def Members.encode : (ms : Members) → ms.Carrier → List (String × Value)
  | .nil, _ => []
  | .cons key .required s rest, v => (key, s.encode v.1) :: rest.encode v.2
  | .cons key .preset s rest, v => match v.1 with
    | none => rest.encode v.2
    | some w => (key, s.encode w) :: rest.encode v.2

end

end CycleLedger.Json
