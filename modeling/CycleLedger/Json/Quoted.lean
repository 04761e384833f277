import CycleLedger.Json.Numeral

/-! # Quoted texts

A quoted text is scanned byte by byte up to its closing quote. Scanning checks escapes and refuses
raw control characters, and that is all that a skipped text has to satisfy. A text that is kept must
also be text: 16-bit escapes pair up into characters, and its bytes are UTF-8.
-/

namespace CycleLedger.Json

/-- A byte of a quoted text, a simple escape included, or a 16-bit unit given by its number. -/
inductive TextUnit where
  | byte (b : UInt8)
  | code (unit : Nat)
deriving DecidableEq

/-- A quoted text as far as it was read. -/
structure Quoted where
  units : List TextUnit
  /-- nothing behind a closing quote -/
  fault? : Option Fault
deriving DecidableEq

namespace Quoted

/-- The bytes of a character given by its code point. -/
def encodeCode (code : Nat) : List UInt8 := (String.singleton (Char.ofNat code)).toUTF8.toList

def isHighHalf (unit : Nat) : Bool := 0xD800 ≤ unit && unit < 0xDC00

def isLowHalf (unit : Nat) : Bool := 0xDC00 ≤ unit && unit < 0xE000

/--
The bytes of the units, high halves joined with the low halves that follow them. A half without its
partner is refused where it stands, before a fault that ends the text.
-/
def joinUnits (fault? : Option Fault) : List TextUnit → Except Fault (List UInt8)
  | [] => match fault? with
    | some f => .error f
    | none => .ok []
  | .byte b :: rest => (joinUnits fault? rest).map (b :: ·)
  | .code high :: rest =>
    if isLowHalf high then .error .malformed
    else if isHighHalf high then
      match rest with
      | .code low :: rest =>
        if isLowHalf low then
          (joinUnits fault? rest).map
            (encodeCode (0x10000 + (high - 0xD800) * 0x400 + (low - 0xDC00)) ++ ·)
        else .error .malformed
      | .byte _ :: _ => .error .malformed
      | [] => .error (fault?.getD .malformed)
    else (joinUnits fault? rest).map (encodeCode high ++ ·)

/-- The text that was written, if it can be kept. -/
def text (q : Quoted) : Except Fault String :=
  match joinUnits q.fault? q.units with
  | .error f => .error f
  | .ok bytes => match String.fromUTF8? bytes.toByteArray with
    | some s => .ok s
    | none => .error .malformed

/--
The unit that a byte of a text is written as: controls without an escape of their own by number.
-/
def writtenUnit (b : UInt8) : TextUnit :=
  if b < 0x20 && !(b == 0x08 || b == 0x09 || b == 0x0A || b == 0x0C || b == 0x0D) then
    .code b.toNat
  else .byte b

/-- The quoted text that a text is written as. -/
def ofString (s : String) : Quoted := ⟨s.toUTF8.toList.map writtenUnit, none⟩

/-- How far into a quoted text the bytes have come; the units are the latest first. -/
inductive Scan where
  | plain (units : List TextUnit)
  /-- the backslash of an escape -/
  | escape (units : List TextUnit)
  /-- a 16-bit escape with `left` more digits to come; the value is lost at a digit that is none -/
  | hex (units : List TextUnit) (left : Nat) (value? : Option Nat)

namespace Scan

def units : Scan → List TextUnit
  | plain units | escape units | hex units _ _ => units

/-- What an escape letter other than that of a 16-bit unit stands for. -/
def escaped? (b : UInt8) : Option UInt8 :=
  match b with
  | Ascii.quote => some Ascii.quote
  | Ascii.backslash => some Ascii.backslash
  | Ascii.slash => some Ascii.slash
  | Ascii.lowerB => some 0x08
  | Ascii.lowerF => some 0x0C
  | Ascii.lowerN => some Ascii.lineFeed
  | Ascii.lowerR => some Ascii.carriageReturn
  | Ascii.lowerT => some Ascii.tab
  | _ => none

/-- The text scanned so far, ended by a closing quote or by a fault. -/
def close (s : Scan) (fault? : Option Fault) : Quoted := ⟨s.units.reverse, fault?⟩

/-- One more byte either continues the text or ends it. -/
def step (s : Scan) (b : UInt8) : Scan ⊕ Quoted :=
  match s with
  | plain units =>
    if b == Ascii.quote then .inr (s.close none)
    else if b == Ascii.backslash then .inl (.escape units)
    else if b < 0x20 then .inr (s.close (some .malformed))
    else .inl (.plain (.byte b :: units))
  | escape units =>
    if b == Ascii.lowerU then .inl (.hex units 3 (some 0))
    else match escaped? b with
      | some c => .inl (.plain (.byte c :: units))
      | none => .inr (s.close (some .malformed))
  | hex units left value? =>
    let value? := value?.bind fun v => (Ascii.hexDigit? b).map (16 * v + ·)
    match left, value? with
    | left + 1, _ => .inl (.hex units left value?)
    | 0, some v => .inl (.plain (.code v :: units))
    | 0, none => .inr (s.close (some .malformed))

end Scan

end Quoted

end CycleLedger.Json
