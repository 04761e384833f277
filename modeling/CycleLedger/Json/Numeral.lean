import CycleLedger.Binary64
import CycleLedger.Json.Ascii

/-! # Numerals

A numeral is scanned byte by byte: an optional minus sign, an integer part without leading zeros, an
optional fraction and an optional exponent, with at least one digit in each part. What is kept of it
is the decimal number that it names and whether it was written as an integer.

A decimal that is no integer becomes the nearest double. That shortest decimals read back as the
doubles they were written for is the assumption under which reports are read back; on longer
decimals a reader may be off in the last place without any part in that.
-/

namespace CycleLedger.Json

/-- Why reading stopped inside a document. -/
inductive Fault where
  /-- the bytes end too early -/
  | truncated
  /-- a byte, or what it begins, cannot stand there -/
  | malformed
  /-- more follows where a list or the document has to end -/
  | surplus
  /-- a number beyond all doubles -/
  | unbounded
deriving DecidableEq

/-- The number `digits * 10 ^ exponent`, negated if `negative`. -/
structure Numeral where
  negative : Bool
  digits : Nat
  exponent : Int
  /-- written without fraction and without exponent -/
  integral : Bool
deriving DecidableEq

/--
How a numeral is understood: integers of at most 64 bits stay exact, all others become doubles.
-/
inductive Number where
  | integer (n : Int)
  | real (x : Binary64)
deriving DecidableEq

namespace Numeral

def ofInt (n : Int) : Numeral := ⟨n < 0, n.natAbs, 0, true⟩

/--
An integer from -2^63 to 2^64 - 1 is exact, except that the negative zero is a double. A number
beyond the range of doubles is no number at all.
-/
def value? (n : Numeral) : Option Number :=
  if n.integral && !n.negative && n.digits < UInt64.size then some (.integer n.digits)
  else if n.integral && n.negative && 0 < n.digits && 2 * n.digits ≤ UInt64.size then
    some (.integer (-n.digits))
  else (Binary64.ofDecimal? n.negative n.digits n.exponent).map .real

/-- How far into a numeral the bytes have come. -/
inductive Scan where
  /-- the minus sign -/
  | sign
  /-- an integer part that is a single zero -/
  | zero (negative : Bool)
  | integer (negative : Bool) (digits : Nat)
  /-- the point -/
  | point (negative : Bool) (digits : Nat)
  | fraction (negative : Bool) (digits places : Nat)
  /-- the exponent mark -/
  | mark (negative : Bool) (digits places : Nat)
  /-- the sign of the exponent -/
  | markSign (negative : Bool) (digits places : Nat) (down : Bool)
  | power (negative : Bool) (digits places : Nat) (down : Bool) (power : Nat)

namespace Scan

/-- The scan of a numeral that begins with the byte. -/
def start? (b : UInt8) : Option Scan :=
  if b == Ascii.minus then some .sign
  else if b == Ascii.zero then some (.zero false)
  else if Ascii.isDigit b then some (.integer false (Ascii.digit b))
  else none

/-- The numeral scanned so far, unless a digit has still to come. -/
def finish? : Scan → Option Numeral
  | sign => none
  | zero negative => some ⟨negative, 0, 0, true⟩
  | integer negative digits => some ⟨negative, digits, 0, true⟩
  | point _ _ => none
  | fraction negative digits places => some ⟨negative, digits, -places, false⟩
  | mark _ _ _ => none
  | markSign _ _ _ _ => none
  | power negative digits places down p =>
    some ⟨negative, digits, (if down then -(p : Int) else p) - places, false⟩

def isMark (b : UInt8) : Bool := b == Ascii.lowerE || b == Ascii.upperE

/-- The scan after one more byte, nothing if the byte is not part of the numeral. -/
def step? (s : Scan) (b : UInt8) : Option Scan :=
  match s with
  | sign =>
    if b == Ascii.zero then some (.zero true)
    else if Ascii.isDigit b then some (.integer true (Ascii.digit b))
    else none
  | zero negative =>
    if b == Ascii.point then some (.point negative 0)
    else if isMark b then some (.mark negative 0 0)
    else none
  | integer negative digits =>
    if Ascii.isDigit b then some (.integer negative (10 * digits + Ascii.digit b))
    else if b == Ascii.point then some (.point negative digits)
    else if isMark b then some (.mark negative digits 0)
    else none
  | point negative digits =>
    if Ascii.isDigit b then some (.fraction negative (10 * digits + Ascii.digit b) 1) else none
  | fraction negative digits places =>
    if Ascii.isDigit b then some (.fraction negative (10 * digits + Ascii.digit b) (places + 1))
    else if isMark b then some (.mark negative digits places)
    else none
  | mark negative digits places =>
    if b == Ascii.plus then some (.markSign negative digits places false)
    else if b == Ascii.minus then some (.markSign negative digits places true)
    else if Ascii.isDigit b then some (.power negative digits places false (Ascii.digit b))
    else none
  | markSign negative digits places down =>
    if Ascii.isDigit b then some (.power negative digits places down (Ascii.digit b)) else none
  | power negative digits places down p =>
    if Ascii.isDigit b then some (.power negative digits places down (10 * p + Ascii.digit b))
    else none

/-- Whether the byte is a digit behind a leading zero, which ends no numeral but spoils it. -/
def spoils (s : Scan) (b : UInt8) : Bool :=
  match s with
  | zero _ => Ascii.isDigit b
  | _ => false

end Scan

end Numeral

end CycleLedger.Json
