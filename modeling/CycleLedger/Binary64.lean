import CycleLedger.Rounding

/-! # Double-precision values

A double is kept as its 64 bits, so equality is equality of bits and all arithmetic is exact
arithmetic of naturals. Every finite double is a whole number of steps of 2^-1074, the gap between
the two smallest; `steps` counts them. A quotient of naturals is rounded to the nearest double,
ties to even, and may reach the infinity pattern.

A decimal is rounded in the same way when it is read. Readers of decimals need not all be so exact;
what is to be read back relies on no more than that a shortest decimal gives the double that it was
written for.
-/

namespace CycleLedger

structure Binary64 where
  bits : UInt64
deriving DecidableEq, Inhabited

namespace Binary64

/-- The pattern of infinity without its sign; larger magnitudes are not numbers. -/
def infiniteMagnitude : Nat := 0x7FF <<< 52

/-- The bits without the sign. -/
def magnitude (x : Binary64) : Nat := x.bits.toNat % (1 <<< 63)

def isNegative (x : Binary64) : Bool := (1 <<< 63) ≤ x.bits.toNat

def isFinite (x : Binary64) : Bool := x.magnitude < infiniteMagnitude

def isNaN (x : Binary64) : Bool := infiniteMagnitude < x.magnitude

def ofMagnitude (negative : Bool) (magnitude : Nat) : Binary64 :=
  ⟨UInt64.ofNat (if negative then (1 <<< 63) + magnitude else magnitude)⟩

/-- The steps of 2^-1074 in a finite magnitude. -/
def stepsOf (magnitude : Nat) : Nat :=
  let exponent := magnitude >>> 52
  let fraction := magnitude % (1 <<< 52)
  if exponent = 0 then fraction else ((1 <<< 52) + fraction) <<< (exponent - 1)

def steps (x : Binary64) : Nat := stepsOf x.magnitude

/--
The magnitude nearest to `num / den`. Counted in steps the quotient has `scale` bits more than a
significand holds; the significand is rounded at that scale, and a carry moves into the exponent.
-/
def nearestMagnitude (num den : Nat) : Nat :=
  let size := num <<< 1074
  let scale := (size / den).log2 - 52
  (scale <<< 52) + roundQuotient .toEven size (den <<< scale)

def ofQuotient (num den : Nat) : Binary64 := ofMagnitude false (nearestMagnitude num den)

def ofNat (n : Nat) : Binary64 := ofQuotient n 1

def ofInt (n : Int) : Binary64 := ofMagnitude (n < 0) (nearestMagnitude n.natAbs 1)

/-- The quotient of two finite values of which neither is negative and the second is not zero. -/
def div (x y : Binary64) : Binary64 := ofQuotient x.steps y.steps

def tenTo (n : Nat) : Nat := Nat.pow 10 n

/--
The value of `digits * 10 ^ exponent`, nothing when it lies beyond the finite range. Exponents that
settle the question by themselves are answered before any power is formed.
-/
def ofDecimal? (negative : Bool) (digits : Nat) (exponent : Int) : Option Binary64 :=
  if digits = 0 then some (ofMagnitude negative 0)
  else if 400 < exponent then none
  else if exponent + digits.log2 < -400 then some (ofMagnitude negative 0)
  else
    let magnitude := nearestMagnitude (digits * tenTo exponent.toNat) (tenTo (-exponent).toNat)
    if magnitude < infiniteMagnitude then some (ofMagnitude negative magnitude) else none

end Binary64

end CycleLedger
