import CycleLedger.Binary64

/-! # The fewest digits that read back

A finite non-zero magnitude is written with the fewest decimal digits that are read as the same
magnitude. For one digit, two digits and so on, the two multiples of the matching power of ten
around the value are tried; of two that read back the nearer is taken, and the caller settles a tie.
Seventeen digits are enough; should none serve, the exact expansion is used, so that what is
selected always reads back.
-/

namespace CycleLedger.Binary64

/-- A decimal `0.d₁d₂d₃… * 10 ^ point`, leading digit not zero. -/
structure Digits where
  digits : List Char
  point : Int
deriving DecidableEq

/-- The decimal `significand * 10 ^ exponent` without trailing zeros. -/
def Digits.ofScaled (significand : Nat) (exponent : Int) : Digits :=
  let all := Nat.toDigits 10 significand
  { digits := (all.reverse.dropWhile (· == '0')).reverse
    point := all.length + exponent }

/-- The digits as one natural number. -/
def Digits.significand (d : Digits) : Nat :=
  d.digits.foldl (fun n c => 10 * n + (c.toNat - '0'.toNat)) 0

/-- The least power of ten that exceeds `steps` steps of 2^-1074. -/
def decimalScale (steps : Nat) : Int :=
  if (1 <<< 1074) ≤ steps then (Nat.toDigits 10 (steps >>> 1074)).length
  else 1 - (Nat.toDigits 10 ((1 <<< 1074) / steps)).length

/-- Whether `significand * 10 ^ exponent` is read as `magnitude`. -/
def readsBack (magnitude significand : Nat) (exponent : Int) : Bool :=
  nearestMagnitude (significand * tenTo exponent.toNat) (tenTo (-exponent).toNat) == magnitude

/--
The multiple of `10 ^ exponent` that stands for `magnitude`, if one of its two neighbours does.
-/
def neighbour? (tie : Tie) (magnitude : Nat) (exponent : Int) : Option Nat :=
  let num := stepsOf magnitude * tenTo (-exponent).toNat
  let den := tenTo exponent.toNat <<< 1074
  let below := num / den
  match readsBack magnitude below exponent, readsBack magnitude (below + 1) exponent with
  | true, true => some (roundQuotient tie num den)
  | true, false => some below
  | false, true => some (below + 1)
  | false, false => none

def shortest (tie : Tie) (magnitude : Nat) : Digits :=
  let scale := decimalScale (stepsOf magnitude)
  let found := (List.range 17).findSome? fun n =>
    let exponent := scale - (n + 1 : Nat)
    (neighbour? tie magnitude exponent).map fun significand => Digits.ofScaled significand exponent
  found.getD (Digits.ofScaled (stepsOf magnitude * Nat.pow 5 1074) (-1074))

end CycleLedger.Binary64
