import CycleLedger.Binary64.Shortest

/-! # Written forms of doubles

The shortest digits are laid out by a `Layout`, one value for each kind of text that shows doubles.
A fixed number of places rounds the exact value instead, ties to even.
-/

namespace CycleLedger.Binary64

/-- What a kind of text decides about the doubles that it shows. -/
structure Layout where
  /-- which of two equally near shortest decimals is written -/
  tie : Tie
  /-- whether a leading digit of weight `10 ^ e` is written without an exponent -/
  plain : Int → Bool
  /-- whether a whole number is written with a point and a zero -/
  wholePoint : Bool

def zeros (n : Int) : List Char := List.replicate n.toNat '0'

/-- The digits with the point in its place, zeros filling up to it. -/
def Digits.positional (d : Digits) (wholePoint : Bool) : List Char :=
  if d.point ≤ 0 then '0' :: '.' :: zeros (-d.point) ++ d.digits
  else if d.point < d.digits.length then
    d.digits.take d.point.toNat ++ '.' :: d.digits.drop d.point.toNat
  else
    d.digits ++ zeros (d.point - d.digits.length) ++ if wholePoint then ['.', '0'] else []

/-- One digit before the point and a signed exponent. -/
def Digits.scientific (d : Digits) : List Char :=
  let exponent := d.point - 1
  let sign := if exponent < 0 then '-' else '+'
  let mantissa := match d.digits with
    | first :: second :: more => first :: '.' :: second :: more
    | short => short
  mantissa ++ 'e' :: sign :: Nat.toDigits 10 exponent.natAbs

def Layout.unsigned (layout : Layout) (magnitude : Nat) : List Char :=
  if magnitude = 0 then '0' :: if layout.wholePoint then ['.', '0'] else []
  else
    let d := shortest layout.tie magnitude
    if layout.plain (d.point - 1) then d.positional layout.wholePoint else d.scientific

def signed (x : Binary64) (unsigned : List Char) : String :=
  String.ofList (if x.isNegative then '-' :: unsigned else unsigned)

/-- The text of a finite value. -/
def Layout.text (layout : Layout) (x : Binary64) : String :=
  x.signed (layout.unsigned x.magnitude)

/-- The text of a finite value with `places` digits after the point. -/
def fixed (places : Nat) (x : Binary64) : String :=
  let digits := Nat.toDigits 10 (roundQuotient .toEven (x.steps * tenTo places) (1 <<< 1074))
  let padded := List.replicate (places + 1 - digits.length) '0' ++ digits
  let whole := padded.length - places
  x.signed (padded.take whole ++ if places = 0 then [] else '.' :: padded.drop whole)

/-- The text of a value that is no number or has no bound. -/
def nonFiniteText (x : Binary64) : String :=
  if x.isNaN then "NaN" else if x.isNegative then "-inf" else "inf"

end CycleLedger.Binary64
