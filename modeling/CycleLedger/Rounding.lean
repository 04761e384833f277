/-! # Quotients rounded to a natural number

A quotient of naturals is rounded to the nearest natural; a tie goes to the even neighbour or up,
as the caller says.
-/

namespace CycleLedger

/-- Where a quotient that lies halfway between two naturals goes. -/
inductive Tie where
  | toEven
  | up
deriving DecidableEq

/-- The natural nearest to `num / den`. -/
def roundQuotient (tie : Tie) (num den : Nat) : Nat :=
  let whole := num / den
  let twice := 2 * (num % den)
  if twice < den then whole
  else if den < twice then whole + 1
  else match tie with
    | .toEven => whole + whole % 2
    | .up => whole + 1

end CycleLedger
