/-! # Words

An unsigned word holds the naturals below a power of two.
-/

namespace CycleLedger

/-- The word that an integer is, if one of so many bits can hold it. -/
def wordOf? (bits : Nat) (n : Int) : Option (BitVec bits) :=
  let w := BitVec.ofInt bits n
  if (w.toNat : Int) = n then some w else none

end CycleLedger
