/-! # Fields of fixed width

A text is put into a field of at least `width` characters and filled up with blanks; a text that is
longer keeps its length. A precision cuts the text before it is filled up.
-/

namespace CycleLedger.Text

/--
Where the text stands in its field; a centred text has the smaller half of the blanks before it.
-/
inductive Alignment where
  | left
  | right
  | centre
deriving DecidableEq

/-- `text` in a field filled up with `fill`. -/
def pad (fill : Char) (alignment : Alignment) (width : Nat) (text : List Char) : List Char :=
  let spare := width - text.length
  let before := match alignment with
    | .left => 0
    | .right => spare
    | .centre => spare / 2
  List.replicate before fill ++ text ++ List.replicate (spare - before) fill

def field (alignment : Alignment) (width : Nat) (precision? : Option Nat) (s : String) : String :=
  let text := match precision? with
    | some precision => s.toList.take precision
    | none => s.toList
  String.ofList (pad ' ' alignment width text)

/-- A number in at least eight hexadecimal digits. -/
def hex8 (n : UInt32) : String :=
  String.ofList (pad '0' .right 8 (Nat.toDigits 16 n.toNat))

/-- A number in hexadecimal with its mark. -/
def markedHex (n : UInt32) : String := "0x" ++ String.ofList (Nat.toDigits 16 n.toNat)

end CycleLedger.Text
