import CycleLedger.Binary64.Layout
import CycleLedger.Json.Node

/-! # Values and their texts

A value is what a document means: integers of any size, doubles, texts, lists and objects whose
members keep their order. It is written compactly, or indented by two blanks a level with one item
or member a line. `toNode` is the document that its text is read as.
-/

namespace CycleLedger.Json

inductive Value where
  | null
  | flag (b : Bool)
  | integer (n : Int)
  | real (x : Binary64)
  | text (s : String)
  | list (items : List Value)
  | object (members : List (String × Value))

/--
Doubles are written with the fewest digits that read back, ties to even, without an exponent from
10^-5 to below 10^16, and always so that they are read as doubles.
-/
def realLayout : Binary64.Layout where
  tie := .toEven
  plain := fun e => -5 ≤ e && e ≤ 15
  wholePoint := true

/-- A double that is no number or has no bound is written as null. -/
def realText (x : Binary64) : String :=
  if x.isFinite then realLayout.text x else "null"

def escapedChar (c : Char) : List Char :=
  match c with
  | '\x22' => ['\\', '\x22']
  | '\\' => ['\\', '\\']
  | '\x08' => ['\\', 'b']
  | '\x0c' => ['\\', 'f']
  | '\n' => ['\\', 'n']
  | '\r' => ['\\', 'r']
  | '\t' => ['\\', 't']
  | c =>
    if c.toNat < 0x20 then
      let digits := Nat.toDigits 16 c.toNat
      ['\\', 'u'] ++ List.replicate (4 - digits.length) '0' ++ digits
    else [c]

def textText (s : String) : String :=
  String.ofList ('\x22' :: s.toList.flatMap escapedChar ++ ['\x22'])

namespace Value

mutual

/-- The text without any blanks. -/
def compact : Value → String
  | .null => "null"
  | .flag b => if b then "true" else "false"
  | .integer n => toString n
  | .real x => realText x
  | .text s => textText s
  | .list items => "[" ++ compactItems items ++ "]"
  | .object members => "\x7b" ++ compactMembers members ++ "\x7d"

def compactItems : List Value → String
  | [] => ""
  | [item] => item.compact
  | item :: items => item.compact ++ "," ++ compactItems items

def compactMembers : List (String × Value) → String
  | [] => ""
  | [(key, value)] => textText key ++ ":" ++ value.compact
  | (key, value) :: members =>
    textText key ++ ":" ++ value.compact ++ "," ++ compactMembers members

end

/-- A line break and the indentation of a level. -/
def newline (level : Nat) : String := String.ofList ('\n' :: List.replicate (2 * level) ' ')

mutual

/-- The indented text, whose first line stands at the given level. -/
def indented (level : Nat) : Value → String
  | .list [] => "[]"
  | .list items => "[" ++ indentedItems (level + 1) items ++ newline level ++ "]"
  | .object [] => "\x7b\x7d"
  | .object members => "\x7b" ++ indentedMembers (level + 1) members ++ newline level ++ "\x7d"
  | .null => "null"
  | .flag b => if b then "true" else "false"
  | .integer n => toString n
  | .real x => realText x
  | .text s => textText s

def indentedItems (level : Nat) : List Value → String
  | [] => ""
  | [item] => newline level ++ item.indented level
  | item :: items => newline level ++ item.indented level ++ "," ++ indentedItems level items

def indentedMembers (level : Nat) : List (String × Value) → String
  | [] => ""
  | [(key, value)] => newline level ++ textText key ++ ": " ++ value.indented level
  | (key, value) :: members =>
    newline level ++ textText key ++ ": " ++ value.indented level ++ "," ++
      indentedMembers level members

end

def pretty (v : Value) : String := v.indented 0

/-- The numeral that a finite double is written as. -/
def realNumeral (x : Binary64) : Numeral :=
  if x.magnitude = 0 then ⟨x.isNegative, 0, -1, false⟩
  else
    let d := Binary64.shortest realLayout.tie x.magnitude
    let exponent := d.point - d.digits.length
    if realLayout.plain (d.point - 1) && 0 ≤ exponent then
      ⟨x.isNegative, d.significand * Binary64.tenTo (exponent.toNat + 1), -1, false⟩
    else ⟨x.isNegative, d.significand, exponent, false⟩

mutual

/--
The document that a value is read as. `unbounded` is what a double that is no finite number is read
as; in a text it is null.
-/
def toNode (unbounded : Node) : Value → Node
  | .null => .null
  | .flag b => .flag b
  | .integer n => .number (.ok (.ofInt n))
  | .real x => if x.isFinite then .number (.ok (realNumeral x)) else unbounded
  | .text s => .text (.ofString s)
  | .list items => .list (itemNodes unbounded items) none
  | .object members => .object (memberNodes unbounded members) none

def itemNodes (unbounded : Node) : List Value → List Node
  | [] => []
  | item :: items => item.toNode unbounded :: itemNodes unbounded items

def memberNodes (unbounded : Node) : List (String × Value) → List (Key × Node)
  | [] => []
  | (key, value) :: members =>
    (.ok (.ofString key), value.toNode unbounded) :: memberNodes unbounded members

end

end Value

end CycleLedger.Json
