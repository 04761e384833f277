import CycleLedger.Json.Value
import CycleLedger.Text.Quotation

/-! # Why a document is refused

A document is refused because reading stopped at a fault, or because it means something else than
what is wanted. Each cause is a constructor; `message` holds all wordings.
-/

namespace CycleLedger.Json

/-- A value found where another kind was wanted. -/
inductive Found where
  | null
  | flag (b : Bool)
  | integer (n : Int)
  | real (x : Binary64)
  | text (s : String)
  | list
  | object

inductive Mismatch where
  | wrongKind (found : Found) (wanted : String)
  | outOfRange (n : Int) (wanted : String)
  | wrongLength (length : Nat) (wanted : String)
  | repeated (key : String)
  | missing (key : String)
  | unknownName (name : String) (known : List String)

/-- What is wrong with a document, in the order in which its bytes are met. -/
inductive Problem where
  | fault (f : Fault)
  | mismatch (m : Mismatch)

namespace Found

def describe : Found → String
  | null => "null"
  | flag b => "boolean `" ++ (if b then "true" else "false") ++ "`"
  | integer n => "integer `" ++ toString n ++ "`"
  | real x => "floating point `" ++ realText x ++ "`"
  | text s => "string " ++ Text.quoted s
  | list => "sequence"
  | object => "map"

end Found

namespace Mismatch

def tick (name : String) : String := "`" ++ name ++ "`"

/-- The names that would have been accepted. -/
def alternatives : List String → String
  | [] => "there are no variants"
  | [a] => "expected " ++ tick a
  | [a, b] => "expected " ++ tick a ++ " or " ++ tick b
  | names => "expected one of " ++ String.intercalate ", " (names.map tick)

def message : Mismatch → String
  | wrongKind found wanted => "invalid type: " ++ found.describe ++ ", expected " ++ wanted
  | outOfRange n wanted => "invalid value: integer " ++ tick (toString n) ++ ", expected " ++ wanted
  | wrongLength length wanted => "invalid length " ++ toString length ++ ", expected " ++ wanted
  | repeated key => "duplicate field " ++ tick key
  | missing key => "missing field " ++ tick key
  | unknownName name known => "unknown variant " ++ tick name ++ ", " ++ alternatives known

end Mismatch

end CycleLedger.Json
