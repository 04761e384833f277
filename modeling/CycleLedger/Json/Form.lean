import CycleLedger.Json.Shape

/-! # Document forms of types

A form ties a type to a shape. What is written of a value means that value again.
-/

namespace CycleLedger.Json

structure Form (α : Type) where
  shape : Shape
  ofCarrier : shape.Carrier → α
  toCarrier : α → shape.Carrier
  ofCarrier_toCarrier : ∀ a, ofCarrier (toCarrier a) = a

namespace Form

variable {α : Type} (form : Form α)

def readBytes (bytes : List UInt8) : Except Problem α :=
  (form.shape.readBytes bytes).map form.ofCarrier

def readText (text : String) : Except Problem α := form.readBytes text.toUTF8.toList

/-- Reads a value as its document. A double that is no finite number cannot stand in a document. -/
def readValue (v : Value) : Except Problem α :=
  (form.shape.decode (v.toNode (.broken .malformed))).map form.ofCarrier

def toValue (a : α) : Value := form.shape.encode (form.toCarrier a)

def compact (a : α) : String := (form.toValue a).compact

def pretty (a : α) : String := (form.toValue a).pretty

end Form

end CycleLedger.Json
