import CycleLedger.Access
import CycleLedger.Json.Form
import CycleLedger.Metric

/-! # Written forms of directions, outcomes and metrics -/

namespace CycleLedger

open Json

def Direction.form : Form Direction where
  shape := .choice ["read", "write"]
  ofCarrier := fun (i : Fin 2) => match i with
    | 0 => .read
    | 1 => .write
  toCarrier := fun d => match d with
    | .read => (0 : Fin 2)
    | .write => (1 : Fin 2)
  ofCarrier_toCarrier d := by cases d <;> rfl

def Outcome.form : Form Outcome where
  shape := .choice ["unknown", "hit", "miss"]
  ofCarrier := fun (i : Fin 3) => match i with
    | 0 => .unknown
    | 1 => .hit
    | 2 => .miss
  toCarrier := fun o => match o with
    | .unknown => (0 : Fin 3)
    | .hit => (1 : Fin 3)
    | .miss => (2 : Fin 3)
  ofCarrier_toCarrier o := by cases o <;> rfl

/-- An undefined metric is null, and so is one that is no finite number. -/
def Metric.form : Form Metric where
  shape := .nullable .real
  ofCarrier := Metric.ofValue?
  toCarrier := Metric.value?
  ofCarrier_toCarrier m := by cases m <;> rfl

end CycleLedger
