import CycleLedger.Ledger.Delivery

/-! # Runs of a ledger

What can be asked of a ledger, one operation after the other. On the ledger itself each operation is
at most one update: a gate moves, a sample is delivered, or the predictor is handed the retired
instructions. Writing a report is the last of these whatever becomes of the report, so a storage can
be any at all, and a run covers every way in which a write fails.
-/

namespace CycleLedger.Ledger

/-- What is delivered to a ledger; of a prediction, a hit is a correct one. -/
inductive Sample where
  | core (e : CoreSample)
  | lookup (kind : CacheKind) (e : LookupSample)
  | prediction (e : LookupSample)

inductive Update where
  | gate (enable : Bool)
  | sample (s : Sample)
  | summary

def update (l : Ledger) : Update → Ledger
  | .gate enable => l.setEnabled enable
  | .sample (.core e) => l.addCore e
  | .sample (.lookup kind e) => (l.addLookup kind e).result
  | .sample (.prediction e) => l.addPrediction e
  | .summary => l.summarize

/-- The ledger after updates in order. -/
def after (l : Ledger) (us : List Update) : Ledger := us.foldl update l

@[simp] theorem after_nil (l : Ledger) : l.after [] = l := rfl

@[simp] theorem after_cons (l : Ledger) (u : Update) (us : List Update) :
    l.after (u :: us) = (l.update u).after us := rfl

@[simp] theorem after_append (l : Ledger) (us vs : List Update) :
    l.after (us ++ vs) = (l.after us).after vs := List.foldl_append

inductive Operation where
  | setEnabled (enable : Bool)
  | addCore (e : CoreSample)
  | addLookup (kind : CacheKind) (e : LookupSample)
  | addPrediction (e : LookupSample)
  | render
  | report
  | deliver (sink : Sink)
  | writeReport (path : String)

namespace Operation

def update : Operation → Update
  | setEnabled enable => .gate enable
  | addCore e => .sample (.core e)
  | addLookup kind e => .sample (.lookup kind e)
  | addPrediction e => .sample (.prediction e)
  | render | report | deliver _ | writeReport _ => .summary

def samples : Operation → List Sample
  | addCore e => [.core e]
  | addLookup kind e => [.lookup kind e]
  | addPrediction e => [.prediction e]
  | setEnabled _ | render | report | deliver _ | writeReport _ => []

end Operation

variable {σ : Type} (storage : Storage σ)

/-- The ledger after an operation and the place where reports are stored, with the notices. -/
def perform : Operation → Ledger × σ → Noted (Ledger × σ)
  | .setEnabled enable, (l, place) => .quiet (l.setEnabled enable, place)
  | .addCore e, (l, place) => .quiet (l.addCore e, place)
  | .addLookup kind e, (l, place) => (l.addLookup kind e).map fun l => (l, place)
  | .addPrediction e, (l, place) => .quiet (l.addPrediction e, place)
  | .render, (l, place) => l.render.map fun (_, l) => (l, place)
  | .report, (l, place) => l.report.map fun (_, l) => (l, place)
  | .deliver sink, (l, place) => (l.deliver sink).map fun (_, l) => (l, place)
  | .writeReport path, (l, place) => (l.writeReport storage path place).map (·.2)

def run : List Operation → Ledger × σ → Noted (Ledger × σ)
  | [], x => .quiet x
  | op :: ops, x => (perform storage op x).andThen (run ops)

/-- Whether the file is written or not, the ledger has been summarized. -/
theorem writeReport_ledger (path : String) (place : σ) (l : Ledger) :
    (l.writeReport storage path place).result.2.1 = l.summarize := by
  simp only [writeReport, Noted.andThen, report]
  split <;> rfl

theorem perform_ledger (op : Operation) (x : Ledger × σ) :
    (perform storage op x).result.1 = x.1.update op.update := by
  obtain ⟨l, place⟩ := x
  cases op with
  | writeReport path => exact writeReport_ledger storage path place l
  | _ => rfl

theorem run_ledger (ops : List Operation) (x : Ledger × σ) :
    (run storage ops x).result.1 = x.1.after (ops.map (·.update)) := by
  induction ops generalizing x with
  | nil => rfl
  | cons op ops ih =>
    rw [List.map_cons, after_cons, ← perform_ledger storage]
    exact ih _

end CycleLedger.Ledger
