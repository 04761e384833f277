import CycleLedger.Forms.Sample
import CycleLedger.Forms.TraceEntry
import CycleLedger.Proofs.Json.Removal

/-! # Written entries and samples with members left out

An entry is read without its next program counter, which is then unknown, but without no other
member. A sample is read without any members, and what it lacks is a flag that is not set, a size of
zero or an unknown outcome.
-/

namespace CycleLedger

open Json

/-- The entry as it is read without the members that are gone. -/
def TraceEntry.lacking (gone : List String → Bool) (e : TraceEntry) : TraceEntry :=
  { e with nextPc? := if gone ["next_pc"] then none else e.nextPc? }

def CoreSample.lacking (gone : List String → Bool) (s : CoreSample) : CoreSample where
  badSpeculation := if gone ["bad_spec"] then false else s.badSpeculation
  frontend := if gone ["fe"] then false else s.frontend
  frontendCache := if gone ["fe_ic"] then false else s.frontendCache
  backend := if gone ["be"] then false else s.backend
  backendCache := if gone ["be_dc"] then false else s.backendCache
  simd := if gone ["ret_simd"] then false else s.simd

def LookupSample.lacking (gone : List String → Bool) (s : LookupSample) : LookupSample where
  accessed := if gone ["accessed"] then false else s.accessed
  hit := if gone ["hit"] then false else s.hit
  miss := if gone ["miss"] then false else s.miss
  writeback := if gone ["writeback"] then false else s.writeback
  isStore := if gone ["is_store"] then false else s.isStore
  size := if gone ["size"] then 0 else s.size
  outcome := if gone ["outcome"] then .unknown else s.outcome

theorem TraceEntry.form_less (gone : List String → Bool) (e : TraceEntry) :
    form.less gone e = e.lacking gone := by
  have read : form.less gone e =
      { e with
        nextPc? := (if gone ["next_pc"] then none
          else e.nextPc?.map UInt32.toBitVec).map UInt32.ofBitVec
        fetchOutcome := Outcome.form.ofCarrier (Outcome.form.toCarrier e.fetchOutcome)
        dataOutcome := Outcome.form.ofCarrier (Outcome.form.toCarrier e.dataOutcome)
        predictionOutcome := Outcome.form.ofCarrier
          (Outcome.form.toCarrier e.predictionOutcome) } := rfl
  have next : (if gone ["next_pc"] then none
      else e.nextPc?.map UInt32.toBitVec).map UInt32.ofBitVec =
        if gone ["next_pc"] then none else e.nextPc? := by
    cases gone ["next_pc"] <;> cases e.nextPc? <;> rfl
  rw [read, next]
  simp only [Form.ofCarrier_toCarrier, lacking]

/-! A preset member that is gone is left to its default. -/

theorem Json.getD_gone {α : Type} (gone : Bool) (a b : α) :
    (if gone then none else some a).getD b = if gone then b else a := by
  cases gone <;> rfl

theorem Json.getD_map_gone {α β : Type} (gone : Bool) (f : α → β) (a : α) (b : β) :
    ((if gone then none else some a).map f).getD b = if gone then b else f a := by
  cases gone <;> rfl

theorem CoreSample.form_less (gone : List String → Bool) (s : CoreSample) :
    form.less gone s = s.lacking gone := by
  have flag (missing b : Bool) := getD_gone missing b false
  simp only [lacking, ← flag]
  rfl

theorem LookupSample.form_less (gone : List String → Bool) (s : LookupSample) :
    form.less gone s = s.lacking gone := by
  have size := getD_map_gone (gone ["size"]) UInt8.ofBitVec s.size.toBitVec 0
  have outcome := getD_map_gone (gone ["outcome"]) Outcome.form.ofCarrier
    (Outcome.form.toCarrier s.outcome) .unknown
  rw [Outcome.form.ofCarrier_toCarrier] at outcome
  have flag (missing b : Bool) := getD_gone missing b false
  rw [lacking, ← size, ← outcome]
  simp only [← flag]
  rfl

theorem TraceEntry.needed_form :
    form.shape.needed = form.shape.paths.filter (· ∉ [["next_pc"]]) := by decide

example : TraceEntry.form.shape.paths =
    [["pc"], ["inst"], ["next_pc"], ["sp"], ["taken"], ["dmem"], ["dmem_size"], ["inst_size"],
      ["sample_cnt"], ["ic_hm"], ["dc_hm"], ["bp_hm"], ["imem"], ["imem", "core"], ["imem", "mem"],
      ["dmem_ch"], ["dmem_ch", "core_r"], ["dmem_ch", "core_w"], ["dmem_ch", "mem_r"],
      ["dmem_ch", "mem_w"]] := rfl

theorem TraceEntry.finite (e : TraceEntry) : form.shape.Finite (form.toCarrier e) :=
  ⟨trivial, trivial, fun _ _ => trivial, trivial, trivial, trivial, trivial, trivial, trivial,
    trivial, trivial, trivial, ⟨trivial, trivial, trivial⟩,
    ⟨trivial, trivial, trivial, trivial, trivial⟩, trivial⟩

theorem CoreSample.finite (s : CoreSample) : form.shape.Finite (form.toCarrier s) :=
  ⟨fun _ _ => trivial, fun _ _ => trivial, fun _ _ => trivial, fun _ _ => trivial,
    fun _ _ => trivial, fun _ _ => trivial, trivial⟩

theorem LookupSample.finite (s : LookupSample) : form.shape.Finite (form.toCarrier s) :=
  ⟨fun _ _ => trivial, fun _ _ => trivial, fun _ _ => trivial, fun _ _ => trivial,
    fun _ _ => trivial, fun _ _ => trivial, fun _ _ => trivial, trivial⟩

/--
What is written of an entry or a sample is read back, also with its members in another order on any
level, and with unknown members among them. An entry without its next program counter is read as one
where that is unknown; without any other member, on either level, it is refused for one of those. A
sample is read without any of its members, which then have their defaults.
-/
theorem records_tolerate (e : TraceEntry) (s : CoreSample) (l : LookupSample) :
    TraceEntry.form.Tolerates [["next_pc"]] TraceEntry.lacking e ∧
      CoreSample.form.Tolerates CoreSample.form.shape.paths CoreSample.lacking s ∧
      LookupSample.form.Tolerates LookupSample.form.shape.paths LookupSample.lacking l :=
  ⟨Form.tolerates (by decide) (by decide) e.finite TraceEntry.needed_form (e.form_less ·),
    Form.tolerates (by decide) (by decide) s.finite (by decide) (s.form_less ·),
    Form.tolerates (by decide) (by decide) l.finite (by decide) (l.form_less ·)⟩

/-- An entry whose channel has lost a flag, and a sample out of order with an unknown member. -/
theorem records_tolerate_partly :
    let cut := (TraceEntry.form.toValue {}).without (· = ["imem", "mem"])
    let loose : Value := .object
      [("ret_simd", .flag false), ("fe_ic", .flag true), ("cycle", .integer 12),
        ("fe", .flag true)]
    TraceEntry.form.readText cut.compact = .error (.mismatch (.missing "mem")) ∧
      CoreSample.form.readText loose.compact = .ok (.frontendBound true) := by
  intro cut loose
  obtain ⟨entry, sample, -⟩ := records_tolerate {} (.frontendBound true) {}
  have shown : CoreSample.form.Spells (· ∈ [["bad_spec"], ["be"], ["be_dc"]]) loose.compact
      (.frontendBound true) := by
    refine ⟨loose.toNode .null, loose.spelledBy_compact, _, rfl, named_memberNodes .null _, ?_⟩
    simp only [Members.Shows, Given, valuesOf_memberNodes]
    exact ⟨rfl, ⟨_, rfl, rfl⟩, ⟨_, rfl, rfl⟩, rfl, rfl, ⟨_, rfl, rfl⟩, trivial⟩
  refine ⟨?_, sample.accepts _ _ shown (by decide)⟩
  have shows := entry.without (· = ["imem"] ++ ["mem"]) _ cut.spelledBy_compact
  obtain ⟨problem, refused, missing⟩ :=
    entry.refuses _ _ shows ["imem", "mem"] (by decide) rfl (by decide)
  rw [refused, missing.eq_of_only]

end CycleLedger
