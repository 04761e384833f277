import CycleLedger.Proofs.Core.Run

/-! # Well-formed cycles

A well-formed sample is stalled for at most one reason, and a cache flag comes with the flag of its
side. Of such samples stalls and cache flags are accounted for exactly. The vector flag is free: the
breakdown is consistent exactly if no more cycles have it than retire.
-/

namespace CycleLedger

namespace CoreSample

/-- At most one reason for a stall, and no cache flag without its side. -/
def WellFormed (e : CoreSample) : Prop :=
  e.badSpeculation.toNat + e.frontend.toNat + e.backend.toNat ≤ 1 ∧
    (e.frontendCache = true → e.frontend = true) ∧ (e.backendCache = true → e.backend = true)

instance : DecidablePred WellFormed := fun e =>
  inferInstanceAs (Decidable (e.badSpeculation.toNat + e.frontend.toNat + e.backend.toNat ≤ 1 ∧
    (e.frontendCache = true → e.frontend = true) ∧ (e.backendCache = true → e.backend = true)))

/-- The cycle retires an instruction: it has no reason for a stall. -/
def retires (e : CoreSample) : Bool := !(e.badSpeculation || e.frontend || e.backend)

/-- A well-formed cycle retires or has one stall flag. -/
theorem WellFormed.flags {e : CoreSample} (h : e.WellFormed) :
    e.badSpeculation.toNat + e.frontend.toNat + e.backend.toNat + e.retires.toNat = 1 := by
  have exclusive := h.1
  rw [retires]
  cases hb : e.badSpeculation <;> cases hf : e.frontend <;> cases hk : e.backend <;>
    simp_all

end CoreSample

namespace CoreCounters

/-- Well-formed cycles are stalled or retire. -/
theorem flagCount_add_retiring {es : List CoreSample} (h : ∀ e ∈ es, e.WellFormed) :
    flagCount es + es.countP (·.retires) = es.length := by
  induction es with
  | nil => rfl
  | cons e es ih =>
    obtain ⟨first, others⟩ := List.forall_mem_cons.mp h
    have rest := ih others
    have flags := first.flags
    have flag (b : Bool) : b.toNat = if b then 1 else 0 := by cases b <;> rfl
    simp only [flag] at flags
    simp only [flagCount, List.countP_cons, List.length_cons] at rest ⊢
    omega

theorem cacheFlags_le {es : List CoreSample} (h : ∀ e ∈ es, e.WellFormed) :
    es.countP (·.frontendCache) ≤ es.countP (·.frontend) ∧
      es.countP (·.backendCache) ≤ es.countP (·.backend) :=
  ⟨List.countP_mono_left fun e he => (h e he).2.1, List.countP_mono_left fun e he => (h e he).2.2⟩

/-- What well-formed samples make of a core. -/
theorem Counts.accounts {es : List CoreSample} {c : CoreCounters} (h : c.Counts es)
    (wellFormed : ∀ e ∈ es, e.WellFormed) :
    c.stalls.toNat = flagCount es ∧ c.retired.toNat = es.countP (·.retires) := by
  have whole := flagCount_add_retiring wellFormed
  have enough : c.stallFlags ≤ c.cycles.toNat := by
    rw [h.stallFlags_eq, h.cycles]
    omega
  have stalls := c.stalls_eq_stallFlags (Nat.lt_of_le_of_lt enough c.cycles.toNat_lt)
  have retired := c.stallFlags_add_retired enough
  rw [h.stallFlags_eq] at stalls retired
  rw [h.cycles] at retired
  exact ⟨stalls, by omega⟩

/-- The vector flags decide whether the breakdown of well-formed samples is consistent. -/
theorem Counts.isConsistent_iff_simd {es : List CoreSample} {c : CoreCounters} (h : c.Counts es)
    (wellFormed : ∀ e ∈ es, e.WellFormed) :
    c.breakdown.isConsistent = true ↔ es.countP (·.simd) ≤ es.countP (·.retires) := by
  have whole := flagCount_add_retiring wellFormed
  have cycles := c.cycles.toNat_lt
  rw [h.cycles] at cycles
  rw [h.isConsistent_iff (by omega)]
  have caches := cacheFlags_le wellFormed
  omega

/--
Well-formed samples split the cycles into stalls and retired instructions, and each side's stalls
into those of its cache and the others. The rest is exact, and the breakdown consistent, if no more
cycles have the vector flag than retire, so if no stalled cycle has it.
-/
theorem wellFormed_accounting (calls : List Call) (few : (counted false calls).length < 2 ^ 64)
    (wellFormed : ∀ e ∈ counted false calls, e.WellFormed) :
    let c := ({} : CoreCounters).after calls
    let es := counted false calls
    let b := c.finalize.result
    (b.stalls.toNat + b.retired.toNat = b.cycles.toNat ∧
      b.frontendCache.toNat + b.frontendCore.toNat = b.frontend.toNat ∧
      b.backendCache.toNat + b.backendCore.toNat = b.backend.toNat) ∧
    ((b.isConsistent = true ↔ es.countP (·.simd) ≤ es.countP (·.retires)) ∧
      (c.finalize.notices = [] ↔ es.countP (·.simd) ≤ es.countP (·.retires)) ∧
      (b.integer.toNat + b.simd.toNat = b.retired.toNat ↔
        es.countP (·.simd) ≤ es.countP (·.retires))) ∧
    ((∀ e ∈ es, e.simd = true → e.retires = true) →
      es.countP (·.simd) ≤ es.countP (·.retires)) := by
  intro c es b
  have counts : c.Counts es := counts_after calls few
  obtain ⟨stalls, retired⟩ := counts.accounts wellFormed
  obtain ⟨frontend, backend⟩ := cacheFlags_le wellFormed
  have consistent := counts.isConsistent_iff_simd wellFormed
  refine ⟨⟨?_, ?_, ?_⟩, ⟨consistent, c.notices_eq_nil_iff.trans consistent, ?_⟩, ?_⟩
  · show c.stalls.toNat + c.retired.toNat = c.cycles.toNat
    rw [stalls, retired, counts.cycles, flagCount_add_retiring wellFormed]
  · refine (toNat_add_toNat_sub_eq_iff c.frontend c.frontendCache).2 ?_
    rwa [counts.frontendCache, counts.frontend]
  · refine (toNat_add_toNat_sub_eq_iff c.backend c.backendCache).2 ?_
    rwa [counts.backendCache, counts.backend]
  · show (c.retired - c.simd).toNat + c.simd.toNat = c.retired.toNat ↔ _
    rw [Nat.add_comm, toNat_add_toNat_sub_eq_iff, retired, counts.simd]
  · intro vector
    exact List.countP_mono_left vector

/-- A gate that closes, and every flag that a well-formed sample can have. -/
theorem wellFormed_accounting_gated :
    let calls : List Call := [.sample .speculating, .gate true, .sample (.frontendBound true),
      .sample (.retire true), .sample .speculating, .gate false, .sample (.backendBound false),
      .gate true, .sample (.backendBound true), .sample .retiring]
    let c := ({} : CoreCounters).after calls
    let b := c.finalize.result
    (counted false calls).length < 2 ^ 64 ∧ (∀ e ∈ counted false calls, e.WellFormed) ∧
      b.stalls.toNat + b.retired.toNat = b.cycles.toNat ∧ b.isConsistent = true ∧
      c.finalize.notices = [] ∧ b.integer.toNat + b.simd.toNat = b.retired.toNat := by
  intro calls c b
  have few : (counted false calls).length < 2 ^ 64 := by decide
  have wellFormed : ∀ e ∈ counted false calls, e.WellFormed := by decide
  obtain ⟨⟨stalls, -, -⟩, ⟨consistent, notices, simd⟩, vector⟩ :=
    wellFormed_accounting calls few wellFormed
  have enough := vector (by decide)
  exact ⟨few, wellFormed, stalls, consistent.2 enough, notices.2 enough, simd.2 enough⟩

/--
A stalled cycle with the vector flag is well formed, yet the breakdown is inconsistent: the integer
instructions wrap.
-/
theorem wellFormed_inconsistent :
    let e : CoreSample := { badSpeculation := true, simd := true }
    let c := ({} : CoreCounters).after [.gate true, .sample e]
    let b := c.finalize.result
    e.WellFormed ∧ b.isConsistent = false ∧ c.finalize.notices = [.overlapping 1 1] ∧
      b.integer.toNat = 2 ^ 64 - 1 ∧ b.integer.toNat + b.simd.toNat ≠ b.retired.toNat := by
  decide

end CoreCounters

end CycleLedger
