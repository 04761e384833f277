import CycleLedger.Proofs.Core.Run
import CycleLedger.Proofs.Report.RoundTrip

/-! # What consistency means

Whatever flags the samples have, the rows of a core sum to its cycles modulo 2^64, in its report and
in what is read back of it. They do so exactly if the breakdown is consistent, so if no notice is
raised, and the flags tell when that is.
-/

namespace CycleLedger.CoreCounters

theorem flagCount_le (es : List CoreSample) : flagCount es ≤ 3 * es.length := by
  have badSpeculation := es.countP_le_length (p := (·.badSpeculation))
  have frontend := es.countP_le_length (p := (·.frontend))
  have backend := es.countP_le_length (p := (·.backend))
  rw [flagCount]
  omega

/-- A report that is read back has the cycles of the core. -/
theorem coreCycles_readBack (l : Ledger) :
    (Report.ofJson l.report.result.1.toJson).map (·.coreCycles) = .ok l.core.cycles := by
  rw [Report.ofJson_toJson, l.metricsFinite_report.settled_eq, ← l.coreCycles_report]
  rfl

/--
With fewer than 2^62 counted cycles, whatever their flags, a breakdown is consistent exactly if its
rows sum to the cycles without any excess of 2^64, and the flags decide it.
-/
theorem consistency_meaning (calls : List Call) (few : (counted false calls).length < 2 ^ 62) :
    let c := ({} : CoreCounters).after calls
    let es := counted false calls
    let b := c.finalize.result
    (c.cycles.toNat = es.length ∧ c.rowSum % 2 ^ 64 = c.cycles.toNat ∧
      ∀ l : Ledger, let r := ({ l with core := c } : Ledger).report.result.1
        r.coreCycles = c.cycles ∧ (Report.ofJson r.toJson).map (·.coreCycles) = .ok c.cycles) ∧
    ((c.rowSum = c.cycles.toNat ↔ b.isConsistent = true) ∧
      (c.finalize.notices = [] ↔ b.isConsistent = true) ∧
      (flagCount es ≤ es.length ∧ es.countP (·.frontendCache) ≤ es.countP (·.frontend) ∧
          es.countP (·.backendCache) ≤ es.countP (·.backend) ∧
          es.countP (·.simd) ≤ es.length - flagCount es ↔
        b.isConsistent = true)) ∧
    ∀ d : CoreCounters, d.finalize.result.retired = d.retired := by
  intro c es b
  have counts : c.Counts es := counts_after calls (by omega)
  have short : es.length < 2 ^ 62 := few
  have fits : flagCount es < 2 ^ 64 := by
    have := flagCount_le es
    omega
  refine ⟨⟨counts.cycles, c.rowSum_mod, ?_⟩, ⟨?_, c.notices_eq_nil_iff, ?_⟩, finalize_retired⟩
  · intro l r
    exact ⟨Ledger.coreCycles_report _, coreCycles_readBack _⟩
  · exact c.rowSum_eq_cycles_iff (by rwa [counts.stallFlags_eq])
  · exact (counts.isConsistent_iff fits).symm

/--
A cache flag without its side wraps one difference although later cycles are well formed, and the
rows exceed the cycles by 2^64; what meets a closed gate has no part in it.
-/
theorem consistency_meaning_cache_flag :
    let calls : List Call := [.gate true, .sample { frontendCache := true }, .sample .retiring,
      .gate false, .sample (.frontendBound false), .gate true, .sample (.retire true)]
    let c := ({} : CoreCounters).after calls
    (counted false calls).length < 2 ^ 62 ∧ c.cycles.toNat = 3 ∧ c.rowSum % 2 ^ 64 = 3 ∧
      c.rowSum ≠ 3 ∧ c.finalize.notices ≠ [] := by
  intro calls c
  have few : (counted false calls).length < 2 ^ 62 := by decide
  obtain ⟨⟨cycles, rows, -⟩, ⟨sum, notices, -⟩, -⟩ := consistency_meaning calls few
  have inconsistent : ¬c.finalize.result.isConsistent = true := by decide
  have three : c.cycles.toNat = 3 := cycles
  refine ⟨few, three, three ▸ rows, ?_, fun quiet => inconsistent (notices.1 quiet)⟩
  exact fun same => inconsistent (sum.1 (same.trans three.symm))

end CycleLedger.CoreCounters
