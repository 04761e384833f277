import CycleLedger.Forms.Access
import CycleLedger.Sample

/-! # Written forms of samples

Every member of a sample is preset: one that is absent is a flag that is not set, a size of zero or
an unknown outcome.
-/

namespace CycleLedger

open Json

def CoreSample.form : Form CoreSample where
  shape := .record "CoreEventSample" <|
    .cons "bad_spec" .preset .flag <|
    .cons "fe" .preset .flag <|
    .cons "fe_ic" .preset .flag <|
    .cons "be" .preset .flag <|
    .cons "be_dc" .preset .flag <|
    .cons "ret_simd" .preset .flag .nil
  ofCarrier := fun (badSpeculation, frontend, frontendCache, backend, backendCache, simd, _) =>
    { badSpeculation := badSpeculation.getD false
      frontend := frontend.getD false
      frontendCache := frontendCache.getD false
      backend := backend.getD false
      backendCache := backendCache.getD false
      simd := simd.getD false }
  toCarrier := fun s =>
    (some s.badSpeculation, some s.frontend, some s.frontendCache, some s.backend,
      some s.backendCache, some s.simd, ())
  ofCarrier_toCarrier _ := rfl

def LookupSample.form : Form LookupSample where
  shape := .record "MemoryEventSample" <|
    .cons "accessed" .preset .flag <|
    .cons "hit" .preset .flag <|
    .cons "miss" .preset .flag <|
    .cons "writeback" .preset .flag <|
    .cons "is_store" .preset .flag <|
    .cons "size" .preset (.word 8 "u8") <|
    .cons "outcome" .preset Outcome.form.shape .nil
  ofCarrier := fun (accessed, hit, miss, writeback, isStore, size, outcome, _) =>
    { accessed := accessed.getD false
      hit := hit.getD false
      miss := miss.getD false
      writeback := writeback.getD false
      isStore := isStore.getD false
      size := (size.map UInt8.ofBitVec).getD 0
      outcome := (outcome.map Outcome.form.ofCarrier).getD .unknown }
  toCarrier := fun s =>
    (some s.accessed, some s.hit, some s.miss, some s.writeback, some s.isStore,
      some s.size.toBitVec, some (Outcome.form.toCarrier s.outcome), ())
  ofCarrier_toCarrier s := by
    obtain ⟨_, _, _, _, _, _, outcome⟩ := s
    cases outcome <;> rfl

end CycleLedger
