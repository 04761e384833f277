import Mathlib.Algebra.Group.Nat.Defs
import Mathlib.Tactic.SplitIfs
import CycleLedger.Proofs.Json.Lexing

/-! # Parts of numerals

A numeral is written in parts, each of them digits: a whole part, a fraction and a power of ten, of
which the last two may be absent. Scanning the bytes of the parts gives the numeral that they name.
A beginning of the bytes that is a numeral as well is one of beginnings of the parts.
-/

namespace CycleLedger.Json

namespace Ascii

/-- The number that digits behind the digits of another number make of it. -/
def number (n : Nat) (ds : List UInt8) : Nat := ds.foldl (fun n d => 10 * n + digit d) n

theorem number_append (n : Nat) (ds es : List UInt8) :
    number n (ds ++ es) = number (number n ds) es := List.foldl_append

theorem digit_lt {b : UInt8} (h : isDigit b = true) : digit b < 10 := by
  have h' : zero ≤ b ∧ b ≤ 0x39 := by simpa [isDigit] using h
  have := UInt8.le_iff_toNat_le.mp h'.2
  simp only [digit]
  have : (0x39 : UInt8).toNat = 57 := rfl
  omega

theorem number_lt {ds : List UInt8} (h : ∀ d ∈ ds, isDigit d = true) (n : Nat) :
    number n ds < (n + 1) * 10 ^ ds.length := by
  induction ds generalizing n with
  | nil => simp [number]
  | cons d ds ih =>
    have hd := digit_lt (h d (by simp))
    have next := ih (fun e he => h e (by simp [he])) (10 * n + digit d)
    refine Nat.lt_of_lt_of_le next ?_
    rw [List.length_cons, Nat.pow_succ, Nat.mul_comm (10 ^ ds.length), ← Nat.mul_assoc]
    exact Nat.mul_le_mul_right _ (by omega)

theorem le_number (n : Nat) (ds : List UInt8) : n ≤ number n ds := by
  induction ds generalizing n with
  | nil => exact Nat.le_refl n
  | cons d ds ih => exact Nat.le_trans (by omega) (ih (10 * n + digit d))

/-- Fewer digits make no larger number. -/
theorem number_prefix {ds es : List UInt8} (h : ds <+: es) (n : Nat) :
    number n ds ≤ number n es := by
  obtain ⟨fs, rfl⟩ := h
  rw [number_append]
  exact le_number _ fs

theorem digit_ne {b c : UInt8} (h : isDigit b = true) (hc : isDigit c = false) : b ≠ c := by
  rintro rfl
  simp [hc] at h

end Ascii

open Ascii

namespace Numeral

/-- The power of ten behind an exponent mark. -/
structure Power where
  down : Bool
  digits : List UInt8

/-- A fraction without digits is not written. -/
structure Parts where
  negative : Bool
  whole : List UInt8
  fraction : List UInt8
  power? : Option Power

namespace Power

def bytes (p : Power) : List UInt8 :=
  lowerE :: (if p.down then minus else plus) :: p.digits

def exponent (p : Power) : Int := if p.down then -(number 0 p.digits : Int) else number 0 p.digits

structure Proper (p : Power) : Prop where
  digits : ∀ d ∈ p.digits, isDigit d = true
  some : p.digits ≠ []

end Power

namespace Parts

def signBytes (p : Parts) : List UInt8 := if p.negative then [minus] else []

def fractionBytes (p : Parts) : List UInt8 := if p.fraction = [] then [] else point :: p.fraction

def powerBytes (p : Parts) : List UInt8 := p.power?.elim [] Power.bytes

def bytes (p : Parts) : List UInt8 := p.signBytes ++ (p.whole ++ (p.fractionBytes ++ p.powerBytes))

/-- The number that the parts name. -/
def numeral (p : Parts) : Numeral where
  negative := p.negative
  digits := number (number 0 p.whole) p.fraction
  exponent := p.power?.elim 0 Power.exponent - p.fraction.length
  integral := p.fraction = [] ∧ p.power?.isNone = true

/-- All parts are digits, and only a single zero begins with a zero. -/
structure Proper (p : Parts) : Prop where
  whole : ∀ d ∈ p.whole, isDigit d = true
  leading : p.whole = [zero] ∨ ∃ d ds, p.whole = d :: ds ∧ d ≠ zero
  fraction : ∀ d ∈ p.fraction, isDigit d = true
  power : ∀ q ∈ p.power?, q.Proper

end Parts

/-! ## Scans of digits -/

namespace Scan

theorem run_integer (negative : Bool) (n : Nat) {ds : List UInt8}
    (h : ∀ d ∈ ds, isDigit d = true) :
    ds.foldlM step? (integer negative n) = some (integer negative (number n ds)) := by
  induction ds generalizing n with
  | nil => rfl
  | cons d ds ih =>
    have hd := h d (by simp)
    simpa [List.foldlM_cons, step?, hd, number] using ih _ fun e he => h e (by simp [he])

theorem run_fraction (negative : Bool) (n places : Nat) {ds : List UInt8}
    (h : ∀ d ∈ ds, isDigit d = true) :
    ds.foldlM step? (fraction negative n places) =
      some (fraction negative (number n ds) (places + ds.length)) := by
  induction ds generalizing n places with
  | nil => rfl
  | cons d ds ih =>
    have hd := h d (by simp)
    have next := ih (10 * n + digit d) (places + 1) fun e he => h e (by simp [he])
    rw [List.length_cons, Nat.add_comm ds.length, ← Nat.add_assoc]
    simpa [List.foldlM_cons, step?, hd, number] using next

theorem run_power (negative : Bool) (n places : Nat) (down : Bool) (p : Nat) {ds : List UInt8}
    (h : ∀ d ∈ ds, isDigit d = true) :
    ds.foldlM step? (power negative n places down p) =
      some (power negative n places down (number p ds)) := by
  induction ds generalizing p with
  | nil => rfl
  | cons d ds ih =>
    have hd := h d (by simp)
    simpa [List.foldlM_cons, step?, hd, number] using ih _ fun e he => h e (by simp [he])

end Scan

/-! ## Scans of parts -/

/-- The scan of the first of some bytes and of those behind it. -/
def run? : List UInt8 → Option Scan
  | [] => none
  | b :: bytes => (Scan.start? b).bind (bytes.foldlM Scan.step?)

theorem ofBytes?_eq (bytes : List UInt8) : ofBytes? bytes = (run? bytes).bind Scan.finish? := by
  cases bytes <;> rfl

theorem run?_append {bytes : List UInt8} {s : Scan} (h : run? bytes = some s) (more : List UInt8) :
    run? (bytes ++ more) = more.foldlM Scan.step? s := by
  cases bytes with
  | nil => cases h
  | cons b bytes =>
    obtain ⟨s₀, hs₀, hs⟩ := Option.bind_eq_some_iff.mp h
    rw [List.cons_append, run?, hs₀, Option.bind_some, List.foldlM_append, hs]
    rfl

namespace Parts

variable {p : Parts}

/-- The scan behind the whole part. -/
def wholeScan (p : Parts) : Scan :=
  if p.whole = [zero] then .zero p.negative else .integer p.negative (number 0 p.whole)

/-- The scan behind the fraction. -/
def fractionScan (p : Parts) : Scan :=
  if p.fraction = [] then p.wholeScan
  else .fraction p.negative (number (number 0 p.whole) p.fraction) p.fraction.length

theorem run?_whole (h : p.Proper) : run? (p.signBytes ++ p.whole) = some p.wholeScan := by
  rcases h.leading with single | ⟨d, ds, hds, hd⟩
  · rw [wholeScan, if_pos single, signBytes, single]
    cases p.negative <;> rfl
  · have digits : ∀ e ∈ ds, isDigit e = true := fun e he => h.whole e (by simp [hds, he])
    have first : isDigit d = true := h.whole d (by simp [hds])
    have notMinus : d ≠ minus := digit_ne first rfl
    have several : p.whole ≠ [zero] := by
      rw [hds]
      exact fun e => hd (List.cons.inj e).1
    have rest := Scan.run_integer p.negative (digit d) digits
    have value : number 0 p.whole = number (digit d) ds := by simp [hds, number]
    rw [wholeScan, if_neg several, value, ← rest, hds]
    cases hn : p.negative <;>
      simp [signBytes, hn, run?, Scan.start?, Scan.step?, hd, notMinus, first]

theorem wholeScan_point (p : Parts) :
    p.wholeScan.step? point = some (.point p.negative (number 0 p.whole)) := by
  rw [wholeScan]
  split_ifs with single
  · rw [single]
    rfl
  · rfl

theorem wholeScan_mark (p : Parts) :
    p.wholeScan.step? lowerE = some (.mark p.negative (number 0 p.whole) 0) := by
  rw [wholeScan]
  split_ifs with single
  · rw [single]
    rfl
  · rfl

theorem wholeScan_finish (p : Parts) :
    p.wholeScan.finish? = some ⟨p.negative, number 0 p.whole, 0, true⟩ := by
  rw [wholeScan]
  split_ifs with single
  · rw [single]
    rfl
  · rfl

theorem run?_fraction (h : p.Proper) :
    run? (p.signBytes ++ (p.whole ++ p.fractionBytes)) = some p.fractionScan := by
  rw [← List.append_assoc, run?_append (run?_whole h), fractionBytes, fractionScan]
  split_ifs with none
  · rfl
  · obtain ⟨d, ds, hds⟩ := List.exists_cons_of_ne_nil none
    have first : isDigit d = true := h.fraction d (by simp [hds])
    have digits : ∀ e ∈ ds, isDigit e = true := fun e he => h.fraction e (by simp [hds, he])
    have rest := Scan.run_fraction p.negative (10 * number 0 p.whole + digit d) 1 digits
    rw [List.foldlM_cons, wholeScan_point, Option.bind_eq_bind, Option.bind_some, hds,
      List.foldlM_cons, Scan.step?, if_pos first, Option.bind_eq_bind, Option.bind_some, rest,
      List.length_cons, Nat.add_comm 1]
    rfl

theorem fractionScan_mark (p : Parts) : p.fractionScan.step? lowerE =
    some (.mark p.negative (number (number 0 p.whole) p.fraction) p.fraction.length) := by
  rw [fractionScan]
  split_ifs with none
  · rw [wholeScan_mark, none]
    rfl
  · rfl

theorem fractionScan_finish (p : Parts) :
    p.fractionScan.finish? = some (numeral { p with power? := none }) := by
  rw [fractionScan, numeral]
  split_ifs with none
  · simp [wholeScan_finish, none, number]
  · simp [Scan.finish?, none]

/-- Scanning the parts gives the number that they name. -/
theorem ofBytes?_bytes (h : p.Proper) : ofBytes? p.bytes = some p.numeral := by
  have split : p.bytes = p.signBytes ++ (p.whole ++ p.fractionBytes) ++ p.powerBytes := by
    simp [bytes]
  rw [ofBytes?_eq, split, run?_append (run?_fraction h), powerBytes]
  cases hw : p.power? with
  | none =>
    have same : ({ p with power? := none } : Parts) = p := by rw [← hw]
    rw [Option.elim_none, List.foldlM_nil, Option.pure_def, Option.bind_some, fractionScan_finish,
      same]
  | some w =>
    have proper := h.power w hw
    obtain ⟨d, ds, hds⟩ := List.exists_cons_of_ne_nil proper.some
    have first : isDigit d = true := proper.digits d (by simp [hds])
    have digits : ∀ e ∈ ds, isDigit e = true := fun e he => proper.digits e (by simp [hds, he])
    have value : number 0 w.digits = number (digit d) ds := by simp [hds, number]
    have signed (n places : Nat) : (Scan.mark p.negative n places).step?
        (if w.down then minus else plus) = some (.markSign p.negative n places w.down) := by
      cases w.down <;> rfl
    rw [Option.elim_some, Power.bytes, List.foldlM_cons, fractionScan_mark, Option.bind_eq_bind,
      Option.bind_some, List.foldlM_cons, signed, Option.bind_eq_bind, Option.bind_some, hds,
      List.foldlM_cons, Scan.step?, if_pos first, Option.bind_eq_bind, Option.bind_some,
      Scan.run_power _ _ _ _ _ digits, Option.bind_some, Scan.finish?, ← value, numeral, hw]
    simp [Power.exponent]

/-! ## Beginnings of parts -/

/-- The parts of a beginning of the bytes of other parts. -/
structure Begins (p' p : Parts) : Prop where
  negative : p'.negative = p.negative
  whole : p'.whole <+: p.whole
  fraction : p'.fraction <+: p.fraction
  power : p'.power? = none ∨ ∃ w ds, p.power? = some w ∧ ds <+: w.digits ∧
    p' = { p with power? := some { w with digits := ds } }

theorem ofBytes?_point (h : p.Proper) :
    ofBytes? (p.signBytes ++ (p.whole ++ [point])) = none := by
  rw [ofBytes?_eq, ← List.append_assoc, run?_append (run?_whole h), List.foldlM_cons,
    wholeScan_point]
  rfl

theorem ofBytes?_mark (h : p.Proper) (down : Bool) :
    ofBytes? (p.signBytes ++ (p.whole ++ (p.fractionBytes ++ [lowerE]))) = none ∧
      ofBytes? (p.signBytes ++ (p.whole ++
        (p.fractionBytes ++ [lowerE, if down then minus else plus]))) = none := by
  have split (more : List UInt8) : p.signBytes ++ (p.whole ++ (p.fractionBytes ++ more)) =
      p.signBytes ++ (p.whole ++ p.fractionBytes) ++ more := by simp
  constructor
  · rw [ofBytes?_eq, split, run?_append (run?_fraction h), List.foldlM_cons, fractionScan_mark]
    rfl
  · rw [ofBytes?_eq, split, run?_append (run?_fraction h), List.foldlM_cons, fractionScan_mark]
    cases down <;> rfl

/-- The parts up to the fraction, with the whole part and fraction cut. -/
theorem Proper.cut (h : p.Proper) {whole fraction : List UInt8} (hw : whole <+: p.whole)
    (some : whole ≠ []) (hf : fraction <+: p.fraction) :
    (⟨p.negative, whole, fraction, none⟩ : Parts).Proper where
  whole d hd := h.whole d (hw.subset hd)
  leading := by
    obtain ⟨d, ds, rfl⟩ := List.exists_cons_of_ne_nil some
    rcases h.leading with single | ⟨e, es, hes, he⟩
    · rw [single] at hw
      obtain ⟨rfl, hds⟩ := List.cons_prefix_cons.mp hw
      exact .inl (by rw [List.prefix_nil.mp hds])
    · rw [hes] at hw
      obtain ⟨rfl, -⟩ := List.cons_prefix_cons.mp hw
      exact .inr ⟨d, ds, rfl, he⟩
  fraction d hd := h.fraction d (hf.subset hd)
  power := nofun

theorem Proper.whole_ne_nil (h : p.Proper) : p.whole ≠ [] := by
  rcases h.leading with single | ⟨d, ds, hds, -⟩ <;> simp_all

/-- The sign alone or less of it is no numeral. -/
theorem ofBytes?_sign {q : List UInt8} (hq : q <+: p.signBytes) : ofBytes? q = none := by
  rw [signBytes] at hq
  split_ifs at hq
  · rcases List.prefix_cons_iff.mp hq with rfl | ⟨t, rfl, ht⟩
    · rfl
    · rw [List.prefix_nil.mp ht]
      rfl
  · rw [List.prefix_nil.mp hq]
    rfl

/-- The bytes of a numeral that end before the point, behind it or inside the fraction. -/
theorem begins_fraction (h : p.Proper) {s : List UInt8} {k : Numeral} (hs : s <+: p.fractionBytes)
    (hk : ofBytes? (p.signBytes ++ (p.whole ++ s)) = some k) :
    ∃ p' : Parts, p'.Begins p ∧ p'.Proper ∧ p'.bytes = p.signBytes ++ (p.whole ++ s) := by
  have whole : ∃ p' : Parts, p'.Begins p ∧ p'.Proper ∧
      p'.bytes = p.signBytes ++ (p.whole ++ []) :=
    ⟨⟨p.negative, p.whole, [], none⟩, ⟨rfl, List.prefix_rfl, List.nil_prefix, .inl rfl⟩,
      h.cut List.prefix_rfl h.whole_ne_nil List.nil_prefix, rfl⟩
  rw [fractionBytes] at hs
  split_ifs at hs
  · obtain rfl := List.prefix_nil.mp hs
    exact whole
  rcases List.prefix_cons_iff.mp hs with rfl | ⟨ds, rfl, hds⟩
  · exact whole
  · have some : ds ≠ [] := by
      rintro rfl
      rw [ofBytes?_point h] at hk
      cases hk
    exact ⟨⟨p.negative, p.whole, ds, none⟩, ⟨rfl, List.prefix_rfl, hds, .inl rfl⟩,
      h.cut List.prefix_rfl h.whole_ne_nil hds,
      by simp [bytes, signBytes, fractionBytes, powerBytes, some]⟩

/-- The bytes of a numeral that end before the power or inside it. -/
theorem begins_power (h : p.Proper) {t : List UInt8} {k : Numeral} (ht : t <+: p.powerBytes)
    (hk : ofBytes? (p.signBytes ++ (p.whole ++ (p.fractionBytes ++ t))) = some k) :
    ∃ p' : Parts, p'.Begins p ∧ p'.Proper ∧
      p'.bytes = p.signBytes ++ (p.whole ++ (p.fractionBytes ++ t)) := by
  have noPower : ∃ p' : Parts, p'.Begins p ∧ p'.Proper ∧
      p'.bytes = p.signBytes ++ (p.whole ++ (p.fractionBytes ++ [])) :=
    ⟨⟨p.negative, p.whole, p.fraction, none⟩, ⟨rfl, List.prefix_rfl, List.prefix_rfl, .inl rfl⟩,
      h.cut List.prefix_rfl h.whole_ne_nil List.prefix_rfl, rfl⟩
  cases hw : p.power? with
  | none =>
    rw [powerBytes, hw] at ht
    obtain rfl := List.prefix_nil.mp ht
    exact noPower
  | some w =>
    rw [powerBytes, hw, Option.elim_some, Power.bytes] at ht
    rcases List.prefix_cons_iff.mp ht with rfl | ⟨t', rfl, ht'⟩
    · exact noPower
    rcases List.prefix_cons_iff.mp ht' with rfl | ⟨ds, rfl, hds⟩
    · rw [(ofBytes?_mark h w.down).1] at hk
      cases hk
    · have some : ds ≠ [] := by
        rintro rfl
        rw [(ofBytes?_mark h w.down).2] at hk
        cases hk
      have digits := (h.power w hw).digits
      have proper : Power.Proper { w with digits := ds } :=
        ⟨fun d hd => digits d (hds.subset hd), some⟩
      refine ⟨{ p with power? := .some { w with digits := ds } },
        ⟨rfl, List.prefix_rfl, List.prefix_rfl, .inr ⟨w, ds, hw, hds, rfl⟩⟩,
        ⟨h.whole, h.leading, h.fraction, ?_⟩, rfl⟩
      intro w' hw'
      obtain rfl := Option.mem_some_iff.mp hw'
      exact proper

/-- A beginning of the bytes that is a numeral consists of beginnings of the parts. -/
theorem begins_of_prefix (h : p.Proper) {q : List UInt8} {k : Numeral} (hq : q <+: p.bytes)
    (hk : ofBytes? q = some k) :
    ∃ p' : Parts, p'.Begins p ∧ p'.Proper ∧ p'.bytes = q ∧ p'.numeral = k := by
  suffices found : ∃ p' : Parts, p'.Begins p ∧ p'.Proper ∧ p'.bytes = q by
    obtain ⟨p', begins, proper, rfl⟩ := found
    exact ⟨p', begins, proper, rfl, Option.some.inj ((ofBytes?_bytes proper).symm.trans hk)⟩
  rcases prefix_append_cases hq with ⟨hsign, -⟩ | ⟨r, rfl, hr⟩
  · rw [ofBytes?_sign hsign] at hk
    cases hk
  rcases prefix_append_cases hr with ⟨hwhole, -⟩ | ⟨s, rfl, hs⟩
  · have some : r ≠ [] := by
      rintro rfl
      rw [List.append_nil, ofBytes?_sign List.prefix_rfl] at hk
      cases hk
    exact ⟨⟨p.negative, r, [], none⟩, ⟨rfl, hwhole, List.nil_prefix, .inl rfl⟩,
      h.cut hwhole some List.nil_prefix, by simp [bytes, signBytes, fractionBytes, powerBytes]⟩
  rcases prefix_append_cases hs with ⟨hfraction, -⟩ | ⟨t, rfl, ht⟩
  · exact begins_fraction h hfraction hk
  · exact begins_power h ht hk

end Parts

end Numeral

end CycleLedger.Json
