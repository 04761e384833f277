import CycleLedger.Json.Value
import CycleLedger.Proofs.Binary64.ReadBack
import CycleLedger.Proofs.Json.Numerals
import CycleLedger.Proofs.Text.Bytes

/-! # Written numbers

Integers and finite doubles are written as numerals in proper parts, and mean themselves when they
are read. A beginning of a written number that is a numeral as well is a smaller integer, or a
number that some double is nearest to.
-/

namespace CycleLedger.Json

open Ascii Text

/-! ## Digits of texts -/

theorem digit_bounds {c : Char} (h : c.isDigit = true) : 48 ≤ c.toNat ∧ c.toNat ≤ 57 := by
  simpa [Char.isDigit, UInt32.le_iff_toNat_le] using h

theorem ascii_of_isDigit {c : Char} (h : c.isDigit = true) : c.toNat < 128 := by
  have bounds := digit_bounds h
  omega

theorem isDigit_byte {c : Char} (h : c.isDigit = true) : isDigit (byte c) = true := by
  simp only [isDigit, Bool.and_eq_true, decide_eq_true_eq, UInt8.le_iff_toNat_le,
    byte_toNat (ascii_of_isDigit h)]
  exact digit_bounds h

theorem digit_byte {c : Char} (h : c.isDigit = true) : digit (byte c) = c.toNat - 48 := by
  rw [digit, byte_toNat (ascii_of_isDigit h)]

theorem number_bytes {cs : List Char} (h : ∀ c ∈ cs, c.isDigit = true) (n : Nat) :
    number n (cs.map byte) = Nat.ofDigitChars 10 cs n := by
  induction cs generalizing n with
  | nil => rfl
  | cons c cs ih =>
    rw [Nat.ofDigitChars_cons, ← ih fun d hd => h d (by simp [hd])]
    simp [number, digit_byte (h c (by simp))]

theorem isDigit_bytes {cs : List Char} (h : ∀ c ∈ cs, c.isDigit = true) :
    ∀ d ∈ cs.map byte, isDigit d = true := by
  intro d hd
  obtain ⟨c, hc, rfl⟩ := List.mem_map.mp hd
  exact isDigit_byte (h c hc)

theorem toDigits_isDigit (n : Nat) : ∀ c ∈ Nat.toDigits 10 n, c.isDigit = true := fun _ hc =>
  Nat.isDigit_of_mem_toDigits (by decide) (by decide) hc

/-- A leading digit that is not zero is not the byte of a zero. -/
theorem byte_ne_zero {c : Char} (h : c.isDigit = true) (hc : c ≠ '0') : byte c ≠ zero :=
  fun same => hc (byte_inj (ascii_of_isDigit h) (by decide) (d := '0') same)

namespace Numeral

/-! ## Integers -/

namespace Parts

def ofInt (n : Int) : Parts := ⟨n < 0, (Nat.toDigits 10 n.natAbs).map byte, [], none⟩

theorem ofInt_proper (n : Int) : (ofInt n).Proper where
  whole := isDigit_bytes (toDigits_isDigit _)
  leading := by
    by_cases hn : n.natAbs = 0
    · exact .inl (by rw [ofInt, hn]; rfl)
    · obtain ⟨c, cs, hcs, hc⟩ := Binary64.toDigits_leading (Nat.pos_of_ne_zero hn)
      have digit := toDigits_isDigit n.natAbs c (by simp [hcs])
      exact .inr ⟨byte c, cs.map byte, by simp [ofInt, hcs], byte_ne_zero digit hc⟩
  fraction := by simp [ofInt]
  power := nofun

theorem ofInt_numeral (n : Int) : (ofInt n).numeral = Numeral.ofInt n := by
  have value : number 0 ((Nat.toDigits 10 n.natAbs).map byte) = n.natAbs := by
    rw [number_bytes (toDigits_isDigit _), Nat.ofDigitChars_ten_toDigits]
  simp only [numeral, ofInt, value, Numeral.ofInt]
  simp [number]

theorem toString_natAbs (n : Int) : toString n =
    String.ofList ((if n < 0 then ['-'] else []) ++ Nat.toDigits 10 n.natAbs) := by
  rw [Int.toString_eq_repr]
  cases n with
  | ofNat n =>
    have positive : ¬Int.ofNat n < 0 := by simp
    rw [if_neg positive, Int.repr_eq_if]
    simp [Nat.repr_eq_ofList_toDigits]
  | negSucc n =>
    rw [if_pos (Int.negSucc_lt_zero n), Int.repr_eq_if]
    simp [Nat.repr_eq_ofList_toDigits]

theorem ofInt_bytes (n : Int) : (ofInt n).bytes = Text.bytes (toString n) := by
  have ascii : ∀ c ∈ (if n < 0 then ['-'] else []) ++ Nat.toDigits 10 n.natAbs, c.toNat < 128 := by
    intro c hc
    rcases List.mem_append.mp hc with hc | hc
    · split_ifs at hc <;> simp_all
    · exact ascii_of_isDigit (toDigits_isDigit _ c hc)
  rw [toString_natAbs, bytes_ofList, flatMap_ascii ascii, List.map_append]
  by_cases hn : n < 0
  · simp [Parts.bytes, ofInt, signBytes, fractionBytes, powerBytes, hn]
    rfl
  · simp [Parts.bytes, ofInt, signBytes, fractionBytes, powerBytes, hn]

/-! ## Doubles -/

open Binary64

/-- The parts of digits with the point in its place. -/
def ofPositional (negative : Bool) (d : Digits) : Parts :=
  if d.point ≤ 0 then ⟨negative, [zero], (zeros (-d.point) ++ d.digits).map byte, none⟩
  else if d.point < d.digits.length then
    ⟨negative, (d.digits.take d.point.toNat).map byte, (d.digits.drop d.point.toNat).map byte, none⟩
  else ⟨negative, (d.digits ++ zeros (d.point - d.digits.length)).map byte, [zero], none⟩

/-- The parts of digits with the point behind the first one. -/
def ofScientific (negative : Bool) (d : Digits) : Parts where
  negative := negative
  whole := (d.digits.take 1).map byte
  fraction := (d.digits.drop 1).map byte
  power? := some ⟨d.point - 1 < 0, (Nat.toDigits 10 (d.point - 1).natAbs).map byte⟩

/-- The digits of a double that is not zero. -/
def realDigits (x : Binary64) : Digits := shortest realLayout.tie x.magnitude

theorem realDigits_shows {x : Binary64} (h : x.magnitude ≠ 0) : (realDigits x).Shows x.magnitude :=
  shortest_shows _ h

def ofReal (x : Binary64) : Parts :=
  if x.magnitude = 0 then ⟨x.isNegative, [zero], [zero], none⟩
  else if realLayout.plain ((realDigits x).point - 1) then
    ofPositional x.isNegative (realDigits x)
  else ofScientific x.isNegative (realDigits x)

theorem mem_zeros {n : Int} {c : Char} (h : c ∈ zeros n) : c.isDigit = true := by
  rw [zeros] at h
  rw [List.eq_of_mem_replicate h]
  rfl

variable {d : Digits}

theorem ofPositional_proper (negative : Bool) (h : d.Proper) :
    (ofPositional negative d).Proper := by
  obtain ⟨c, cs, hcs, hc⟩ := h.leading
  have first := h.digits c (by simp [hcs])
  rw [ofPositional]
  split_ifs with small middle
  · refine ⟨by simp; rfl, .inl rfl, isDigit_bytes fun e he => ?_, nofun⟩
    rcases List.mem_append.mp he with he | he
    · exact mem_zeros he
    · exact h.digits e he
  · refine ⟨isDigit_bytes fun e he => h.digits e (List.mem_of_mem_take he), .inr ?_,
      isDigit_bytes fun e he => h.digits e (List.mem_of_mem_drop he), nofun⟩
    obtain ⟨n, hn⟩ : ∃ n, d.point.toNat = n + 1 := ⟨d.point.toNat - 1, by omega⟩
    exact ⟨byte c, (cs.take n).map byte, by simp [hcs, hn], byte_ne_zero first hc⟩
  · refine ⟨isDigit_bytes fun e he => ?_, .inr ?_, by simp; rfl, nofun⟩
    · rcases List.mem_append.mp he with he | he
      · exact h.digits e he
      · exact mem_zeros he
    · exact ⟨byte c, (cs ++ zeros (d.point - d.digits.length)).map byte, by simp [hcs],
        byte_ne_zero first hc⟩

theorem ofScientific_proper (negative : Bool) (h : d.Proper) :
    (ofScientific negative d).Proper := by
  obtain ⟨c, cs, hcs, hc⟩ := h.leading
  have first := h.digits c (by simp [hcs])
  refine ⟨isDigit_bytes fun e he => h.digits e (List.mem_of_mem_take he),
    .inr ⟨byte c, [], by simp [ofScientific, hcs], byte_ne_zero first hc⟩,
    isDigit_bytes fun e he => h.digits e (List.mem_of_mem_drop he), ?_⟩
  intro w hw
  obtain rfl := Option.mem_some_iff.mp hw
  exact ⟨isDigit_bytes (toDigits_isDigit _), by simp⟩

theorem ofReal_proper (x : Binary64) : (ofReal x).Proper := by
  rw [ofReal]
  split_ifs with hzero hplain
  · exact ⟨by simp; rfl, .inl rfl, by simp; rfl, nofun⟩
  · exact ofPositional_proper _ (realDigits_shows hzero).toProper
  · exact ofScientific_proper _ (realDigits_shows hzero).toProper

/-! The numerals of doubles -/

/-- The numeral of parts that are given by characters. -/
theorem numeral_chars (negative : Bool) (ws fs : List Char) (power? : Option Power)
    (h : ∀ c ∈ ws ++ fs, c.isDigit = true) :
    (⟨negative, ws.map byte, fs.map byte, power?⟩ : Parts).numeral =
      ⟨negative, Nat.ofDigitChars 10 (ws ++ fs) 0, power?.elim 0 Power.exponent - fs.length,
        fs = [] ∧ power?.isNone = true⟩ := by
  have value : number (number 0 (ws.map byte)) (fs.map byte) =
      Nat.ofDigitChars 10 (ws ++ fs) 0 := by
    rw [← number_append, ← List.map_append, number_bytes h]
  simp only [numeral, value, List.length_map, List.map_eq_nil_iff]

theorem ofDigitChars_zeros (n : Int) (m : Nat) :
    Nat.ofDigitChars 10 (zeros n) m = m * 10 ^ n.toNat := by
  rw [zeros, Nat.ofDigitChars_replicate_zero, Nat.mul_comm]

/-- All digits stand behind the point. -/
theorem numeral_behind (negative : Bool) (h : d.Proper) (small : d.point ≤ 0) :
    (⟨negative, [zero], (zeros (-d.point) ++ d.digits).map byte, none⟩ : Parts).numeral =
      ⟨negative, d.significand, d.exponent, false⟩ := by
  have zeroDigit : ['0'].map byte = [zero] := rfl
  have digits : ∀ e ∈ ['0'] ++ (zeros (-d.point) ++ d.digits), e.isDigit = true := by
    intro e he
    simp only [List.mem_append, List.mem_singleton] at he
    rcases he with rfl | he | he
    · rfl
    · exact mem_zeros he
    · exact h.digits e he
  have value : Nat.ofDigitChars 10 (['0'] ++ (zeros (-d.point) ++ d.digits)) 0 =
      d.significand := by
    rw [Nat.ofDigitChars_append, Nat.ofDigitChars_append, ofDigitChars_zeros, Digits.significand_eq]
    simp [Nat.ofDigitChars_cons]
  have places : ((zeros (-d.point) ++ d.digits).length : Int) = -d.point + d.digits.length := by
    simp only [zeros, List.length_append, List.length_replicate]
    omega
  have some : zeros (-d.point) ++ d.digits ≠ [] := by
    obtain ⟨c, cs, hcs, -⟩ := h.leading
    simp [hcs]
  rw [← zeroDigit, numeral_chars _ _ _ _ digits, value, places]
  simp only [some, Option.elim_none, false_and, decide_false, Digits.exponent]
  congr 1
  omega

/-- The point stands among the digits. -/
theorem numeral_among (negative : Bool) (h : d.Proper) (some : 0 < d.point)
    (middle : d.point < d.digits.length) :
    (⟨negative, (d.digits.take d.point.toNat).map byte, (d.digits.drop d.point.toNat).map byte,
      none⟩ : Parts).numeral = ⟨negative, d.significand, d.exponent, false⟩ := by
  have digits : ∀ e ∈ d.digits.take d.point.toNat ++ d.digits.drop d.point.toNat,
      e.isDigit = true := by
    rw [List.take_append_drop]
    exact h.digits
  have places : ((d.digits.drop d.point.toNat).length : Int) = d.digits.length - d.point := by
    rw [List.length_drop]
    omega
  have more : d.digits.drop d.point.toNat ≠ [] := by
    rw [Ne, List.drop_eq_nil_iff]
    omega
  rw [numeral_chars _ _ _ _ digits, List.take_append_drop, ← Digits.significand_eq, places]
  simp only [more, Option.elim_none, false_and, decide_false, Digits.exponent]
  congr 1
  omega

/-- No digit but a zero stands behind the point. -/
theorem numeral_before (negative : Bool) (h : d.Proper) :
    (⟨negative, (d.digits ++ zeros (d.point - d.digits.length)).map byte, [zero],
      none⟩ : Parts).numeral =
      ⟨negative, d.significand * tenTo (d.exponent.toNat + 1), -1, false⟩ := by
  have zeroDigit : ['0'].map byte = [zero] := rfl
  have digits : ∀ e ∈ (d.digits ++ zeros (d.point - d.digits.length)) ++ ['0'],
      e.isDigit = true := by
    intro e he
    simp only [List.mem_append, List.mem_singleton] at he
    rcases he with (he | he) | rfl
    · exact h.digits e he
    · exact mem_zeros he
    · rfl
  have value : Nat.ofDigitChars 10 ((d.digits ++ zeros (d.point - d.digits.length)) ++ ['0']) 0 =
      d.significand * 10 ^ (d.exponent.toNat + 1) := by
    rw [Nat.ofDigitChars_append, Nat.ofDigitChars_append, ofDigitChars_zeros,
      ← Digits.significand_eq, Digits.exponent, Nat.pow_succ, ← Nat.mul_assoc, Nat.mul_comm _ 10]
    simp [Nat.ofDigitChars_cons]
  rw [← zeroDigit, numeral_chars _ _ _ _ digits, value]
  rfl

theorem ofPositional_numeral (negative : Bool) (h : d.Proper) :
    (ofPositional negative d).numeral =
      if 0 ≤ d.exponent then ⟨negative, d.significand * tenTo (d.exponent.toNat + 1), -1, false⟩
      else ⟨negative, d.significand, d.exponent, false⟩ := by
  have exponent : d.exponent = d.point - d.digits.length := rfl
  have length : 0 < d.digits.length := by
    obtain ⟨c, cs, hcs, -⟩ := h.leading
    simp [hcs]
  rw [ofPositional]
  by_cases small : d.point ≤ 0
  · rw [if_pos small, if_neg (by omega), numeral_behind negative h small]
  rw [if_neg small]
  by_cases middle : d.point < d.digits.length
  · rw [if_pos middle, if_neg (by omega), numeral_among negative h (by omega) middle]
  · rw [if_neg middle, if_pos (by omega), numeral_before negative h]

theorem ofScientific_numeral (negative : Bool) (h : d.Proper) :
    (ofScientific negative d).numeral = ⟨negative, d.significand, d.exponent, false⟩ := by
  obtain ⟨c, cs, hcs, -⟩ := h.leading
  have digits : ∀ e ∈ d.digits.take 1 ++ d.digits.drop 1, e.isDigit = true := by
    rw [List.take_append_drop]
    exact h.digits
  have power : Power.exponent ⟨d.point - 1 < 0, (Nat.toDigits 10 (d.point - 1).natAbs).map byte⟩ =
      d.point - 1 := by
    rw [Power.exponent, number_bytes (toDigits_isDigit _), Nat.ofDigitChars_ten_toDigits]
    simp only [decide_eq_true_eq]
    split_ifs <;> omega
  have exponent : d.exponent = d.point - d.digits.length := rfl
  have places : ((d.digits.drop 1).length : Int) = d.digits.length - 1 := by
    simp [hcs]
  rw [ofScientific, numeral_chars _ _ _ _ digits, List.take_append_drop, Option.elim_some, power,
    places]
  simp only [Option.isNone_some, Bool.false_eq_true, and_false, decide_false, exponent]
  congr 1
  omega

theorem ofReal_numeral (x : Binary64) : (ofReal x).numeral = Value.realNumeral x := by
  by_cases hzero : x.magnitude = 0
  · rw [ofReal, Value.realNumeral, if_pos hzero, if_pos hzero]
    rfl
  · have shows := (realDigits_shows hzero).toProper
    have written : Value.realNumeral x =
        if realLayout.plain ((realDigits x).point - 1) && 0 ≤ (realDigits x).exponent then
          ⟨x.isNegative, (realDigits x).significand * tenTo ((realDigits x).exponent.toNat + 1), -1,
            false⟩
        else ⟨x.isNegative, (realDigits x).significand, (realDigits x).exponent, false⟩ := by
      rw [Value.realNumeral, if_neg hzero]
      rfl
    rw [ofReal, if_neg hzero, written]
    by_cases hplain : realLayout.plain ((realDigits x).point - 1) = true
    · rw [if_pos hplain, ofPositional_numeral _ shows, hplain]
      simp only [Bool.true_and, decide_eq_true_eq]
    · rw [if_neg hplain, ofScientific_numeral _ shows, Bool.eq_false_iff.mpr hplain]
      rfl

/-! The bytes of doubles -/

theorem bytes_signed (x : Binary64) {cs : List Char} (h : ∀ c ∈ cs, c.toNat < 128) :
    Text.bytes (x.signed cs) = (if x.isNegative then [minus] else []) ++ cs.map byte := by
  rw [Binary64.signed, bytes_ofList]
  cases x.isNegative
  · exact flatMap_ascii h
  · refine flatMap_ascii fun c hc => ?_
    rcases List.mem_cons.mp hc with rfl | hc
    · decide
    · exact h c hc

theorem positional_bytes (negative : Bool) (h : d.Proper) :
    (ofPositional negative d).bytes =
      (if negative then [minus] else []) ++ (d.positional true).map byte := by
  obtain ⟨c, cs, hcs, -⟩ := h.leading
  have length : 0 < d.digits.length := by simp [hcs]
  rw [ofPositional, Digits.positional]
  by_cases small : d.point ≤ 0
  · rw [if_pos small, if_pos small]
    simp [bytes, signBytes, fractionBytes, powerBytes, hcs]
    exact ⟨rfl, rfl⟩
  rw [if_neg small, if_neg small]
  by_cases middle : d.point < d.digits.length
  · have some : ¬d.digits.length ≤ d.point.toNat := by omega
    rw [if_pos middle, if_pos middle]
    simp [bytes, signBytes, fractionBytes, powerBytes, some]
    rfl
  · rw [if_neg middle, if_neg middle]
    simp [bytes, signBytes, fractionBytes, powerBytes]
    exact ⟨rfl, rfl⟩

theorem scientific_bytes (negative : Bool) (h : d.Proper) :
    (ofScientific negative d).bytes =
      (if negative then [minus] else []) ++ d.scientific.map byte := by
  obtain ⟨c, cs, hcs, -⟩ := h.leading
  have sign : byte (if d.point - 1 < 0 then '-' else '+') =
      if decide (d.point - 1 < 0) = true then minus else plus := by
    by_cases down : d.point - 1 < 0 <;> simp [down] <;> rfl
  have tail : (('e' :: (if d.point - 1 < 0 then '-' else '+') ::
      Nat.toDigits 10 (d.point - 1).natAbs).map byte) =
      Power.bytes ⟨d.point - 1 < 0, (Nat.toDigits 10 (d.point - 1).natAbs).map byte⟩ := by
    rw [List.map_cons, List.map_cons, sign]
    rfl
  rw [ofScientific, Digits.scientific, List.map_append, tail, hcs]
  cases cs with
  | nil => simp [bytes, signBytes, fractionBytes, powerBytes]
  | cons second more =>
    simp [bytes, signBytes, fractionBytes, powerBytes]
    rfl

theorem ascii_positional (h : d.Proper) : ∀ c ∈ d.positional true, c.toNat < 128 := by
  have digits : ∀ c ∈ d.digits, c.toNat < 128 := fun c hc => ascii_of_isDigit (h.digits c hc)
  have filling (n : Int) : ∀ c ∈ zeros n, c.toNat < 128 :=
    fun c hc => ascii_of_isDigit (mem_zeros hc)
  intro c hc
  rw [Digits.positional, if_pos rfl] at hc
  split_ifs at hc
  · simp only [List.cons_append, List.mem_cons, List.mem_append] at hc
    rcases hc with rfl | rfl | hc | hc
    · decide
    · decide
    · exact filling _ c hc
    · exact digits c hc
  · simp only [List.mem_append, List.mem_cons] at hc
    rcases hc with hc | rfl | hc
    · exact digits c (List.mem_of_mem_take hc)
    · decide
    · exact digits c (List.mem_of_mem_drop hc)
  · simp only [List.mem_append, List.mem_cons, List.not_mem_nil, or_false] at hc
    rcases hc with (hc | hc) | rfl | rfl
    · exact digits c hc
    · exact filling _ c hc
    · decide
    · decide

theorem ascii_scientific (h : d.Proper) : ∀ c ∈ d.scientific, c.toNat < 128 := by
  obtain ⟨first, cs, hcs, -⟩ := h.leading
  have digits : ∀ c ∈ first :: cs, c.toNat < 128 := fun c hc =>
    ascii_of_isDigit (h.digits c (by rwa [hcs]))
  intro c hc
  rw [Digits.scientific, hcs] at hc
  rcases List.mem_append.mp hc with hc | hc
  · cases cs with
    | nil => exact digits c hc
    | cons second more =>
      simp only [List.mem_cons] at hc
      rcases hc with rfl | rfl | rfl | hc
      · exact digits _ (by simp)
      · decide
      · exact digits _ (by simp)
      · exact digits c (by simp [hc])
  · simp only [List.mem_cons] at hc
    rcases hc with rfl | rfl | hc
    · decide
    · split_ifs <;> decide
    · exact ascii_of_isDigit (toDigits_isDigit _ c hc)

theorem ofReal_bytes {x : Binary64} (h : x.isFinite = true) :
    (ofReal x).bytes = Text.bytes (realText x) := by
  rw [realText, if_pos h, Layout.text, Layout.unsigned]
  by_cases hzero : x.magnitude = 0
  · have ascii : ∀ c ∈ ['0', '.', '0'], c.toNat < 128 := by
      simp only [List.forall_mem_cons]
      exact ⟨by decide, by decide, by decide, nofun⟩
    have written := bytes_signed x ascii
    rw [ofReal, if_pos hzero, if_pos hzero]
    exact written.symm
  · have proper := (realDigits_shows hzero).toProper
    have shown : shortest realLayout.tie x.magnitude = realDigits x := rfl
    have wholePoint : realLayout.wholePoint = true := rfl
    rw [ofReal, if_neg hzero, if_neg hzero, shown, wholePoint]
    by_cases hplain : realLayout.plain ((realDigits x).point - 1) = true
    · rw [if_pos hplain, if_pos hplain, bytes_signed x (ascii_positional proper),
        ← positional_bytes _ proper]
    · rw [if_neg hplain, if_neg hplain, bytes_signed x (ascii_scientific proper),
        ← scientific_bytes _ proper]

end Parts

/-! ## Numbers that numerals mean -/

open Binary64

theorem value?_of_not_integral {n : Numeral} (h : n.integral = false) :
    n.value? = (ofDecimal? n.negative n.digits n.exponent).map .real := by
  simp [value?, h]

/-- A finite double is read from its numeral. -/
theorem value?_realNumeral {x : Binary64} (h : x.isFinite = true) :
    (Value.realNumeral x).value? = some (.real x) := by
  have finite : x.magnitude < infiniteMagnitude := by simpa [isFinite] using h
  have read (digits : Nat) (exponent : Int) (hm : x.magnitude ≠ 0)
      (hn : nearestDecimal digits exponent = x.magnitude) :
      (⟨x.isNegative, digits, exponent, false⟩ : Numeral).value? = some (.real x) := by
    rw [value?_of_not_integral rfl, ofDecimal?_eq hn finite hm, ofMagnitude_magnitude]
    rfl
  rw [Value.realNumeral]
  split_ifs with hzero
  · have zero := ofMagnitude_magnitude x
    rw [hzero] at zero
    rw [value?_of_not_integral rfl, ofDecimal?, if_pos rfl, zero]
    rfl
  · have reads := (Parts.realDigits_shows hzero).reads
    extract_lets d exponent
    split_ifs with hwhole
    · have whole : 0 ≤ exponent := by
        have := (Bool.and_eq_true _ _).mp hwhole
        simpa using this.2
      refine read _ _ hzero ?_
      rw [tenTo_eq, nearestDecimal_shift]
      have same : -1 + ((exponent.toNat + 1 : Nat) : Int) = exponent := by omega
      rw [same]
      exact reads
    · exact read _ _ hzero reads

/-- A decimal with few digits before the point is read as some number. -/
theorem value?_isSome {n : Numeral} {k : Nat} (hk : k ≤ 255)
    (h : n.digits * tenTo n.exponent.toNat < tenTo (-n.exponent).toNat * 10 ^ k) :
    n.value?.isSome = true := by
  have decimal := ofDecimal?_isSome hk h n.negative
  rw [value?]
  split_ifs
  · rfl
  · rfl
  · simpa using decimal

namespace Parts

variable {p : Parts}

theorem digits_lt (h : p.Proper) :
    p.numeral.digits < 10 ^ (p.whole.length + p.fraction.length) := by
  have all : ∀ d ∈ p.whole ++ p.fraction, isDigit d = true := fun d hd =>
    (List.mem_append.mp hd).elim (h.whole d) (h.fraction d)
  have bound := number_lt all 0
  rw [number_append, List.length_append, Nat.zero_add, Nat.one_mul] at bound
  exact bound

/-- Parts with few digits before the point name a number. -/
theorem value?_numeral (h : p.Proper) {e : Nat} (he : p.power?.elim 0 Power.exponent ≤ e)
    (hk : p.whole.length + e ≤ 255) : p.numeral.value?.isSome = true := by
  refine value?_isSome hk ?_
  have exponent : p.numeral.exponent = p.power?.elim 0 Power.exponent - p.fraction.length := rfl
  calc p.numeral.digits * tenTo p.numeral.exponent.toNat
      < 10 ^ (p.whole.length + p.fraction.length) * 10 ^ p.numeral.exponent.toNat :=
      Nat.mul_lt_mul_of_pos_right (digits_lt h) (tenTo_pos _)
    _ = 10 ^ (p.whole.length + p.fraction.length + p.numeral.exponent.toNat) :=
      (Nat.pow_add ..).symm
    _ ≤ 10 ^ ((-p.numeral.exponent).toNat + (p.whole.length + e)) :=
      Nat.pow_le_pow_right (by decide) (by omega)
    _ = 10 ^ (-p.numeral.exponent).toNat * 10 ^ (p.whole.length + e) := Nat.pow_add ..

theorem realLayout_plain {e : Int} (h : realLayout.plain e = true) : e ≤ 15 := by
  have bounds : -5 ≤ e ∧ e ≤ 15 := by simpa [realLayout] using h
  exact bounds.2

theorem ofReal_whole_length (x : Binary64) : (ofReal x).whole.length ≤ 16 := by
  rw [ofReal]
  split_ifs with hzero hplain
  · simp
  · have small := realLayout_plain hplain
    rw [ofPositional]
    split_ifs
    · simp
    · simp only [List.length_map, List.length_take]
      omega
    · simp only [zeros, List.length_map, List.length_append, List.length_replicate]
      omega
  · simp only [ofScientific, List.length_map, List.length_take]
    omega

/-- The power of a written double is that of its point. -/
theorem ofReal_power {x : Binary64} {w : Power} (h : (ofReal x).power? = some w) :
    x.magnitude ≠ 0 ∧ w = ⟨(realDigits x).point - 1 < 0,
      (Nat.toDigits 10 ((realDigits x).point - 1).natAbs).map byte⟩ := by
  rw [ofReal] at h
  split_ifs at h with hzero hplain
  · rw [ofPositional] at h
    split_ifs at h
  · exact ⟨hzero, (Option.some.inj h).symm⟩

/-- Every numeral that the bytes of a double begin with means some number. -/
theorem value?_begins_ofReal {x : Binary64} (h : x.isFinite = true) {p' : Parts}
    (begins : p'.Begins (ofReal x)) (proper : p'.Proper) : p'.numeral.value?.isSome = true := by
  have finite : x.magnitude < infiniteMagnitude := by simpa [isFinite] using h
  have length : p'.whole.length ≤ 16 :=
    Nat.le_trans begins.whole.length_le (ofReal_whole_length x)
  rcases begins.power with none | ⟨w, ds, hw, ⟨es, hes⟩, hp'⟩
  · exact value?_numeral (e := 0) proper (by simp [none]) (by omega)
  obtain ⟨hzero, value⟩ := ofReal_power hw
  cases es with
  | nil =>
    rw [List.append_nil] at hes
    have same : p' = ofReal x := by rw [hp', hes, ← hw]
    rw [same, ofReal_numeral, value?_realNumeral h]
    rfl
  | cons d es =>
    -- without its last digit the power is at most a tenth of itself
    have point := (realDigits_shows hzero).point_le finite
    have power : number 0 w.digits = ((realDigits x).point - 1).natAbs := by
      rw [value, number_bytes (toDigits_isDigit _), Nat.ofDigitChars_ten_toDigits]
    have tenth : 10 * number 0 ds ≤ number 0 w.digits := by
      rw [← hes, number_append]
      exact Nat.le_trans (Nat.le_add_right _ _) (le_number _ es)
    have down : w.down = decide ((realDigits x).point - 1 < 0) := by rw [value]
    refine value?_numeral (e := 40) proper ?_ (by omega)
    rw [hp', Option.elim_some, Power.exponent, down]
    simp only [decide_eq_true_eq]
    split_ifs <;> omega

end Parts

/-- The bytes of a number that values are written with. -/
inductive Written : List UInt8 → Prop
  | integer (n : Int) : Written (Text.bytes (toString n))
  | real {x : Binary64} (h : x.isFinite = true) : Written (Text.bytes (realText x))

theorem ofBytes?_integer (n : Int) : ofBytes? (Text.bytes (toString n)) = some (ofInt n) := by
  rw [← Parts.ofInt_bytes, Parts.ofBytes?_bytes (Parts.ofInt_proper n), Parts.ofInt_numeral]

theorem ofBytes?_real {x : Binary64} (h : x.isFinite = true) :
    ofBytes? (Text.bytes (realText x)) = some (Value.realNumeral x) := by
  rw [← Parts.ofReal_bytes h, Parts.ofBytes?_bytes (Parts.ofReal_proper x), Parts.ofReal_numeral]

theorem integral_realNumeral (x : Binary64) : (Value.realNumeral x).integral = false := by
  rw [Value.realNumeral]
  split_ifs
  · rfl
  · extract_lets
    split_ifs <;> rfl

theorem ofInt_injective {m n : Int} (h : ofInt m = ofInt n) : m = n := by
  simp only [ofInt, mk.injEq, decide_eq_decide] at h
  omega

/-- A numeral that the bytes of a natural number begin with is a smaller natural number. -/
theorem begins_natural {k : Numeral} {n : Nat} (h : k.Begins Written (ofInt n)) :
    ∃ m : Nat, m ≤ n ∧ k = ofInt m := by
  obtain ⟨q, bytes, written, hn, hq, hk⟩ := h
  cases written with
  | integer i =>
    obtain rfl : i = n := ofInt_injective (Option.some.inj ((ofBytes?_integer i).symm.trans hn))
    rw [← Parts.ofInt_bytes] at hq
    obtain ⟨p', begins, proper, -, rfl⟩ := Parts.begins_of_prefix (Parts.ofInt_proper n) hq hk
    have value : number 0 (Parts.ofInt n).whole = n := by
      have read := congrArg Numeral.digits (Parts.ofInt_numeral n)
      simpa [Parts.numeral, Parts.ofInt, ofInt, number] using read
    have fraction : p'.fraction = [] := List.prefix_nil.mp begins.fraction
    have power : p'.power? = none := by
      rcases begins.power with none | ⟨w, _, hw, -⟩
      · exact none
      · cases hw
    have negative : p'.negative = false := begins.negative
    refine ⟨number 0 p'.whole, value ▸ number_prefix begins.whole 0, ?_⟩
    have positive : ¬(number 0 p'.whole : Int) < 0 := by omega
    simp only [Parts.numeral, ofInt, fraction, power, negative, decide_eq_false positive]
    simp [number]
  | real hx =>
    have same := Option.some.inj ((ofBytes?_real hx).symm.trans hn)
    have integral := congrArg Numeral.integral same
    rw [integral_realNumeral] at integral
    cases integral

/-- Every numeral that the bytes of a double begin with means some number. -/
theorem begins_real {k : Numeral} {x : Binary64} (h : k.Begins Written (Value.realNumeral x)) :
    k.value?.isSome = true := by
  obtain ⟨q, bytes, written, hn, hq, hk⟩ := h
  cases written with
  | integer i =>
    have same := Option.some.inj ((ofBytes?_integer i).symm.trans hn)
    have integral := congrArg Numeral.integral same
    rw [integral_realNumeral] at integral
    cases integral
  | real hy =>
    rw [← Parts.ofReal_bytes hy] at hq
    obtain ⟨p', begins, proper, -, rfl⟩ := Parts.begins_of_prefix (Parts.ofReal_proper _) hq hk
    exact Parts.value?_begins_ofReal hy begins proper

end Numeral

end CycleLedger.Json
