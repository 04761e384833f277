import CycleLedger.Binary64.Shortest
import CycleLedger.Proofs.Binary64.Nearest

/-! # Shortest digits read back

The digits selected for a finite magnitude are read as that magnitude: a candidate is only taken
after it was read, and the exact expansion is left when there is none. Decimals that are not too
large are read as some double.
-/

namespace CycleLedger.Binary64

/-- The magnitude nearest to the decimal `significand * 10 ^ exponent`. -/
def nearestDecimal (significand : Nat) (exponent : Int) : Nat :=
  nearestMagnitude (significand * tenTo exponent.toNat) (tenTo (-exponent).toNat)

theorem nearestDecimal_zero (exponent : Int) : nearestDecimal 0 exponent = 0 := by
  rw [nearestDecimal, Nat.zero_mul]
  exact nearestMagnitude_eq_zero (by simpa using tenTo_pos _)

/-- Zeros at the end of a significand count as powers of ten. -/
theorem nearestDecimal_shift (significand k : Nat) (exponent : Int) :
    nearestDecimal (significand * 10 ^ k) exponent = nearestDecimal significand (exponent + k) := by
  refine nearestMagnitude_congr (tenTo_pos _) (tenTo_pos _) ?_
  simp only [tenTo_eq, Nat.mul_assoc, ← Nat.pow_add]
  congr 2
  omega

/-! ## Decimals as doubles -/

theorem ofMagnitude_magnitude (x : Binary64) : ofMagnitude x.isNegative x.magnitude = x := by
  have bound := x.bits.toNat_lt
  have parts := Nat.div_add_mod x.bits.toNat (2 ^ 63)
  simp only [ofMagnitude, isNegative, magnitude, Nat.shiftLeft_eq, Nat.one_mul, decide_eq_true_eq]
  congr 1
  apply UInt64.toNat_inj.mp
  rw [UInt64.toNat_ofNat']
  split_ifs <;> omega

theorem two_pow_le_ten_pow (k : Nat) : 2 ^ (3 * k) ≤ 10 ^ k := by
  rw [Nat.pow_mul]
  exact Nat.pow_le_pow_left (by decide) k

theorem ten_pow_le_two_pow (k : Nat) : 10 ^ k ≤ 2 ^ (4 * k) := by
  rw [Nat.pow_mul]
  exact Nat.pow_le_pow_left (by decide) k

/-- No power of ten beyond the guards of `ofDecimal?` is in the range of finite doubles. -/
theorem exponent_le {digits : Nat} {exponent : Int} (hdigits : digits ≠ 0)
    (h : nearestDecimal digits exponent < infiniteMagnitude) : exponent ≤ 400 := by
  refine Int.not_lt.mp fun large => ?_
  have hnegative : (-exponent).toNat = 0 := by omega
  have hpow : 1 * 2 ^ (3 * exponent.toNat) ≤ digits * tenTo exponent.toNat :=
    Nat.mul_le_mul (by omega) (two_pow_le_ten_pow _)
  have infinite := infiniteMagnitude_le (by decide) (by omega) hpow
  rw [nearestDecimal, hnegative] at h
  exact absurd infinite (by simpa [tenTo_eq] using h)

theorem le_exponent {digits : Nat} {exponent : Int} (h : nearestDecimal digits exponent ≠ 0) :
    -400 ≤ exponent + digits.log2 := by
  refine Int.not_lt.mp fun small => ?_
  have hpositive : exponent.toNat = 0 := by omega
  refine h (nearestMagnitude_eq_zero ?_)
  rw [hpositive]
  calc digits * tenTo 0 * 2 ^ (depth + 1)
      = digits * 2 ^ (depth + 1) := by rw [tenTo_eq, Nat.pow_zero, Nat.mul_one]
    _ < 2 ^ (digits.log2 + 1) * 2 ^ (depth + 1) :=
      Nat.mul_lt_mul_of_pos_right Nat.lt_log2_self (Nat.two_pow_pos _)
    _ = 2 ^ (digits.log2 + 1 + (depth + 1)) := (Nat.pow_add ..).symm
    _ ≤ 2 ^ (3 * (-exponent).toNat) := Nat.pow_le_pow_right (by decide) (by
      have := depth_eq
      omega)
    _ ≤ 10 ^ (-exponent).toNat := two_pow_le_ten_pow _

/-- A decimal whose nearest magnitude is finite is read as that magnitude. -/
theorem ofDecimal?_eq {digits : Nat} {exponent : Int} {m : Nat}
    (h : nearestDecimal digits exponent = m) (hfinite : m < infiniteMagnitude) (hm : m ≠ 0)
    (negative : Bool) : ofDecimal? negative digits exponent = some (ofMagnitude negative m) := by
  have hdigits : digits ≠ 0 := by
    rintro rfl
    exact hm (by rw [← h, nearestDecimal_zero])
  have upper := exponent_le hdigits (by rwa [h])
  have lower := le_exponent (by rwa [h])
  unfold nearestDecimal at h
  rw [ofDecimal?, if_neg hdigits, if_neg (by omega), if_neg (by omega)]
  simp only [h, hfinite, if_true]

/-- A decimal below 10^255 is read as some double. -/
theorem ofDecimal?_isSome {digits k : Nat} {exponent : Int} (hk : k ≤ 255)
    (h : digits * tenTo exponent.toNat < tenTo (-exponent).toNat * 10 ^ k) (negative : Bool) :
    (ofDecimal? negative digits exponent).isSome = true := by
  have bound : nearestDecimal digits exponent < infiniteMagnitude :=
    nearestMagnitude_lt (k := 4 * k) (by omega)
      (Nat.lt_of_lt_of_le h (Nat.mul_le_mul_left _ (ten_pow_le_two_pow k)))
  by_cases hdigits : digits = 0
  · rw [ofDecimal?, if_pos hdigits, Option.isSome_some]
  · have upper := exponent_le hdigits bound
    unfold nearestDecimal at bound
    rw [ofDecimal?, if_neg hdigits, if_neg (by omega)]
    split_ifs
    · rfl
    · simp only [bound, if_true, Option.isSome_some]

/-! ## Digits -/

/-- Digits that begin with one that is not zero. -/
structure Digits.Proper (d : Digits) : Prop where
  digits : ∀ c ∈ d.digits, c.isDigit = true
  leading : ∃ c cs, d.digits = c :: cs ∧ c ≠ '0'

/-- The exponent of ten that the digits as a whole number have. -/
def Digits.exponent (d : Digits) : Int := d.point - d.digits.length

theorem toDigits_leading {n : Nat} (hn : 0 < n) :
    ∃ c cs, Nat.toDigits 10 n = c :: cs ∧ c ≠ '0' := by
  induction n using Nat.strongRecOn with
  | ind n ih =>
    by_cases small : n < 10
    · refine ⟨_, [], Nat.toDigits_of_lt_base small, ?_⟩
      match n, hn, small with
      | 1, _, _ | 2, _, _ | 3, _, _ | 4, _, _ | 5, _, _ | 6, _, _ | 7, _, _ | 8, _, _ | 9, _, _ =>
        decide
    · obtain ⟨c, cs, hcs, hc⟩ := ih (n / 10) (by omega) (by omega)
      have digits : Nat.toDigits 10 n = c :: (cs ++ [Nat.digitChar (n % 10)]) := by
        rw [Nat.toDigits_of_base_le (by decide) (by omega), hcs, List.cons_append]
      exact ⟨c, _, digits, hc⟩

/-- All digits are those that are kept and the zeros behind them. -/
theorem Digits.ofScaled_digits (significand : Nat) (exponent : Int) :
    ∃ k, Nat.toDigits 10 significand =
      (ofScaled significand exponent).digits ++ List.replicate k '0' := by
  let all := (Nat.toDigits 10 significand).reverse
  refine ⟨(all.takeWhile (· == '0')).length, ?_⟩
  have zeros : all.takeWhile (· == '0') = List.replicate (all.takeWhile (· == '0')).length '0' :=
    List.eq_replicate_of_mem fun c hc => by
      simpa using List.all_eq_true.mp List.all_takeWhile c hc
  have parts : all.takeWhile (· == '0') ++ all.dropWhile (· == '0') = all :=
    List.takeWhile_append_dropWhile
  have reversed := congrArg List.reverse parts
  rw [List.reverse_append, zeros, List.reverse_replicate] at reversed
  rw [List.reverse_reverse] at reversed
  exact reversed.symm

theorem Digits.nearestDecimal_ofScaled (significand : Nat) (exponent : Int) :
    nearestDecimal (ofScaled significand exponent).significand
      (ofScaled significand exponent).exponent = nearestDecimal significand exponent := by
  obtain ⟨k, hk⟩ := ofScaled_digits significand exponent
  have value : significand = (ofScaled significand exponent).significand * 10 ^ k := by
    have read := congrArg (Nat.ofDigitChars 10 · 0) hk
    simp only [Nat.ofDigitChars_ten_toDigits, Nat.ofDigitChars_append,
      Nat.ofDigitChars_replicate_zero] at read
    rw [Nat.mul_comm]
    exact read
  have place : (ofScaled significand exponent).exponent = exponent + k := by
    have length := congrArg List.length hk
    have point : (ofScaled significand exponent).point =
      (Nat.toDigits 10 significand).length + exponent := rfl
    rw [List.length_append, List.length_replicate] at length
    rw [Digits.exponent, point]
    omega
  rw [place, ← nearestDecimal_shift, ← value]

theorem Digits.ofScaled_proper {significand : Nat} (h : 0 < significand) (exponent : Int) :
    (ofScaled significand exponent).Proper := by
  obtain ⟨k, hk⟩ := ofScaled_digits significand exponent
  constructor
  · intro c hc
    have member : c ∈ Nat.toDigits 10 significand := by
      rw [hk]
      exact List.mem_append_left _ hc
    exact Nat.isDigit_of_mem_toDigits (by decide) (by decide) member
  · obtain ⟨c, cs, hcs, hc⟩ := toDigits_leading h
    cases hd : (ofScaled significand exponent).digits with
    | nil =>
      rw [hd, List.nil_append, hcs] at hk
      cases k with
      | zero => cases hk
      | succ k => exact absurd (List.cons.inj hk).1 hc
    | cons d ds =>
      rw [hd, List.cons_append, hcs] at hk
      exact ⟨d, ds, rfl, by rwa [← (List.cons.inj hk).1]⟩

/-! ## The selection -/

/-- The digits stand for the magnitude. -/
structure Digits.Shows (d : Digits) (m : Nat) : Prop extends d.Proper where
  reads : nearestDecimal d.significand d.exponent = m

theorem Digits.shows_ofScaled {significand m : Nat} {exponent : Int} (hm : m ≠ 0)
    (h : nearestDecimal significand exponent = m) : (ofScaled significand exponent).Shows m := by
  have positive : 0 < significand := by
    rcases Nat.eq_zero_or_pos significand with rfl | positive
    · exact absurd (h.symm.trans (nearestDecimal_zero exponent)) hm
    · exact positive
  exact ⟨ofScaled_proper positive exponent, (nearestDecimal_ofScaled _ _).trans h⟩

theorem Digits.significand_eq (d : Digits) :
    d.significand = Nat.ofDigitChars 10 d.digits 0 := rfl

theorem Digits.Proper.significand_ge {d : Digits} (h : d.Proper) :
    10 ^ (d.digits.length - 1) ≤ d.significand := by
  obtain ⟨c, cs, hcs, hc⟩ := h.leading
  have first : 48 ≤ c.toNat := by
    have digit := h.digits c (by simp [hcs])
    simp only [Char.isDigit, ge_iff_le, Bool.and_eq_true, decide_eq_true_eq,
      UInt32.le_iff_toNat_le] at digit
    exact digit.1
  have notZero : c.toNat ≠ 48 := fun same => hc (Char.ext (UInt32.toNat_inj.mp same))
  have value : d.significand = 10 ^ cs.length * (c.toNat - 48) + Nat.ofDigitChars 10 cs 0 := by
    rw [significand_eq, hcs, Nat.ofDigitChars_cons, Nat.ofDigitChars_eq_ofDigitChars_zero]
    simp
  have length : d.digits.length - 1 = cs.length := by simp [hcs]
  rw [length, value]
  exact Nat.le_trans (Nat.le_mul_of_pos_right _ (by omega)) (Nat.le_add_right _ _)

/-- The point of digits that stand for a finite magnitude. -/
theorem Digits.Shows.point_le {d : Digits} {m : Nat} (h : d.Shows m) (hm : m < infiniteMagnitude) :
    d.point ≤ 401 := by
  refine Int.not_lt.mp fun large => ?_
  have length : 0 < d.digits.length := by
    obtain ⟨c, cs, hcs, -⟩ := h.leading
    simp [hcs]
  have exponent : d.exponent = d.point - d.digits.length := rfl
  obtain ⟨k, hk⟩ : ∃ k : Nat, d.point = k + 1 := ⟨(d.point - 1).toNat, by omega⟩
  have bound : tenTo (-d.exponent).toNat * 2 ^ (3 * k) ≤
      d.significand * tenTo d.exponent.toNat :=
    calc tenTo (-d.exponent).toNat * 2 ^ (3 * k)
        ≤ 10 ^ (-d.exponent).toNat * 10 ^ k := Nat.mul_le_mul_left _ (two_pow_le_ten_pow k)
      _ = 10 ^ ((-d.exponent).toNat + k) := (Nat.pow_add ..).symm
      _ ≤ 10 ^ (d.digits.length - 1 + d.exponent.toNat) :=
        Nat.pow_le_pow_right (by decide) (by omega)
      _ = 10 ^ (d.digits.length - 1) * 10 ^ d.exponent.toNat := Nat.pow_add ..
      _ ≤ d.significand * tenTo d.exponent.toNat :=
        Nat.mul_le_mul_right _ h.toProper.significand_ge
  have infinite := infiniteMagnitude_le (tenTo_pos _) (by omega) bound
  have reads : nearestMagnitude (d.significand * tenTo d.exponent.toNat)
      (tenTo (-d.exponent).toNat) = m := h.reads
  omega

theorem readsBack_iff {m significand : Nat} {exponent : Int} :
    readsBack m significand exponent = true ↔ nearestDecimal significand exponent = m := by
  simp [readsBack, nearestDecimal]

/-- A neighbour is only taken when it reads back. -/
theorem neighbour?_reads {tie : Tie} {m significand : Nat} {exponent : Int}
    (h : neighbour? tie m exponent = some significand) :
    nearestDecimal significand exponent = m := by
  unfold neighbour? at h
  extract_lets num den below at h
  have hcases : roundQuotient tie num den = below ∨ roundQuotient tie num den = below + 1 :=
    roundQuotient_cases tie num den
  clear_value below num den
  split at h
  · rename_i hbelow habove
    rw [readsBack_iff] at hbelow habove
    obtain rfl := Option.some.inj h
    rcases hcases with same | next
    · exact (congrArg (nearestDecimal · exponent) same).trans hbelow
    · exact (congrArg (nearestDecimal · exponent) next).trans habove
  · rename_i hbelow _
    obtain rfl := Option.some.inj h
    exact readsBack_iff.mp hbelow
  · rename_i _ habove
    obtain rfl := Option.some.inj h
    exact readsBack_iff.mp habove
  · cases h

/-- The exact expansion reads back. -/
theorem nearestDecimal_exact (m d : Nat) (hd : d = depth) :
    nearestDecimal (stepsOf m * Nat.pow 5 d) (-(d : Int)) = m := by
  have ten : tenTo d = Nat.pow 5 d * 2 ^ d := Nat.mul_pow 5 2 d
  have down : (-(-(d : Int))).toNat = d := by omega
  have up : (-(d : Int)).toNat = 0 := by omega
  rw [nearestDecimal, down, up]
  refine (nearestMagnitude_congr (tenTo_pos _) (Nat.two_pow_pos depth) ?_).trans
    (nearestMagnitude_stepsOf m)
  rw [ten, tenTo_eq, Nat.pow_zero, Nat.mul_one, Nat.mul_assoc, hd]

theorem shortest_shows (tie : Tie) {m : Nat} (hm : m ≠ 0) : (shortest tie m).Shows m := by
  rw [shortest]
  cases found : (List.range 17).findSome? fun n =>
      (neighbour? tie m (decimalScale (stepsOf m) - (n + 1 : Nat))).map fun significand =>
        Digits.ofScaled significand (decimalScale (stepsOf m) - (n + 1 : Nat)) with
  | none =>
    rw [Option.getD_none]
    exact Digits.shows_ofScaled hm (nearestDecimal_exact m 1074 depth_eq.symm)
  | some d =>
    rw [Option.getD_some]
    obtain ⟨n, -, hn⟩ := List.exists_of_findSome?_eq_some found
    obtain ⟨significand, hs, rfl⟩ := Option.map_eq_some_iff.mp hn
    exact Digits.shows_ofScaled hm (neighbour?_reads hs)

end CycleLedger.Binary64
