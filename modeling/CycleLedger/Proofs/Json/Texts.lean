import CycleLedger.Json.Value
import CycleLedger.Proofs.Json.Lexing
import CycleLedger.Proofs.Text.Bytes

/-! # Written texts

A text is written between quotes with the escapes that it needs, and is read back from them. The
units of a written text that ends too early never form a text, whatever else is wrong with them.
-/

namespace CycleLedger.Json

open Text

namespace Quoted

/-! ## Units -/

theorem encodeCode_control {b : UInt8} (h : b < 0x20) : encodeCode b.toNat = [b] := by
  have small : b.toNat < 32 := UInt8.lt_iff_toNat_lt.mp h
  have code : (Char.ofNat b.toNat).toNat = b.toNat := by
    rw [Char.ofNat, dif_pos (.inl (by omega))]
    rfl
  have read : encodeCode b.toNat = Text.bytes (String.ofList [Char.ofNat b.toNat]) := rfl
  rw [read, bytes_ofList, flatMap_ascii (by simp [code]; omega)]
  simp [byte, code]

theorem joinUnits_byte (fault? : Option Fault) (b : UInt8) (rest : List TextUnit) :
    joinUnits fault? (.byte b :: rest) = (joinUnits fault? rest).map (b :: ·) := by
  rw [joinUnits]

/-- A unit that is no half stands for itself. -/
theorem joinUnits_code {code : Nat} (low : isLowHalf code = false) (high : isHighHalf code = false)
    (fault? : Option Fault) (rest : List TextUnit) :
    joinUnits fault? (.code code :: rest) =
      (joinUnits fault? rest).map (encodeCode code ++ ·) := by
  rw [joinUnits.eq_def]
  simp [low, high]

/-- Written units are the bytes that they stand for. -/
theorem joinUnits_written (bytes : List UInt8) :
    joinUnits none (bytes.map writtenUnit) = .ok bytes := by
  induction bytes with
  | nil => rfl
  | cons b bytes ih =>
    rw [List.map_cons, writtenUnit]
    split
    · rename_i control
      have small : b < 0x20 := by
        simp only [Bool.and_eq_true, decide_eq_true_eq] at control
        exact control.1
      have nat : b.toNat < 32 := UInt8.lt_iff_toNat_lt.mp small
      have noLow : isLowHalf b.toNat = false := by simp [isLowHalf]; omega
      have noHigh : isHighHalf b.toNat = false := by simp [isHighHalf]; omega
      rw [joinUnits_code noLow noHigh, ih, encodeCode_control small]
      rfl
    · rw [joinUnits_byte, ih]
      rfl

/-- A text is read back from its units. -/
theorem text_ofString (s : String) : (ofString s).text = .ok s := by
  have units : joinUnits none (ofString s).units = .ok (Text.bytes s) := joinUnits_written _
  have whole : (ofString s).fault? = none := rfl
  rw [text, whole, units]
  simp only [fromUTF8?_bytes]

theorem map_eq_ok {α β : Type} {r : Except Fault α} {g : α → β} {b : β}
    (h : r.map g = .ok b) : ∃ a, r = .ok a := by
  cases r with
  | error f => cases h
  | ok a => exact ⟨a, rfl⟩

/-- Units that lack their end are no text when all of them were one. -/
theorem joinUnits_cut (f : Fault) : (units : List TextUnit) → (bytes : List UInt8) →
    joinUnits none units = .ok bytes → (cut : List TextUnit) → cut <+: units →
    joinUnits (some f) cut = .error f
  | _, _, _, [], _ => by rw [joinUnits]
  | .byte b :: rest, _, h, _ :: cut, hcut => by
    obtain ⟨rfl, shorter⟩ := List.cons_prefix_cons.mp hcut
    rw [joinUnits_byte] at h
    obtain ⟨bytes, joined⟩ := map_eq_ok h
    rw [joinUnits_byte, joinUnits_cut f rest bytes joined cut shorter]
    rfl
  | .code code :: rest, _, h, _ :: cut, hcut => by
    obtain ⟨rfl, shorter⟩ := List.cons_prefix_cons.mp hcut
    cases low : isLowHalf code with
    | true =>
      rw [joinUnits.eq_def] at h
      simp [low] at h
    | false =>
      cases high : isHighHalf code with
      | false =>
        rw [joinUnits_code low high] at h
        obtain ⟨bytes, joined⟩ := map_eq_ok h
        rw [joinUnits_code low high, joinUnits_cut f rest bytes joined cut shorter]
        rfl
      | true =>
        -- a high half is cut before its partner or behind it
        match rest, h, shorter with
        | [], h, _ => simp [joinUnits, low, high] at h
        | .byte _ :: _, h, _ => simp [joinUnits, low, high] at h
        | .code next :: rest, h, shorter =>
          cases partner : isLowHalf next with
          | false => simp [joinUnits, low, high, partner] at h
          | true =>
            simp only [joinUnits, low, high, partner, Bool.false_eq_true, if_false, if_true] at h
            obtain ⟨bytes, joined⟩ := map_eq_ok h
            match cut, shorter with
            | [], _ => simp [joinUnits, low, high]
            | _ :: cut, shorter =>
              obtain ⟨rfl, behind⟩ := List.cons_prefix_cons.mp shorter
              simp only [joinUnits, low, high, partner, Bool.false_eq_true, if_false, if_true,
                joinUnits_cut f rest bytes joined cut behind]
              rfl

theorem text_cut {q : Quoted} {s : String} (h : q.text = .ok s) (hq : q.fault? = none)
    {units : List TextUnit} (hunits : units <+: q.units) (f : Fault) :
    text ⟨units, some f⟩ = .error f := by
  rw [text, hq] at h
  split at h
  · cases h
  · rename_i bytes joined
    rw [text, joinUnits_cut f _ _ joined _ hunits]

/-! ## Scans of escapes -/

theorem Scan.closed?_cons {s s' : Scan} {b : UInt8} (h : s.step b = .inl s')
    (bytes : List UInt8) : s.closed? (b :: bytes) = s'.closed? bytes := by
  rw [closed?, h]

/-- The bytes are scanned as the units, wherever they stand in a text. -/
def Writes (bytes : List UInt8) (units : List TextUnit) : Prop :=
  ∀ before rest, (Scan.plain before).closed? (bytes ++ rest) =
    (Scan.plain (units.reverse ++ before)).closed? rest

theorem Writes.append {as bs : List UInt8} {us vs : List TextUnit} (h : Writes as us)
    (h' : Writes bs vs) : Writes (as ++ bs) (us ++ vs) := by
  intro before rest
  rw [List.append_assoc, h, h', List.reverse_append, List.append_assoc]

/-- A byte that needs no escape. -/
def isPlain (b : UInt8) : Bool := b != Ascii.quote && b != Ascii.backslash && !(b < 0x20)

theorem writes_plain {b : UInt8} (h : isPlain b = true) : Writes [b] [.byte b] := by
  intro before rest
  have parts : (b ≠ Ascii.quote ∧ b ≠ Ascii.backslash) ∧ ¬b < 0x20 := by simpa [isPlain] using h
  exact Scan.closed?_cons (by simp [Scan.step, parts.1.1, parts.1.2, parts.2]) rest

theorem writtenUnit_plain {b : UInt8} (h : isPlain b = true) : writtenUnit b = .byte b := by
  have high : ¬b < 0x20 := by
    have parts : (b ≠ Ascii.quote ∧ b ≠ Ascii.backslash) ∧ ¬b < 0x20 := by simpa [isPlain] using h
    exact parts.2
  simp [writtenUnit, high]

theorem writes_plains {bs : List UInt8} (h : ∀ b ∈ bs, isPlain b = true) :
    Writes bs (bs.map writtenUnit) := by
  induction bs with
  | nil => exact fun _ _ => rfl
  | cons b bs ih =>
    have first := writes_plain (h b (by simp))
    rw [← writtenUnit_plain (h b (by simp))] at first
    exact first.append (ih fun c hc => h c (by simp [hc]))

theorem step_hex (us : List TextUnit) (left value : Nat) {b : UInt8} {i : Nat}
    (h : Ascii.hexDigit? b = some i) :
    (Scan.hex us (left + 1) (some value)).step b = .inl (.hex us left (some (16 * value + i))) := by
  simp [Scan.step, h]

/-- An escape of a 16-bit unit by four hexadecimal digits. -/
theorem writes_hex {a b c d : UInt8} {i j k l : Nat} (ha : Ascii.hexDigit? a = some i)
    (hb : Ascii.hexDigit? b = some j) (hc : Ascii.hexDigit? c = some k)
    (hd : Ascii.hexDigit? d = some l) :
    Writes [Ascii.backslash, Ascii.lowerU, a, b, c, d]
      [.code (16 * (16 * (16 * (16 * 0 + i) + j) + k) + l)] := by
  intro us rest
  have opened : (Scan.plain us).step Ascii.backslash = .inl (.escape us) := rfl
  have begun : (Scan.escape us).step Ascii.lowerU = .inl (.hex us 3 (some 0)) := rfl
  have last (value : Nat) : (Scan.hex us 0 (some value)).step d =
      .inl (.plain (.code (16 * value + l) :: us)) := by
    simp [Scan.step, hd]
  simp only [List.cons_append, List.nil_append]
  rw [Scan.closed?_cons opened, Scan.closed?_cons begun, Scan.closed?_cons (step_hex us 2 _ ha),
    Scan.closed?_cons (step_hex us 1 _ hb), Scan.closed?_cons (step_hex us 0 _ hc),
    Scan.closed?_cons (last _)]
  rfl

theorem isPlain_of_le {b : UInt8} (h : 0x80 ≤ b.toNat) : isPlain b = true := by
  have notQuote : b ≠ Ascii.quote := by
    rintro rfl
    exact absurd h (by decide)
  have notBackslash : b ≠ Ascii.backslash := by
    rintro rfl
    exact absurd h (by decide)
  have notControl : ¬b < 0x20 := by
    rw [UInt8.lt_iff_toNat_lt]
    have : (0x20 : UInt8).toNat = 32 := rfl
    omega
  simp [isPlain, notQuote, notBackslash, notControl]

/-- The bytes of a character beyond ASCII need no escapes. -/
theorem isPlain_utf8EncodeChar {c : Char} (h : 0x80 ≤ c.toNat) :
    ∀ b ∈ String.utf8EncodeChar c, isPlain b = true := by
  have large : ¬c.val.toNat ≤ 0x7f := by
    have : c.toNat = c.val.toNat := rfl
    omega
  have high (n k m : Nat) (hk : 0 < k ∧ k + m ≤ 256) (hm : 0x80 ≤ m) :
      isPlain (UInt8.ofNat (n % k + m)) = true := by
    refine isPlain_of_le ?_
    have := Nat.mod_lt n hk.1
    rw [UInt8.toNat_ofNat']
    omega
  intro b hb
  rw [String.utf8EncodeChar] at hb
  simp only [if_neg large] at hb
  split_ifs at hb
  all_goals
    simp only [List.mem_cons, List.not_mem_nil, or_false] at hb
  · rcases hb with rfl | rfl <;> exact high _ _ _ (by decide) (by decide)
  · rcases hb with rfl | rfl | rfl <;> exact high _ _ _ (by decide) (by decide)
  · rcases hb with rfl | rfl | rfl | rfl <;> exact high _ _ _ (by decide) (by decide)

/-! ## Characters -/

theorem hexDigit?_digitChar : ∀ n < 16, Ascii.hexDigit? (byte (Nat.digitChar n)) = some n ∧
    (Nat.digitChar n).toNat < 128 := by decide

/-- A control character without an escape of its own is written by its number. -/
theorem writes_control {c : Char} (h : c.toNat < 0x20) :
    Writes ((['\\', 'u'] ++ List.replicate (4 - (Nat.toDigits 16 c.toNat).length) '0' ++
      Nat.toDigits 16 c.toNat).flatMap String.utf8EncodeChar) [.code c.toNat] := by
  have zeroDigit : Ascii.hexDigit? (byte '0') = some 0 := rfl
  have oneDigit : Ascii.hexDigit? (byte '1') = some 1 := rfl
  by_cases small : c.toNat < 16
  · obtain ⟨digit, ascii⟩ := hexDigit?_digitChar c.toNat small
    rw [Nat.toDigits_of_lt_base small, flatMap_ascii (by simp; exact ascii)]
    have writes := writes_hex zeroDigit zeroDigit zeroDigit digit
    simp only [Nat.mul_zero, Nat.zero_add] at writes
    exact writes
  · obtain ⟨digit, ascii⟩ := hexDigit?_digitChar (c.toNat % 16) (Nat.mod_lt _ (by decide))
    have first : c.toNat / 16 = 1 := by omega
    have digits : Nat.toDigits 16 c.toNat = ['1', Nat.digitChar (c.toNat % 16)] := by
      rw [Nat.toDigits_of_base_le (by decide) (by omega), first]
      rfl
    rw [digits, flatMap_ascii (by simp; exact ascii)]
    have writes := writes_hex zeroDigit zeroDigit oneDigit digit
    have value : 16 * (16 * (16 * (16 * 0 + 0) + 0) + 1) + c.toNat % 16 = c.toNat := by omega
    rw [value] at writes
    exact writes

theorem byte_lt_iff {c : Char} (h : c.toNat < 128) : byte c < 0x20 ↔ c.toNat < 0x20 := by
  rw [UInt8.lt_iff_toNat_lt, byte_toNat h]
  rfl

/-- A control character without an escape of its own is read as its number. -/
theorem writtenUnit_control {c : Char} (control : c.toNat < 0x20)
    (noEscape : ∀ d ∈ ['\x08', '\t', '\n', '\x0c', '\r'], c ≠ d) :
    writtenUnit (byte c) = .code c.toNat := by
  have ascii : c.toNat < 128 := by omega
  have ne (d : Char) (hd : d ∈ ['\x08', '\t', '\n', '\x0c', '\r']) (small : d.toNat < 128) :
      byte c ≠ byte d := fun same => noEscape d hd (byte_inj ascii small same)
  have others : (byte c == 0x08 || byte c == 0x09 || byte c == 0x0A || byte c == 0x0C ||
      byte c == 0x0D) = false := by
    simp only [Bool.or_eq_false_iff, beq_eq_false_iff_ne]
    exact ⟨⟨⟨⟨ne '\x08' (by simp) (by decide), ne '\t' (by simp) (by decide)⟩,
      ne '\n' (by simp) (by decide)⟩, ne '\x0c' (by simp) (by decide)⟩,
      ne '\r' (by simp) (by decide)⟩
  simp [writtenUnit, (byte_lt_iff ascii).2 control, others, byte_toNat ascii]

theorem isPlain_byte {c : Char} (ascii : c.toNat < 128) (control : ¬c.toNat < 0x20)
    (notQuote : c ≠ '\x22') (notBackslash : c ≠ '\\') : isPlain (byte c) = true := by
  have quote : byte c ≠ Ascii.quote := fun same =>
    notQuote (byte_inj ascii (by decide) (d := '\x22') same)
  have backslash : byte c ≠ Ascii.backslash := fun same =>
    notBackslash (byte_inj ascii (by decide) (d := '\\') same)
  simpa [isPlain, quote, backslash, byte_lt_iff ascii] using control

/-- The escape of a character is read as its bytes. -/
theorem writes_escapedChar (c : Char) :
    Writes ((escapedChar c).flatMap String.utf8EncodeChar)
      ((String.utf8EncodeChar c).map writtenUnit) := by
  unfold escapedChar
  split
  case h_8 =>
    rename_i hquote hbackslash hb hf hn hr ht
    split_ifs with control
    · have unit : writtenUnit (byte c) = .code c.toNat := by
        refine writtenUnit_control control ?_
        simp only [List.forall_mem_cons]
        exact ⟨hb, ht, hn, hf, hr, nofun⟩
      rw [utf8EncodeChar_ascii (by omega), List.map_singleton, unit]
      exact writes_control control
    · rw [List.flatMap_singleton]
      refine writes_plains ?_
      by_cases ascii : c.toNat < 128
      · rw [utf8EncodeChar_ascii ascii]
        simpa using isPlain_byte ascii control hquote hbackslash
      · exact isPlain_utf8EncodeChar (by omega)
  all_goals exact fun _ _ => rfl

theorem writes_text (cs : List Char) :
    Writes ((cs.flatMap escapedChar).flatMap String.utf8EncodeChar)
      ((cs.flatMap String.utf8EncodeChar).map writtenUnit) := by
  induction cs with
  | nil => exact fun _ _ => rfl
  | cons c cs ih =>
    rw [List.flatMap_cons, List.flatMap_append, List.flatMap_cons, List.map_append]
    exact (writes_escapedChar c).append ih

/-- A text is read from the bytes that it is written with. -/
theorem bytes_textText (s : String) : ∃ bytes, Text.bytes (textText s) = Ascii.quote :: bytes ∧
    (Scan.plain []).closed? bytes = some (ofString s) := by
  refine ⟨(s.toList.flatMap escapedChar).flatMap String.utf8EncodeChar ++ [Ascii.quote], ?_, ?_⟩
  · rw [textText, bytes_ofList, List.cons_append, List.flatMap_cons, List.flatMap_append]
    rfl
  · rw [writes_text s.toList [] [Ascii.quote], ← bytes_eq]
    simp [Scan.closed?, Scan.step, Scan.close, Scan.units, ofString]
    rfl

end Quoted

end CycleLedger.Json
