/-! # Bytes of texts

A text as the list of its bytes: joined texts have joined bytes, the bytes of a text are a text
again, and a character below 128 is one byte.
-/

namespace CycleLedger.Text

/-- The bytes of a text in UTF-8. -/
def bytes (s : String) : List UInt8 := s.toUTF8.toList

theorem toList_loop (b : ByteArray) (i : Nat) (before : List UInt8) :
    ByteArray.toList.loop b i before = before.reverse ++ b.data.toList.drop i := by
  induction h : b.size - i generalizing i before with
  | zero =>
    have beyond : ¬i < b.size := by omega
    have short : b.data.toList.length ≤ i := by simpa using Nat.le_of_not_lt beyond
    rw [ByteArray.toList.loop, if_neg beyond, List.drop_eq_nil_of_le short, List.append_nil]
  | succ n ih =>
    have inside : i < b.size := by omega
    have long : i < b.data.toList.length := by simpa using inside
    have byte : b.get! i = b.data.toList[i] := by
      rw [ByteArray.get!, Array.getElem_toList, getElem!_pos b.data i (by simpa using inside)]
    rw [ByteArray.toList.loop, if_pos inside, ih _ _ (by omega), byte,
      List.drop_eq_getElem_cons long]
    simp

theorem toList_eq (b : ByteArray) : b.toList = b.data.toList := by
  rw [ByteArray.toList, toList_loop]
  rfl

@[simp] theorem bytes_ofList (cs : List Char) :
    bytes (String.ofList cs) = cs.flatMap String.utf8EncodeChar := by
  rw [bytes, String.toUTF8_eq_toByteArray, String.toByteArray_ofList, toList_eq, List.utf8Encode,
    List.toList_data_toByteArray]

theorem bytes_eq (s : String) : bytes s = s.toList.flatMap String.utf8EncodeChar := by
  rw [← bytes_ofList, String.ofList_toList]

@[simp] theorem bytes_append (s t : String) : bytes (s ++ t) = bytes s ++ bytes t := by
  rw [bytes_eq, bytes_eq, bytes_eq, String.toList_append, List.flatMap_append]

/-- The bytes of a text are read as the text. -/
theorem fromUTF8?_bytes (s : String) : String.fromUTF8? (bytes s).toByteArray = some s := by
  have whole : (bytes s).toByteArray = s.toByteArray := by
    rw [bytes_eq]
    exact String.utf8Encode_toList
  have valid : s.toByteArray.IsValidUTF8 := s.isValidUTF8
  rw [whole, String.fromUTF8?, dif_pos valid]
  rfl

/-- The byte of a character below 128. -/
def byte (c : Char) : UInt8 := UInt8.ofNat c.toNat

theorem byte_toNat {c : Char} (h : c.toNat < 128) : (byte c).toNat = c.toNat := by
  rw [byte, UInt8.toNat_ofNat']
  omega

theorem byte_inj {c d : Char} (hc : c.toNat < 128) (hd : d.toNat < 128) (h : byte c = byte d) :
    c = d := by
  have value := congrArg UInt8.toNat h
  rw [byte_toNat hc, byte_toNat hd] at value
  exact Char.ext (UInt32.toNat_inj.mp value)

theorem utf8EncodeChar_ascii {c : Char} (h : c.toNat < 128) :
    String.utf8EncodeChar c = [byte c] := by
  have small : c.val.toNat ≤ 0x7f := by
    have : c.toNat = c.val.toNat := rfl
    omega
  rw [String.utf8EncodeChar]
  exact if_pos small

theorem flatMap_ascii {cs : List Char} (h : ∀ c ∈ cs, c.toNat < 128) :
    cs.flatMap String.utf8EncodeChar = cs.map byte := by
  induction cs with
  | nil => rfl
  | cons c cs ih =>
    rw [List.flatMap_cons, utf8EncodeChar_ascii (h c (by simp)), ih fun d hd => h d (by simp [hd])]
    rfl

/-! ## Bytes below 128 -/

def SevenBit (bytes : List UInt8) : Prop := ∀ b ∈ bytes, b < 0x80

namespace SevenBit

variable {bs cs : List UInt8}

theorem nil : SevenBit [] := nofun

theorem cons {b : UInt8} (hb : b < 0x80) (h : SevenBit bs) : SevenBit (b :: bs) := by
  intro c hc
  rcases List.mem_cons.mp hc with rfl | hc
  · exact hb
  · exact h c hc

theorem append (h : SevenBit bs) (h' : SevenBit cs) : SevenBit (bs ++ cs) := by
  intro b hb
  rcases List.mem_append.mp hb with hb | hb
  · exact h b hb
  · exact h' b hb

theorem mono (h : SevenBit cs) (hbs : bs <+: cs) : SevenBit bs :=
  fun b hb => h b (hbs.subset hb)

/-- A byte below 128 is that of a character. -/
theorem byte_ofNat {b : UInt8} (h : b < 0x80) : byte (Char.ofNat b.toNat) = b ∧
    (Char.ofNat b.toNat).toNat < 128 := by
  have small : b.toNat < 128 := UInt8.lt_iff_toNat_lt.mp h
  have valid : b.toNat.isValidChar := .inl (by omega)
  have code : (Char.ofNat b.toNat).toNat = b.toNat := by
    rw [Char.ofNat, dif_pos valid]
    rfl
  exact ⟨by rw [byte, code, UInt8.ofNat_toNat], by omega⟩

/-- Bytes below 128 are a text. -/
theorem exists_text (h : SevenBit bs) : ∃ s, bytes s = bs := by
  refine ⟨String.ofList (bs.map fun b => Char.ofNat b.toNat), ?_⟩
  have ascii : ∀ c ∈ bs.map fun b => Char.ofNat b.toNat, c.toNat < 128 := by
    intro c hc
    obtain ⟨b, hb, rfl⟩ := List.mem_map.mp hc
    exact (byte_ofNat (h b hb)).2
  have same : ∀ b ∈ bs, byte (Char.ofNat b.toNat) = b := fun b hb => (byte_ofNat (h b hb)).1
  rw [bytes_ofList, flatMap_ascii ascii, List.map_map]
  exact (List.map_congr_left same).trans (List.map_id bs)

end SevenBit

/-- Characters below 128 have bytes below 128. -/
theorem sevenBit_bytes {s : String} (h : ∀ c ∈ s.toList, c.toNat < 128) : SevenBit (bytes s) := by
  rw [bytes_eq, flatMap_ascii h]
  intro b hb
  obtain ⟨c, hc, rfl⟩ := List.mem_map.mp hb
  rw [UInt8.lt_iff_toNat_lt, byte_toNat (h c hc)]
  exact h c hc

end CycleLedger.Text
