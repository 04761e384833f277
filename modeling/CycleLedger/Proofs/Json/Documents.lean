import CycleLedger.Proofs.Json.Rejection

/-! # Documents read from bytes

The bytes that a value is written with are read as the value, blanks behind them or not. Of a record
no proper beginning of them is read as anything: the end is found missing, and nothing else wrong.
Where all keys and names are ASCII and no text is free, so is the document.
-/

namespace CycleLedger.Json

namespace Shape

variable {spacing : Spacing} (hspacing : spacing.Blank)

include hspacing

theorem readBytes_laid {s : Shape} (hs : s.faithful = true) {c : s.Carrier} (hc : s.Finite c)
    {blanks : List UInt8} (blank : ∀ b ∈ blanks, Ascii.isBlank b = true) :
    s.readBytes ((s.encode c).laid spacing 0 ++ blanks) = .ok c := by
  rw [readBytes, Document.ofBytes_laid hspacing _ blank, read, decode_encode .null s hs c hc]
  rfl

theorem readBytes_cut {name : String} {ms : Members} (hs : ms.faithful = true) {c : ms.Carrier}
    (hc : ms.Finite c) {p : List UInt8} (hp : p <+: ((record name ms).encode c).laid spacing 0)
    (hne : p ≠ ((record name ms).encode c).laid spacing 0) :
    (record name ms).readBytes p = .error (.fault .truncated) := by
  obtain ⟨m, cut, hm⟩ := Document.ofBytes_cut hspacing _ hp hne
  rw [readBytes, hm, read, decode_record_cut .null hs hc cut]
  rfl

end Shape

/-! ## Documents in ASCII -/

open Text

theorem Numeral.Parts.Proper.sevenBit {p : Parts} (h : p.Proper) : SevenBit p.bytes := by
  have digits {ds : List UInt8} (hds : ∀ d ∈ ds, Ascii.isDigit d = true) : SevenBit ds := by
    intro d hd
    have range : Ascii.zero ≤ d ∧ d ≤ 0x39 := by simpa [Ascii.isDigit] using hds d hd
    exact UInt8.lt_of_le_of_lt range.2 (by decide)
  have sign : SevenBit p.signBytes := by
    rw [signBytes]
    split_ifs
    · exact .cons (by decide) .nil
    · exact .nil
  have fraction : SevenBit p.fractionBytes := by
    rw [fractionBytes]
    split_ifs
    · exact .nil
    · exact .cons (by decide) (digits h.fraction)
  have power : SevenBit p.powerBytes := by
    rw [powerBytes]
    cases hp : p.power? with
    | none => exact .nil
    | some q =>
      refine .cons (by decide) (.cons ?_ (digits (h.power q hp).digits))
      split_ifs <;> decide
  exact sign.append ((digits h.whole).append (fraction.append power))

/-- The text has only characters below 128. -/
def isAscii (s : String) : Bool := s.toList.all (·.toNat < 128)

theorem escapedChar_ascii {c : Char} (h : c.toNat < 128) : ∀ d ∈ escapedChar c, d.toNat < 128 := by
  have table : (List.range 128).all (fun n =>
      (escapedChar (Char.ofNat n)).all (·.toNat < 128)) = true := by decide +kernel
  have escape := List.all_eq_true.mp table c.toNat (List.mem_range.mpr h)
  simpa using escape

theorem sevenBit_textText {s : String} (h : isAscii s = true) :
    SevenBit (Text.bytes (textText s)) := by
  have ascii : ∀ c ∈ s.toList, c.toNat < 128 := by simpa [isAscii] using h
  refine Text.sevenBit_bytes fun c hc => ?_
  simp only [textText, String.toList_ofList, List.cons_append, List.mem_cons, List.mem_append,
    List.mem_flatMap, List.not_mem_nil, or_false] at hc
  rcases hc with rfl | ⟨d, hd, hc⟩ | rfl
  · decide
  · exact escapedChar_ascii (ascii d hd) c hc
  · decide

mutual

/-- Nothing but ASCII is written of values of the shape. -/
def Shape.ascii : Shape → Bool
  | .flag | .word _ _ | .real => true
  | .text _ => false
  | .choice names => names.all isAscii
  | .nullable s => s.ascii
  | .record _ members => members.ascii
  | .row _ _ members => members.ascii

def Members.ascii : Members → Bool
  | .nil => true
  | .cons key _ s rest => isAscii key && s.ascii && rest.ascii

end

namespace Value

/-- The bytes of the value are below 128 wherever it stands. -/
def SevenBit (s : Spacing) (v : Value) : Prop := ∀ level, Text.SevenBit (v.laid s level)

variable {s : Spacing}

theorem sevenBit_word {w : String} (h : isAscii w = true) : Text.SevenBit (Text.bytes w) :=
  Text.sevenBit_bytes (by simpa [isAscii] using h)

theorem sevenBit_flag (b : Bool) : (flag b).SevenBit s := by
  intro level
  rw [laid]
  cases b <;> exact sevenBit_word (by decide)

theorem sevenBit_integer (n : Int) : (integer n).SevenBit s := by
  intro level
  rw [laid, ← Numeral.Parts.ofInt_bytes]
  exact (Numeral.Parts.ofInt_proper n).sevenBit

theorem sevenBit_null : null.SevenBit s := by
  intro level
  rw [laid]
  exact sevenBit_word (by decide)

theorem sevenBit_real {x : Binary64} (h : x.isFinite = true) : (real x).SevenBit s := by
  intro level
  rw [laid, ← Numeral.Parts.ofReal_bytes h]
  exact (Numeral.Parts.ofReal_proper x).sevenBit

theorem sevenBit_text {t : String} (h : isAscii t = true) : (text t).SevenBit s := by
  intro level
  rw [laid]
  exact sevenBit_textText h

theorem sevenBit_blanks {blanks : List UInt8} (h : ∀ b ∈ blanks, Ascii.isBlank b = true) :
    Text.SevenBit blanks := by
  intro b hb
  have which : ((b = Ascii.space ∨ b = Ascii.lineFeed) ∨ b = Ascii.tab) ∨
      b = Ascii.carriageReturn := by
    simpa [Ascii.isBlank] using h b hb
  rcases which with ((rfl | rfl) | rfl) | rfl <;> decide

variable (hs : s.Blank)

include hs

theorem sevenBit_laidItems {items : List Value} (h : ∀ item ∈ items, item.SevenBit s)
    (level : Nat) : Text.SevenBit (laidItems s level items) := by
  induction items with
  | nil => exact .nil
  | cons item items ih =>
    obtain ⟨first, others⟩ := List.forall_mem_cons.mp h
    rw [laidItems]
    exact .cons (by decide) ((sevenBit_blanks (hs.line level)).append
      ((first level).append (ih others)))

theorem sevenBit_list {items : List Value} (h : ∀ item ∈ items, item.SevenBit s) :
    (list items).SevenBit s := by
  intro level
  cases items with
  | nil =>
    rw [laid]
    exact .cons (by decide) (.cons (by decide) .nil)
  | cons item items =>
    obtain ⟨first, others⟩ := List.forall_mem_cons.mp h
    have closing : Text.SevenBit (s.line level ++ [Ascii.closeBracket]) :=
      (sevenBit_blanks (hs.line level)).append (.cons (by decide) .nil)
    rw [laid]
    exact .cons (by decide) ((sevenBit_blanks (hs.line (level + 1))).append
      ((first (level + 1)).append ((sevenBit_laidItems hs others (level + 1)).append closing)))

theorem sevenBit_laidMembers {members : List (String × Value)}
    (h : ∀ pair ∈ members, isAscii pair.1 = true ∧ pair.2.SevenBit s) (level : Nat) :
    Text.SevenBit (laidMembers s level members) := by
  induction members with
  | nil => exact .nil
  | cons pair members ih =>
    obtain ⟨⟨named, first⟩, others⟩ := List.forall_mem_cons.mp h
    rw [laidMembers]
    exact .cons (by decide) ((sevenBit_blanks (hs.line level)).append
      ((sevenBit_textText named).append (.cons (by decide) ((sevenBit_blanks hs.gap).append
        ((first level).append (ih others))))))

theorem sevenBit_object {members : List (String × Value)}
    (h : ∀ pair ∈ members, isAscii pair.1 = true ∧ pair.2.SevenBit s) :
    (object members).SevenBit s := by
  intro level
  cases members with
  | nil =>
    rw [laid]
    exact .cons (by decide) (.cons (by decide) .nil)
  | cons pair members =>
    obtain ⟨⟨named, first⟩, others⟩ := List.forall_mem_cons.mp h
    have closing : Text.SevenBit (s.line level ++ [Ascii.closeBrace]) :=
      (sevenBit_blanks (hs.line level)).append (.cons (by decide) .nil)
    rw [laid]
    exact .cons (by decide) ((sevenBit_blanks (hs.line (level + 1))).append
      ((sevenBit_textText named).append (.cons (by decide) ((sevenBit_blanks hs.gap).append
        ((first (level + 1)).append
          ((sevenBit_laidMembers hs others (level + 1)).append closing))))))

end Value

mutual

theorem Shape.sevenBit_encode {spacing : Spacing} (hspacing : spacing.Blank) : (s : Shape) →
    s.ascii = true → (c : s.Carrier) → (s.encode c).SevenBit spacing
  | .flag, _, c => Value.sevenBit_flag c
  | .word bits _, _, c => Value.sevenBit_integer _
  | .real, _, c => by
    rw [Shape.encode]
    split_ifs with finite
    · exact Value.sevenBit_real finite
    · exact Value.sevenBit_null
  | .text _, hs, _ => by simp [Shape.ascii] at hs
  | .choice names, hs, c => by
    have named : ∀ name ∈ names, isAscii name = true := by simpa [Shape.ascii] using hs
    exact Value.sevenBit_text (named _ (List.get_mem names c))
  | .nullable s, hs, c => by
    match c with
    | none => exact Value.sevenBit_null
    | some w => exact Shape.sevenBit_encode hspacing s hs w
  | .record _ ms, hs, c => Value.sevenBit_object hspacing (Members.sevenBit_encode hspacing ms hs c)
  | .row _ _ ms, hs, c => by
    refine Value.sevenBit_list hspacing fun item hitem => ?_
    obtain ⟨pair, hpair, rfl⟩ := List.mem_map.mp hitem
    exact (Members.sevenBit_encode hspacing ms hs c pair hpair).2

theorem Members.sevenBit_encode {spacing : Spacing} (hspacing : spacing.Blank) : (ms : Members) →
    ms.ascii = true → (v : ms.Carrier) → ∀ pair ∈ ms.encode v,
    isAscii pair.1 = true ∧ pair.2.SevenBit spacing
  | .nil, _, _, pair, h => by cases h
  | .cons key presence s rest, hs, v, pair, h => by
    obtain ⟨⟨named, ascii⟩, others⟩ : (isAscii key = true ∧ s.ascii = true) ∧
        rest.ascii = true := by
      simpa [Members.ascii] using hs
    match presence, v, h with
    | .required, v, h =>
      rcases List.mem_cons.mp h with rfl | h
      · exact ⟨named, s.sevenBit_encode hspacing ascii v.1⟩
      · exact rest.sevenBit_encode hspacing others v.2 pair h
    | .preset, (none, more), h => exact rest.sevenBit_encode hspacing others more pair h
    | .preset, (some w, more), h =>
      rcases List.mem_cons.mp h with rfl | h
      · exact ⟨named, s.sevenBit_encode hspacing ascii w⟩
      · exact rest.sevenBit_encode hspacing others more pair h

end

end CycleLedger.Json
