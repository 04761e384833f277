import CycleLedger.Proofs.Text.Clauses
import CycleLedger.TraceEntry

/-! # Lines of trace entries

An entry is shown as one line: none of its fields can put a line feed into it.
-/

namespace CycleLedger

namespace Text

/-- The text does not go on behind a line feed. -/
def OneLine (s : String) : Prop := '\n' ∉ s.toList

instance (s : String) : Decidable (OneLine s) := inferInstanceAs (Decidable ('\n' ∉ s.toList))

theorem OneLine.append {s t : String} (hs : OneLine s) (ht : OneLine t) : OneLine (s ++ t) := by
  simpa [OneLine] using ⟨hs, ht⟩

theorem toList_toString (n : Nat) : (toString n).toList = Nat.toDigits 10 n := by simp

theorem isDigit_of_mem_toString {n : Nat} {c : Char} (h : c ∈ (toString n).toList) :
    c.isDigit = true := by
  rw [toList_toString] at h
  exact Nat.isDigit_of_mem_toDigits (by decide) (by decide) h

theorem oneLine_toString (n : Nat) : OneLine (toString n) := fun found =>
  ne_lineFeed_of_isPlain (isPlain_of_isDigit (isDigit_of_mem_toString found)) rfl

/-- A numeral is made of the digits of its base. -/
theorem mem_toDigits {b n : Nat} (hb : 1 < b) {c : Char} (h : c ∈ Nat.toDigits b n) :
    ∃ d < b, c = Nat.digitChar d := by
  induction n using Nat.strongRecOn with
  | ind n ih =>
    rw [Nat.toDigits_eq_if hb] at h
    split at h
    · next small => exact ⟨n, small, List.mem_singleton.mp h⟩
    · next large =>
      have shorter : n / b < n := Nat.div_lt_self (by omega) hb
      rcases List.mem_append.mp h with front | last
      · exact ih (n / b) shorter front
      · exact ⟨n % b, Nat.mod_lt n (by omega), List.mem_singleton.mp last⟩

theorem mem_hex8 {n : UInt32} {c : Char} (h : c ∈ (hex8 n).toList) :
    ∃ d < 16, c = Nat.digitChar d := by
  simp only [hex8, pad, String.toList_ofList, List.mem_append, List.mem_replicate] at h
  rcases h with (⟨-, zero⟩ | number) | ⟨-, zero⟩
  · exact ⟨0, by decide, zero⟩
  · exact mem_toDigits (by decide) number
  · exact ⟨0, by decide, zero⟩

theorem oneLine_hex8 (n : UInt32) : OneLine (hex8 n) := by
  have digit : ∀ d < 16, '\n' ≠ Nat.digitChar d := by decide
  intro found
  obtain ⟨d, small, same⟩ := mem_hex8 found
  exact digit d small same

/-- A field holds blanks besides its text. -/
theorem mem_field {alignment : Alignment} {width : Nat} {s : String} {c : Char}
    (h : c ∈ (field alignment width none s).toList) : c = ' ' ∨ c ∈ s.toList := by
  simp only [field, pad, String.toList_ofList, List.mem_append, List.mem_replicate] at h
  rcases h with (⟨-, blank⟩ | text) | ⟨-, blank⟩
  · exact .inl blank
  · exact .inr text
  · exact .inl blank

theorem oneLine_field {s : String} (h : OneLine s) (alignment : Alignment) (width : Nat) :
    OneLine (field alignment width none s) := by
  intro found
  rcases mem_field found with same | text
  · cases same
  · exact h text

end Text

open Text

theorem Outcome.oneLine_tag (o : Outcome) : OneLine o.tag.toString := by
  cases o <;> decide

theorem TraceEntry.oneLine_line (e : TraceEntry) : OneLine e.line := by
  have clock : OneLine (field .right 10 none (toString e.clock)) :=
    oneLine_field (oneLine_toString e.clock.toNat) .right 10
  have next : OneLine e.nextText := by
    rw [nextText]
    cases e.nextPc? with
    | none => decide
    | some next => exact oneLine_hex8 next
  have taken : OneLine (if e.taken then "  T" else "") := by
    cases e.taken <;> decide
  have address : OneLine ("  dmem " ++ hex8 e.dataAddress) :=
    .append (by decide) (oneLine_hex8 e.dataAddress)
  have data : OneLine (if e.dataSize = 0 then "" else
      "  dmem " ++ hex8 e.dataAddress ++ "/" ++ toString e.dataSize) := by
    split
    · decide
    · exact (address.append (by decide)).append (oneLine_toString e.dataSize.toNat)
  have numbers : OneLine (field .right 10 none (toString e.clock) ++ "  pc " ++ hex8 e.pc ++
      "  inst " ++ hex8 e.instruction ++ "  sp " ++ hex8 e.stackPointer) :=
    clock.append (by decide) |>.append (oneLine_hex8 e.pc)
      |>.append (by decide) |>.append (oneLine_hex8 e.instruction)
      |>.append (by decide) |>.append (oneLine_hex8 e.stackPointer)
  have events := numbers.append (by decide : OneLine "  next ") |>.append next |>.append taken
    |>.append data
  exact events.append (by decide) |>.append e.fetchOutcome.oneLine_tag
    |>.append (by decide) |>.append e.dataOutcome.oneLine_tag
    |>.append (by decide) |>.append e.predictionOutcome.oneLine_tag

end CycleLedger
