import CycleLedger.Proofs.Trace.Line

/-! # Entries told apart by their lines

A line is read from left to right: the clock ends before the first letter, numbers in hexadecimal
have eight places, and what may be missing begins with a letter of its own. So a line says all of
its entry but the channels, the size of the instruction, and an address of no data.
-/

namespace CycleLedger

namespace Text

/-! ## Pieces and what stands behind them -/

section

variable {xs ys rest rest' : List Char}

/-- A piece ends where the first character stands that it cannot hold. -/
theorem append_cons_inj {p : Char → Prop} (hxs : ∀ c ∈ xs, p c) (hys : ∀ c ∈ ys, p c) {c : Char}
    (hc : ¬p c) (h : xs ++ c :: rest = ys ++ c :: rest') : xs = ys ∧ rest = rest' := by
  induction xs generalizing ys with
  | nil =>
    cases ys with
    | nil => exact ⟨rfl, (List.cons.inj h).2⟩
    | cons y ys =>
      obtain ⟨rfl, -⟩ := List.cons.inj h
      exact absurd (hys c List.mem_cons_self) hc
  | cons x xs ih =>
    cases ys with
    | nil =>
      obtain ⟨rfl, -⟩ := List.cons.inj h
      exact absurd (hxs x List.mem_cons_self) hc
    | cons y ys =>
      obtain ⟨rfl, behind⟩ := List.cons.inj h
      obtain ⟨-, hxs⟩ := List.forall_mem_cons.mp hxs
      obtain ⟨-, hys⟩ := List.forall_mem_cons.mp hys
      obtain ⟨rfl, same⟩ := ih hxs hys behind
      exact ⟨rfl, same⟩

end

/-! ## Numbers in decimal -/

theorem toString_inj {n m : Nat} (h : (toString n).toList = (toString m).toList) : n = m := by
  have read := congrArg (Nat.ofDigitChars 10 · 0) h
  simpa only [toList_toString, Nat.ofDigitChars_ten_toDigits] using read

/-- The blanks of a field leave the number in it to be seen. -/
theorem field_toString_inj {n m width : Nat}
    (h : (field .right width none (toString n)).toList =
      (field .right width none (toString m)).toList) : n = m := by
  have number (k : Nat) :
      ((field .right width none (toString k)).toList.filter (· ≠ ' ')) = (toString k).toList := by
    have apart : ∀ c ∈ (toString k).toList, decide (c ≠ ' ') = true := by
      intro c hc
      have digit := isDigit_of_mem_toString hc
      refine decide_eq_true ?_
      rintro rfl
      cases digit
    simp only [field, pad, String.toList_ofList, List.filter_append, Nat.sub_self]
    rw [List.filter_eq_self.mpr apart]
    simp
  have seen := congrArg (List.filter (· ≠ ' ')) h
  rw [number, number] at seen
  exact toString_inj seen

/-! ## Numbers in hexadecimal -/

/-- What a digit of a number in hexadecimal counts. -/
def figure (c : Char) : Nat := if c.isDigit then c.toNat - 48 else c.toNat - 87

/-- The number that digits in hexadecimal say, behind those that say `n`. -/
def hexNumber (n : Nat) (digits : List Char) : Nat := digits.foldl (16 * · + figure ·) n

theorem hexNumber_append (n : Nat) (digits more : List Char) :
    hexNumber n (digits ++ more) = hexNumber (hexNumber n digits) more := List.foldl_append

theorem hexNumber_toDigits (n : Nat) : hexNumber 0 (Nat.toDigits 16 n) = n := by
  have digit : ∀ d < 16, figure (Nat.digitChar d) = d := by decide
  induction n using Nat.strongRecOn with
  | ind n ih =>
    rw [Nat.toDigits_eq_if (by decide)]
    split
    · next small => simp [hexNumber, digit n small]
    · next large =>
      have front : hexNumber 0 (Nat.toDigits 16 (n / 16)) = n / 16 := ih (n / 16) (by omega)
      rw [hexNumber_append, front, hexNumber, List.foldl_cons, List.foldl_nil,
        digit (n % 16) (by omega)]
      omega

theorem hexNumber_zeros (k : Nat) (digits : List Char) :
    hexNumber 0 (List.replicate k '0' ++ digits) = hexNumber 0 digits := by
  induction k with
  | zero => rfl
  | succ k ih => exact ih

theorem hexNumber_hex8 (n : UInt32) : hexNumber 0 (hex8 n).toList = n.toNat := by
  simp only [hex8, pad, String.toList_ofList, Nat.sub_self, List.replicate_zero, List.append_nil]
  rw [hexNumber_zeros, hexNumber_toDigits]

theorem length_hex8 (n : UInt32) : (hex8 n).toList.length = 8 := by
  have small : n.toNat < 16 ^ 8 := n.toNat_lt
  have short : (Nat.toDigits 16 n.toNat).length ≤ 8 :=
    (Nat.length_toDigits_le_iff (by decide) (by decide)).mpr small
  simp only [hex8, pad, String.toList_ofList, List.length_append, List.length_replicate]
  omega

theorem hex8_inj {n m : UInt32} (h : (hex8 n).toList = (hex8 m).toList) : n = m := by
  have read := congrArg (hexNumber 0) h
  rw [hexNumber_hex8, hexNumber_hex8] at read
  exact UInt32.toNat_inj.mp read

theorem hex8_append_inj {n m : UInt32} {rest rest' : List Char}
    (h : (hex8 n).toList ++ rest = (hex8 m).toList ++ rest') : n = m ∧ rest = rest' := by
  obtain ⟨same, behind⟩ := List.append_inj h (by rw [length_hex8, length_hex8])
  exact ⟨hex8_inj same, behind⟩

end Text

open Text

theorem Outcome.tag_inj {o o' : Outcome} (h : o.tag = o'.tag) : o = o' := by
  cases o <;> cases o' <;> first | rfl | cases h

namespace TraceEntry

/--
The entries agree in all that a line shows: an address belongs to it only if there is data, and the
channels and the size of the instruction never do.
-/
structure ShownAlike (e e' : TraceEntry) : Prop where
  clock : e.clock = e'.clock
  pc : e.pc = e'.pc
  instruction : e.instruction = e'.instruction
  stackPointer : e.stackPointer = e'.stackPointer
  nextPc? : e.nextPc? = e'.nextPc?
  taken : e.taken = e'.taken
  dataSize : e.dataSize = e'.dataSize
  dataAddress : e.dataSize ≠ 0 → e.dataAddress = e'.dataAddress
  fetchOutcome : e.fetchOutcome = e'.fetchOutcome
  dataOutcome : e.dataOutcome = e'.dataOutcome
  predictionOutcome : e.predictionOutcome = e'.predictionOutcome

variable {e e' : TraceEntry}

theorem ShownAlike.line_eq (h : e.ShownAlike e') : e.line = e'.line := by
  have next : e.nextText = e'.nextText := by rw [nextText, h.nextPc?, nextText]
  have data : (if e.dataSize = 0 then "" else
        "  dmem " ++ hex8 e.dataAddress ++ "/" ++ toString e.dataSize) =
      if e'.dataSize = 0 then "" else
        "  dmem " ++ hex8 e'.dataAddress ++ "/" ++ toString e'.dataSize := by
    by_cases none : e.dataSize = 0
    · rw [if_pos none, if_pos (h.dataSize ▸ none)]
    · rw [if_neg none, if_neg (h.dataSize ▸ none), h.dataAddress none, h.dataSize]
  unfold line
  rw [next, data, h.clock, h.pc, h.instruction, h.stackPointer, h.taken, h.fetchOutcome,
    h.dataOutcome, h.predictionOutcome]

/-! ## What a line is made of -/

/-- The end of the line: the three outcomes. -/
def outcomeChars (e : TraceEntry) : List Char :=
  [' ', ' ', 'i', 'c', ':', e.fetchOutcome.tag, ' ', 'd', 'c', ':', e.dataOutcome.tag, ' ', 'b',
    'p', ':', e.predictionOutcome.tag]

/-- The access to data, and what stands behind it. -/
def dataChars (e : TraceEntry) : List Char :=
  if e.dataSize = 0 then e.outcomeChars
  else [' ', ' ', 'd', 'm', 'e', 'm', ' '] ++ ((hex8 e.dataAddress).toList ++
    '/' :: ((toString e.dataSize.toNat).toList ++ e.outcomeChars))

/-- The mark of a branch that is taken, and what stands behind it. -/
def branchChars (e : TraceEntry) : List Char :=
  if e.taken then [' ', ' ', 'T'] ++ e.dataChars else e.dataChars

theorem toList_line (e : TraceEntry) : e.line.toList =
    (field .right 10 none (toString e.clock.toNat)).toList ++ ([' ', ' ', 'p', 'c', ' '] ++
      ((hex8 e.pc).toList ++ ([' ', ' ', 'i', 'n', 's', 't', ' '] ++
        ((hex8 e.instruction).toList ++ ([' ', ' ', 's', 'p', ' '] ++
          ((hex8 e.stackPointer).toList ++ ([' ', ' ', 'n', 'e', 'x', 't', ' '] ++
            (e.nextText.toList ++ e.branchChars)))))))) := by
  have size : toString e.dataSize = toString e.dataSize.toNat := rfl
  have clock : toString e.clock = toString e.clock.toNat := rfl
  unfold line
  simp only [branchChars, dataChars, outcomeChars, size, clock]
  split <;> split <;> simp [Char.toString]

/-! ## Reading the line -/

section

variable {rest rest' : List Char}

theorem dash_notMem_hex8 (n : UInt32) : '-' ∉ (hex8 n).toList := by
  have digit : ∀ d < 16, '-' ≠ Nat.digitChar d := by decide
  intro found
  obtain ⟨d, small, same⟩ := mem_hex8 found
  exact digit d small same

theorem length_nextText (e : TraceEntry) : e.nextText.toList.length = 8 := by
  rw [nextText]
  cases e.nextPc? with
  | none => decide
  | some next => exact length_hex8 next

/-- A program counter that is not known shows dashes, and one that is known never does. -/
theorem dash_mem_nextText (e : TraceEntry) : '-' ∈ e.nextText.toList ↔ e.nextPc? = none := by
  rw [nextText]
  cases e.nextPc? with
  | none => simp
  | some next => simp [dash_notMem_hex8]

theorem nextText_inj (h : e.nextText.toList = e'.nextText.toList) : e.nextPc? = e'.nextPc? := by
  have known : e.nextPc? = none ↔ e'.nextPc? = none := by
    rw [← dash_mem_nextText, ← dash_mem_nextText, h]
  cases next : e.nextPc? with
  | none => exact (known.mp next).symm
  | some n =>
    cases next' : e'.nextPc? with
    | none => exact next.symm.trans (known.mpr next')
    | some m =>
      simp only [nextText, next, next'] at h
      rw [hex8_inj h]

theorem outcomeChars_inj (h : e.outcomeChars = e'.outcomeChars) :
    e.fetchOutcome = e'.fetchOutcome ∧ e.dataOutcome = e'.dataOutcome ∧
      e.predictionOutcome = e'.predictionOutcome := by
  simp only [outcomeChars, List.cons.injEq, true_and, and_true] at h
  exact ⟨Outcome.tag_inj h.1, Outcome.tag_inj h.2.1, Outcome.tag_inj h.2.2⟩

/-- The size ends before the blank that the outcomes begin with. -/
theorem size_append_inj {n m : Nat}
    (h : (toString n).toList ++ e.outcomeChars = (toString m).toList ++ e'.outcomeChars) :
    n = m ∧ e.outcomeChars = e'.outcomeChars := by
  rw [outcomeChars, outcomeChars] at h ⊢
  obtain ⟨same, behind⟩ := append_cons_inj (p := fun c => c.isDigit = true)
    (fun _ => isDigit_of_mem_toString) (fun _ => isDigit_of_mem_toString) (by decide) h
  exact ⟨toString_inj same, by rw [behind]⟩

theorem dataChars_inj (h : e.dataChars = e'.dataChars) :
    e.dataSize = e'.dataSize ∧ (e.dataSize ≠ 0 → e.dataAddress = e'.dataAddress) ∧
      e.outcomeChars = e'.outcomeChars := by
  rw [dataChars, dataChars] at h
  by_cases none : e.dataSize = 0 <;> by_cases none' : e'.dataSize = 0
  · rw [if_pos none, if_pos none'] at h
    exact ⟨none.trans none'.symm, fun some => absurd none some, h⟩
  · rw [if_pos none, if_neg none'] at h
    simp [outcomeChars] at h
  · rw [if_neg none, if_pos none'] at h
    simp [outcomeChars] at h
  · rw [if_neg none, if_neg none'] at h
    obtain ⟨address, behind⟩ := hex8_append_inj (List.append_cancel_left h)
    obtain ⟨size, outcomes⟩ := size_append_inj (List.cons.inj behind).2
    exact ⟨UInt8.toNat_inj.mp size, fun _ => address, outcomes⟩

/-- Neither data nor outcomes begin like the mark of a branch. -/
theorem dataChars_ne_mark (e : TraceEntry) (rest : List Char) :
    e.dataChars ≠ [' ', ' ', 'T'] ++ rest := by
  rw [dataChars]
  split <;> simp [outcomeChars]

theorem branchChars_inj (h : e.branchChars = e'.branchChars) :
    e.taken = e'.taken ∧ e.dataChars = e'.dataChars := by
  rw [branchChars, branchChars] at h
  cases taken : e.taken <;> cases taken' : e'.taken <;> rw [taken, taken'] at h
  · exact ⟨rfl, h⟩
  · exact absurd h (e.dataChars_ne_mark _)
  · exact absurd h.symm (e'.dataChars_ne_mark _)
  · exact ⟨rfl, List.append_cancel_left h⟩

/-- The clock ends before the letter that the program counter is named by. -/
theorem clock_append_inj {n m : Nat}
    (h : (field .right 10 none (toString n)).toList ++ ([' ', ' ', 'p', 'c', ' '] ++ rest) =
      (field .right 10 none (toString m)).toList ++ ([' ', ' ', 'p', 'c', ' '] ++ rest')) :
    n = m ∧ rest = rest' := by
  have piece (k : Nat) : ∀ c ∈ (field .right 10 none (toString k)).toList ++ [' ', ' '],
      c ≠ 'p' := by
    intro c hc
    rcases List.mem_append.mp hc with hc | hc
    · rcases mem_field hc with rfl | number
      · decide
      · rintro rfl
        cases isDigit_of_mem_toString number
    · simp only [List.mem_cons, List.not_mem_nil, or_false, or_self] at hc
      rw [hc]
      decide
  have split (k : Nat) (behind : List Char) :
      (field .right 10 none (toString k)).toList ++ ([' ', ' ', 'p', 'c', ' '] ++ behind) =
        ((field .right 10 none (toString k)).toList ++ [' ', ' ']) ++
          'p' :: 'c' :: ' ' :: behind := by simp
  rw [split, split] at h
  obtain ⟨same, behind⟩ := append_cons_inj (p := (· ≠ 'p')) (piece n) (piece m) (by simp) h
  exact ⟨field_toString_inj (List.append_cancel_right same), by simpa using behind⟩

end

/-- Two entries have the same line exactly if they agree in all that it shows. -/
theorem line_eq_iff_shownAlike : e.line = e'.line ↔ e.ShownAlike e' := by
  refine ⟨fun same => ?_, ShownAlike.line_eq⟩
  have chars := congrArg String.toList same
  rw [toList_line, toList_line] at chars
  obtain ⟨clock, chars⟩ := clock_append_inj chars
  obtain ⟨pc, chars⟩ := hex8_append_inj chars
  obtain ⟨instruction, chars⟩ := hex8_append_inj (List.append_cancel_left chars)
  obtain ⟨stackPointer, chars⟩ := hex8_append_inj (List.append_cancel_left chars)
  obtain ⟨next, chars⟩ := List.append_inj (List.append_cancel_left chars)
    (by rw [length_nextText, length_nextText])
  obtain ⟨taken, chars⟩ := branchChars_inj chars
  obtain ⟨dataSize, dataAddress, chars⟩ := dataChars_inj chars
  obtain ⟨fetchOutcome, dataOutcome, predictionOutcome⟩ := outcomeChars_inj chars
  exact
    { clock := UInt64.toNat_inj.mp clock
      pc := pc
      instruction := instruction
      stackPointer := stackPointer
      nextPc? := nextText_inj next
      taken := taken
      dataSize := dataSize
      dataAddress := dataAddress
      fetchOutcome := fetchOutcome
      dataOutcome := dataOutcome
      predictionOutcome := predictionOutcome }

end TraceEntry

end CycleLedger
