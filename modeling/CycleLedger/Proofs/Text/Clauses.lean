import Mathlib.Tactic.SplitIfs
import CycleLedger.Metric

/-! # Numbers stated in a text

A text is cut into lines, and a line into clauses at its commas and colons. A clause that is a blank
and digits states a number. From a line made of words, counts and ratios exactly the counts are read
back, in order.
-/

namespace CycleLedger

namespace Text

/-- The lines of a text, of which the last one may be ended or not. -/
def lines (text : List Char) : List (List Char) :=
  let pieces := text.splitOnP (· == '\n')
  if pieces.getLast? = some [] then pieces.dropLast else pieces

/-- What separates the clauses of a line. -/
def isMark (c : Char) : Bool := c == ',' || c == ':'

/-- The number that a clause states. -/
def numeral? : List Char → Option Nat
  | ' ' :: digits =>
    if digits ≠ [] ∧ digits.all (·.isDigit) then some (Nat.ofDigitChars 10 digits 0) else none
  | _ => none

/-- The numbers that a line states. -/
def numbers (line : List Char) : List Nat := (line.splitOnP isMark).filterMap numeral?

/-- A character that ends neither a clause nor a line. -/
def isPlain (c : Char) : Bool := !isMark c && c != '\n'

theorem isMark_of_isPlain {c : Char} (h : isPlain c = true) : isMark c = false := by
  simp only [isPlain, Bool.and_eq_true, Bool.not_eq_true'] at h
  exact h.1

theorem ne_lineFeed_of_isPlain {c : Char} (h : isPlain c = true) : c ≠ '\n' := by
  simp only [isPlain, Bool.and_eq_true, bne_iff_ne] at h
  exact h.2

theorem isPlain_of_isDigit {c : Char} (h : c.isDigit = true) : isPlain c = true := by
  have digit (d : Char) (hd : d.isDigit = false) : c ≠ d := by
    rintro rfl
    rw [h] at hd
    cases hd
  simp [isPlain, isMark, digit ',' rfl, digit ':' rfl, digit '\n' rfl]

theorem splitOnP_flatMap {ls : List (List Char)} (h : ∀ l ∈ ls, '\n' ∉ l) :
    (ls.flatMap (· ++ ['\n'])).splitOnP (· == '\n') = ls ++ [[]] := by
  induction ls with
  | nil => rfl
  | cons l ls ih =>
    obtain ⟨first, others⟩ := List.forall_mem_cons.mp h
    have apart : ∀ c ∈ l, (c == '\n') = false := by
      intro c hc
      exact beq_false_of_ne fun same => first (same ▸ hc)
    rw [List.flatMap_cons, List.append_assoc, List.singleton_append,
      List.splitOnP_append_cons_of_forall_mem apart '\n' rfl, ih others, List.cons_append]

/-- Lines that are ended one after the other are the lines of the text. -/
theorem lines_flatMap {ls : List (List Char)} (h : ∀ l ∈ ls, '\n' ∉ l) :
    lines (ls.flatMap (· ++ ['\n'])) = ls := by
  simp [lines, splitOnP_flatMap h]

theorem numeral?_toDigits (n : Nat) : numeral? (' ' :: Nat.toDigits 10 n) = some n := by
  have digits : (Nat.toDigits 10 n).all (·.isDigit) = true := by
    rw [List.all_eq_true]
    intro c hc
    exact Nat.isDigit_of_mem_toDigits (by decide) (by decide) hc
  have some : Nat.toDigits 10 n ≠ [] := Nat.toDigits_ne_nil
  rw [numeral?, if_pos ⟨some, digits⟩, Nat.ofDigitChars_ten_toDigits]

/-- A character that is no digit keeps a clause from being a number. -/
theorem numeral?_eq_none {cs : List Char} {c : Char} (hc : c ∈ cs) (h : c.isDigit = false) :
    numeral? (' ' :: cs) = none := by
  have mixed : ¬cs.all (·.isDigit) = true := by
    intro all
    rw [List.all_eq_true] at all
    rw [all c hc] at h
    cases h
  rw [numeral?, if_neg fun both => mixed both.2]

end Text

/-! ## Ratios of three places -/

namespace Binary64

/-- A double with places is written with digits, a point and at most a sign. -/
theorem fixed_chars (x : Binary64) {places : Nat} (hplaces : places ≠ 0) :
    (∀ c ∈ (x.fixed places).toList, c.isDigit = true ∨ c = '-' ∨ c = '.') ∧
      '.' ∈ (x.fixed places).toList := by
  unfold fixed signed
  extract_lets digits padded whole
  have figures : ∀ c ∈ padded, c.isDigit = true := by
    intro c hc
    rcases List.mem_append.mp hc with hc | hc
    · rw [List.eq_of_mem_replicate hc]
      rfl
    · exact Nat.isDigit_of_mem_toDigits (by decide) (by decide) hc
  have chars : ∀ c ∈ padded.take whole ++ '.' :: padded.drop whole, c.isDigit = true ∨ c = '.' := by
    intro c hc
    rcases List.mem_append.mp hc with hc | hc
    · exact .inl (figures c (List.mem_of_mem_take hc))
    · rcases List.mem_cons.mp hc with rfl | hc
      · exact .inr rfl
      · exact .inl (figures c (List.mem_of_mem_drop hc))
  rw [if_neg hplaces, String.toList_ofList]
  by_cases negative : x.isNegative = true
  · rw [if_pos negative]
    constructor
    · intro c hc
      rcases List.mem_cons.mp hc with rfl | hc
      · exact .inr (.inl rfl)
      · exact (chars c hc).imp_right .inr
    · simp
  · rw [if_neg negative]
    exact ⟨fun c hc => (chars c hc).imp_right .inr, by simp⟩

end Binary64

namespace Metric

theorem brief_chars (m : Metric) : (∀ c ∈ m.brief.toList, Text.isPlain c = true) ∧
    ∃ c ∈ m.brief.toList, c.isDigit = false := by
  have word (s : String) (plain : s.toList.all Text.isPlain = true)
      (letter : s.toList.any (!·.isDigit) = true) :
      (∀ c ∈ s.toList, Text.isPlain c = true) ∧ ∃ c ∈ s.toList, c.isDigit = false := by
    exact ⟨List.all_eq_true.mp plain, by simpa using letter⟩
  cases m with
  | undefined => exact word "undefined" rfl rfl
  | value x =>
    rw [brief, text]
    split_ifs with finite
    · obtain ⟨chars, point⟩ := x.fixed_chars (by decide : 3 ≠ 0)
      refine ⟨fun c hc => ?_, '.', point, rfl⟩
      rcases chars c hc with digit | rfl | rfl
      · exact Text.isPlain_of_isDigit digit
      · rfl
      · rfl
    · rw [Binary64.nonFiniteText]
      split_ifs
      · exact word "NaN" rfl rfl
      · exact word "-inf" rfl rfl
      · exact word "inf" rfl rfl

end Metric

/-! ## Lines of clauses -/

namespace Text

inductive Clause where
  | words (s : String)
  | count (n : UInt64)
  /-- a ratio of three places, and words behind it -/
  | ratio (m : Metric) (behind : String)

namespace Clause

def chars : Clause → List Char
  | words s => s.toList
  | count n => ' ' :: (toString n).toList
  | ratio m behind => ' ' :: (m.brief.toList ++ behind.toList)

def count? : Clause → Option UInt64
  | count n => some n
  | _ => none

/-- Words hold no mark, and no clause of words alone is a number. -/
def plain : Clause → Bool
  | words s => s.toList.all isPlain && (numeral? s.toList).isNone
  | count _ => true
  | ratio _ behind => behind.toList.all isPlain

@[simp] theorem chars_words (s : String) : (words s).chars = s.toList := rfl

@[simp] theorem chars_count (n : UInt64) : (count n).chars = ' ' :: (toString n).toList := rfl

@[simp] theorem chars_ratio (m : Metric) (behind : String) :
    (ratio m behind).chars = ' ' :: (m.brief.toList ++ behind.toList) := rfl

theorem toList_count (n : UInt64) : (toString n).toList = Nat.toDigits 10 n.toNat := by
  show (toString n.toNat).toList = _
  simp

variable {c : Clause}

theorem isPlain_chars (h : c.plain = true) : ∀ x ∈ c.chars, isPlain x = true := by
  intro x hx
  cases c with
  | words s =>
    simp only [plain, Bool.and_eq_true, List.all_eq_true] at h
    exact h.1 x hx
  | count n =>
    rw [chars, toList_count] at hx
    rcases List.mem_cons.mp hx with rfl | hx
    · rfl
    · exact isPlain_of_isDigit (Nat.isDigit_of_mem_toDigits (by decide) (by decide) hx)
  | ratio m behind =>
    simp only [plain, List.all_eq_true] at h
    rcases List.mem_cons.mp hx with rfl | hx
    · rfl
    · rcases List.mem_append.mp hx with hx | hx
      · exact m.brief_chars.1 x hx
      · exact h x hx

theorem numeral?_chars (h : c.plain = true) : numeral? c.chars = c.count?.map (·.toNat) := by
  cases c with
  | words s =>
    simp only [plain, Bool.and_eq_true, Option.isNone_iff_eq_none] at h
    exact h.2
  | count n =>
    rw [chars, toList_count, numeral?_toDigits]
    rfl
  | ratio m behind =>
    obtain ⟨x, hx, letter⟩ := m.brief_chars.2
    exact numeral?_eq_none (List.mem_append_left _ hx) letter

end Clause

/-- A clause, and more clauses behind a mark each. -/
structure Line where
  first : Clause
  more : List (Char × Clause) := []

namespace Line

@[simp] def markedChars (clause : Char × Clause) : List Char := clause.1 :: clause.2.chars

@[simp] def chars (l : Line) : List Char := l.first.chars ++ l.more.flatMap markedChars

def counts (l : Line) : List UInt64 := (l.first :: l.more.map (·.2)).filterMap Clause.count?

def plain (l : Line) : Bool :=
  l.first.plain && l.more.all fun clause => isMark clause.1 && clause.2.plain

theorem lineFeed_notMem_chars {l : Line} (h : l.plain = true) : '\n' ∉ l.chars := by
  simp only [plain, Bool.and_eq_true, List.all_eq_true] at h
  intro hx
  rcases List.mem_append.mp hx with hx | hx
  · exact ne_lineFeed_of_isPlain (Clause.isPlain_chars h.1 _ hx) rfl
  · obtain ⟨clause, hclause, hx⟩ := List.mem_flatMap.mp hx
    obtain ⟨mark, words⟩ := h.2 clause hclause
    rcases List.mem_cons.mp hx with same | hx
    · rw [← same] at mark
      cases mark
    · exact ne_lineFeed_of_isPlain (Clause.isPlain_chars words _ hx) rfl

/-- The clauses of a line are read back. -/
theorem splitOnP_chars {c : Clause} (hc : c.plain = true) {more : List (Char × Clause)}
    (hmore : ∀ clause ∈ more, isMark clause.1 = true ∧ clause.2.plain = true) :
    (c.chars ++ more.flatMap markedChars).splitOnP isMark =
      c.chars :: more.map fun clause => clause.2.chars := by
  induction more generalizing c with
  | nil =>
    rw [List.flatMap_nil, List.append_nil, List.map_nil]
    exact List.splitOnP_eq_singleton fun x hx => isMark_of_isPlain (c.isPlain_chars hc x hx)
  | cons clause more ih =>
    obtain ⟨⟨mark, words⟩, others⟩ := List.forall_mem_cons.mp hmore
    rw [List.flatMap_cons, markedChars, List.cons_append, List.splitOnP_append_cons_of_forall_mem
      (fun x hx => isMark_of_isPlain (Clause.isPlain_chars hc x hx)) _ mark, ih words others]
    rfl

theorem filterMap_numeral? {cs : List Clause} (h : ∀ c ∈ cs, c.plain = true) :
    (cs.map Clause.chars).filterMap numeral? = (cs.filterMap Clause.count?).map (·.toNat) := by
  induction cs with
  | nil => rfl
  | cons c cs ih =>
    obtain ⟨first, others⟩ := List.forall_mem_cons.mp h
    have rest := ih others
    rw [List.map_cons]
    cases hc : c.count? <;> simp [Clause.numeral?_chars first, hc, rest]

/-- The numbers of a line are its counts; its ratios are none. -/
theorem numbers_chars {l : Line} (h : l.plain = true) :
    numbers l.chars = l.counts.map (·.toNat) := by
  simp only [plain, Bool.and_eq_true, List.all_eq_true] at h
  have clauses : (l.first.chars :: l.more.map fun clause => clause.2.chars) =
      (l.first :: l.more.map (·.2)).map Clause.chars := by simp
  rw [numbers, chars, splitOnP_chars h.1 h.2, clauses, counts]
  refine filterMap_numeral? fun c hc => ?_
  rcases List.mem_cons.mp hc with rfl | hc
  · exact h.1
  · obtain ⟨clause, hclause, rfl⟩ := List.mem_map.mp hc
    exact (h.2 clause hclause).2

example : numbers "L2: FE Mem: 0, INT: 40, IPC: 0.500".toList = [0, 40] := by decide

end Line

end Text

end CycleLedger
