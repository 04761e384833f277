import CycleLedger.Json.Node
import CycleLedger.Proofs.Json.Lexing

/-! # Readings of tokens

The tokens of a value that has no fault are read as the value. When the end of the bytes cuts them,
they are read as a cut of the value: whatever was being read is broken off as truncated, and
everything before it is kept.
-/

namespace CycleLedger.Json

def Key.token : Key → Token
  | .ok q => .text q
  | .error _ => .stray

mutual

/-- The tokens that a value without faults is read from. -/
def Node.tokens : Node → List Token
  | .word w fault? => [.word w fault?]
  | .number n => [.number n]
  | .text q => [.text q]
  | .list [] _ => [.openBracket, .closeBracket]
  | .list (item :: items) _ => .openBracket :: (item.tokens ++ moreItemTokens items)
  | .object [] _ => [.openBrace, .closeBrace]
  | .object ((key, value) :: members) _ =>
    .openBrace :: Key.token key :: .colon :: (value.tokens ++ moreMemberTokens members)
  | .broken _ => [.stray]

/-- The tokens behind an item up to the end of its list. -/
def moreItemTokens : List Node → List Token
  | [] => [.closeBracket]
  | item :: items => .comma :: (item.tokens ++ moreItemTokens items)

def moreMemberTokens : List (Key × Node) → List Token
  | [] => [.closeBrace]
  | (key, value) :: members =>
    .comma :: Key.token key :: .colon :: (value.tokens ++ moreMemberTokens members)

end

/-- No value begins with a closing bracket. -/
theorem Node.tokens_head (n : Node) : ∃ t ts, n.tokens = t :: ts ∧ t ≠ .closeBracket := by
  cases n with
  | list items fault? => cases items <;> exact ⟨_, _, by rw [tokens], by simp⟩
  | object members fault? =>
    rcases members with _ | ⟨⟨key, value⟩, members⟩ <;> exact ⟨_, _, by rw [tokens], by simp⟩
  | _ => exact ⟨_, _, by rw [tokens], by simp⟩

/-- What is complete: nothing in it stands for a fault. -/
def Key.Whole (key : Key) : Prop := ∃ q, key = .ok q ∧ q.fault? = none

theorem Node.skipMembers?_cons {key : Key} {value : Node} {members : List (Key × Node)}
    (h : skipMembers? ((key, value) :: members) = none) :
    Key.Whole key ∧ value.skipFault? = none ∧ skipMembers? members = none := by
  cases key with
  | ok q =>
    rw [skipMembers?, Option.or_eq_none_iff, Option.or_eq_none_iff] at h
    exact ⟨⟨q, rfl, h.1⟩, h.2⟩
  | error f => simp [skipMembers?] at h

namespace Reading

/-- A first item is read as if it stood behind a comma. -/
theorem step_openBracket {t : Token} (h : t ≠ .closeBracket) (around : List Frame)
    (ts : List Token) :
    (.openBracket :: t :: ts).foldl step (value around) =
      (.comma :: t :: ts).foldl step (nextItem [] around) := by
  have first : (firstItem around).step t = (value (.item [] :: around)).step t := by
    cases t <;> first | rfl | exact absurd rfl h
  exact congrArg (ts.foldl step) first

/-- A first key is read as if it stood behind a comma. -/
theorem step_openBrace {t : Token} (h : t ≠ .closeBrace) (around : List Frame) (ts : List Token) :
    (.openBrace :: t :: ts).foldl step (value around) =
      (.comma :: t :: ts).foldl step (nextMember [] around) := by
  have first : (firstMember around).step t = (nextKey [] around).step t := by
    cases t <;> first | rfl | exact absurd rfl h
  exact congrArg (ts.foldl step) first

theorem step_key {key : Key} (whole : Key.Whole key) (members : List (Key × Node))
    (around : List Frame) :
    (nextKey members around).step (Key.token key) = colon members key around := by
  obtain ⟨q, rfl, hq⟩ := whole
  simp [step, placeKey, Key.token, hq]

end Reading

open Reading

mutual

/-- A value without faults is read from its tokens and put in its place. -/
theorem Node.read : (n : Node) → n.skipFault? = none → (around : List Frame) → (ts : List Token) →
    (n.tokens ++ ts).foldl step (value around) = ts.foldl step (place n around)
  | .word w fault?, h, around, ts => by
    obtain rfl : fault? = none := by simpa [Node.skipFault?] using h
    simp [Node.tokens, step, begin]
  | .number (.ok n), _, around, ts => by simp [Node.tokens, step, begin]
  | .number (.error f), h, _, _ => by simp [Node.skipFault?] at h
  | .text q, h, around, ts => by
    have hq : q.fault? = none := by simpa [Node.skipFault?] using h
    simp [Node.tokens, step, begin, hq]
  | .list items fault?, h, around, ts => by
    rw [Node.skipFault?, Option.or_eq_none_iff] at h
    obtain ⟨hitems, rfl⟩ := h
    have read := readItems items hitems [] around ts
    cases items with
    | nil => simp [Node.tokens, step, begin]
    | cons item items =>
      obtain ⟨t, more, htokens, ht⟩ := item.tokens_head
      rw [moreItemTokens, htokens] at read
      rw [Node.tokens, htokens]
      exact (step_openBracket ht around _).trans read
  | .object members fault?, h, around, ts => by
    rw [Node.skipFault?, Option.or_eq_none_iff] at h
    obtain ⟨hmembers, rfl⟩ := h
    have read := readMembers members hmembers [] around ts
    cases members with
    | nil => simp [Node.tokens, step, begin]
    | cons member members =>
      have noBrace : Key.token member.1 ≠ .closeBrace := by cases member.1 <;> simp [Key.token]
      rw [moreMemberTokens] at read
      rw [Node.tokens]
      exact (step_openBrace noBrace around _).trans read
  | .broken f, h, _, _ => by simp [Node.skipFault?] at h

theorem readItems : (items : List Node) → Node.skipItems? items = none → (before : List Node) →
    (around : List Frame) → (ts : List Token) →
    (moreItemTokens items ++ ts).foldl step (nextItem before around) =
      ts.foldl step (place (.list (before.reverse ++ items) none) around)
  | [], _, before, around, ts => by simp [moreItemTokens, step]
  | item :: items, h, before, around, ts => by
    rw [Node.skipItems?, Option.or_eq_none_iff] at h
    have first := item.read h.1 (.item before :: around) (moreItemTokens items ++ ts)
    have rest := readItems items h.2 (item :: before) around ts
    have behindComma : step (nextItem before around) .comma = value (.item before :: around) := rfl
    rw [moreItemTokens, List.cons_append, List.foldl_cons, behindComma, List.append_assoc, first]
    simpa [place] using rest

theorem readMembers : (members : List (Key × Node)) → Node.skipMembers? members = none →
    (before : List (Key × Node)) → (around : List Frame) → (ts : List Token) →
    (moreMemberTokens members ++ ts).foldl step (nextMember before around) =
      ts.foldl step (place (.object (before.reverse ++ members) none) around)
  | [], _, before, around, ts => by simp [moreMemberTokens, step]
  | (key, n) :: members, h, before, around, ts => by
    obtain ⟨whole, hvalue, hmembers⟩ := Node.skipMembers?_cons h
    have first := n.read hvalue (.member before key :: around) (moreMemberTokens members ++ ts)
    have rest := readMembers members hmembers ((key, n) :: before) around ts
    have behindComma : step (nextMember before around) .comma = nextKey before around := rfl
    have behindColon : step (colon before key around) .colon =
      value (.member before key :: around) := rfl
    rw [moreMemberTokens, List.cons_append, List.cons_append, List.cons_append, List.foldl_cons,
      List.foldl_cons, List.foldl_cons, behindComma, step_key whole, behindColon,
      List.append_assoc, first]
    simpa [place] using rest

end

end CycleLedger.Json
