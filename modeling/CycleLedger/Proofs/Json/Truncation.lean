import CycleLedger.Proofs.Json.Reading

/-! # Cut documents

The end of the bytes may fall anywhere in a document. What is then read is a cut of the document:
the token or value at the end is broken off as truncated, so are all lists and objects around it,
and nothing else is missed or added. Only a numeral can lose digits and still be one.
-/

namespace CycleLedger.Json

variable (numerals : List UInt8 → Prop)

mutual

/-- What the end of the bytes leaves of a value. -/
inductive Node.Cut : Node → Node → Prop
  | missing (n : Node) : Node.Cut n (.broken .truncated)
  | word (w : Word) : Node.Cut (.word w none) (.word w (some .truncated))
  | numeral (n : Numeral) : Node.Cut (.number (.ok n)) (.number (.error .truncated))
  | shorter {k n : Numeral} (h : k.Begins numerals n) :
      Node.Cut (.number (.ok n)) (.number (.ok k))
  | text {q : Quoted} {units : List TextUnit} (h : units <+: q.units) :
      Node.Cut (.text q) (.text ⟨units, some .truncated⟩)
  | list {items left : List Node} (h : ItemsCut items left) :
      Node.Cut (.list items none) (.list left (some .truncated))
  | object {members left : List (Key × Node)} (h : MembersCut members left) :
      Node.Cut (.object members none) (.object left (some .truncated))

inductive ItemsCut : List Node → List Node → Prop
  | ended (items : List Node) : ItemsCut items []
  | item {n m : Node} (h : Node.Cut n m) (items : List Node) : ItemsCut (n :: items) [m]
  | cons (n : Node) {items left : List Node} (h : ItemsCut items left) :
      ItemsCut (n :: items) (n :: left)

inductive MembersCut : List (Key × Node) → List (Key × Node) → Prop
  | ended (members : List (Key × Node)) : MembersCut members []
  | noKey (member : Key × Node) (members : List (Key × Node)) :
      MembersCut (member :: members) [(.error .truncated, .broken .truncated)]
  | key {q : Quoted} {units : List TextUnit} (h : units <+: q.units) (n : Node)
      (members : List (Key × Node)) :
      MembersCut ((.ok q, n) :: members) [(.ok ⟨units, some .truncated⟩, .broken .truncated)]
  | value (key : Key) {n m : Node} (h : Node.Cut n m) (members : List (Key × Node)) :
      MembersCut ((key, n) :: members) [(key, m)]
  | cons (member : Key × Node) {members left : List (Key × Node)} (h : MembersCut members left) :
      MembersCut (member :: members) (member :: left)

end

variable {numerals}

namespace TokensCut

theorem append_cases {ts us cs : List Token} (h : TokensCut numerals (ts ++ us) cs) :
    TokensCut numerals ts cs ∨ ∃ ds, cs = ts ++ ds ∧ TokensCut numerals us ds := by
  induction ts generalizing cs with
  | nil => exact .inr ⟨cs, rfl, h⟩
  | cons t ts ih =>
    cases h with
    | ended => exact .inl (.ended t ts)
    | token h => exact .inl (.token h ts)
    | cons _ h =>
      rcases ih h with first | ⟨ds, rfl, second⟩
      · exact .inl (.cons t first)
      · exact .inr ⟨ds, rfl, second⟩

/-- A mark is either there or not. -/
theorem mark_cases {t : Token} {ts cs : List Token} (h : TokensCut numerals (t :: ts) cs)
    (mark : ∀ t', ¬t.Cut numerals t') :
    cs = [] ∨ ∃ ds, cs = t :: ds ∧ TokensCut numerals ts ds := by
  cases h with
  | ended => exact .inl rfl
  | token h => exact absurd h (mark _)
  | cons _ h => exact .inr ⟨_, rfl, h⟩

/-- A single token is cut off, or cut itself. -/
theorem single_cases {t : Token} {cs : List Token} (h : TokensCut numerals [t] cs) :
    cs = [] ∨ ∃ t', t.Cut numerals t' ∧ cs = [t'] := by
  cases h with
  | ended => exact .inl rfl
  | token cut => exact .inr ⟨_, cut, rfl⟩
  | cons _ h => cases h

/-- Of two marks only the first can be left. -/
theorem marks_cases {s t : Token} {cs : List Token} (h : TokensCut numerals [s, t] cs)
    (first : ∀ t', ¬s.Cut numerals t') (second : ∀ t', ¬t.Cut numerals t') :
    cs = [] ∨ cs = [s] := by
  rcases h.mark_cases first with rfl | ⟨ds, rfl, hd⟩
  · exact .inl rfl
  · rcases hd.mark_cases second with rfl | ⟨_, _, he⟩
    · exact .inr rfl
    · cases he

/-- A mark never stands first in the place of something else. -/
theorem head_ne {mark t c : Token} {ts cs : List Token}
    (h : TokensCut numerals (t :: ts) (c :: cs)) (ht : t ≠ mark)
    (whole : ∀ t', ¬Token.Cut numerals t' mark) : c ≠ mark := by
  cases h with
  | token cut =>
    rintro rfl
    exact whole _ cut
  | cons => exact ht

end TokensCut

open Reading

/-- The document of the reading breaks off in a value of which `m` is left. -/
def Reading.EndsIn (r : Reading) (m : Node) (around : List Frame) : Prop :=
  r.finish = ⟨broken .truncated m around, false⟩

/-- A value that ends with the bytes is what is left of itself. -/
theorem Reading.endsIn_place (n : Node) (around : List Frame) :
    (place n around).EndsIn n around := by
  rcases around with _ | ⟨_ | _, around⟩ <;> rfl

/-- A key is cut to nothing, to a text without its end, or not at all. -/
theorem readKey_cut {key : Key} {ts cs : List Token}
    (h : TokensCut numerals (Key.token key :: ts) cs) (whole : Key.Whole key) (n : Node)
    (members before : List (Key × Node)) (around : List Frame) :
    (∃ left, MembersCut numerals ((key, n) :: members) left ∧
      (cs.foldl step (nextKey before around)).EndsIn
        (.object (before.reverse ++ left) (some .truncated)) around) ∨
    ∃ ds, cs = Key.token key :: ds ∧ TokensCut numerals ts ds := by
  obtain ⟨q, rfl, hq⟩ := whole
  cases h with
  | ended => exact .inl ⟨_, .noKey _ _, by simp only [EndsIn, List.foldl_nil, finish, brokenObject,
      List.reverse_cons]⟩
  | token h =>
    cases h with
    | text h => exact .inl ⟨_, .key h n members, by simp only [EndsIn, List.foldl_cons,
        List.foldl_nil, step, placeKey, refuseKey, finish, brokenObject, List.reverse_cons]⟩
  | cons _ h => exact .inr ⟨_, rfl, h⟩

/-- A list is read as a cut of it if its items behind the bracket are. -/
theorem readList_cut {items : List Node} {around : List Frame}
    (read : ∀ cs, TokensCut numerals (moreItemTokens items) cs →
      ∃ left, ItemsCut numerals items left ∧ (cs.foldl step (nextItem [] around)).EndsIn
        (.list left (some .truncated)) around)
    {cs : List Token} (hc : TokensCut numerals (Node.tokens (.list items none)) cs) :
    ∃ m, Node.Cut numerals (.list items none) m ∧
      (cs.foldl step (value around)).EndsIn m around := by
  cases items with
  | nil =>
    rw [Node.tokens] at hc
    rcases hc.marks_cases (fun _ => nofun) (fun _ => nofun) with rfl | rfl
    · exact ⟨_, .missing _, rfl⟩
    · exact ⟨_, .list (.ended _), rfl⟩
  | cons item items =>
    obtain ⟨t, more, htokens, ht⟩ := item.tokens_head
    rw [Node.tokens, htokens] at hc
    rcases hc.mark_cases (fun _ => nofun) with rfl | ⟨ds, rfl, hd⟩
    · exact ⟨_, .missing _, rfl⟩
    cases ds with
    | nil => exact ⟨_, .list (.ended _), rfl⟩
    | cons d ds =>
      rw [moreItemTokens, htokens] at read
      obtain ⟨left, cut, ends⟩ := read (.comma :: d :: ds) (.cons .comma hd)
      rw [step_openBracket (hd.head_ne ht fun _ => nofun)]
      exact ⟨_, .list cut, ends⟩

theorem readObject_cut {members : List (Key × Node)} {around : List Frame}
    (read : ∀ cs, TokensCut numerals (moreMemberTokens members) cs →
      ∃ left, MembersCut numerals members left ∧ (cs.foldl step (nextMember [] around)).EndsIn
        (.object left (some .truncated)) around)
    {cs : List Token} (hc : TokensCut numerals (Node.tokens (.object members none)) cs) :
    ∃ m, Node.Cut numerals (.object members none) m ∧
      (cs.foldl step (value around)).EndsIn m around := by
  cases members with
  | nil =>
    rw [Node.tokens] at hc
    rcases hc.marks_cases (fun _ => nofun) (fun _ => nofun) with rfl | rfl
    · exact ⟨_, .missing _, rfl⟩
    · exact ⟨_, .object (.ended _), rfl⟩
  | cons member members =>
    have noBrace : Key.token member.1 ≠ .closeBrace := by cases member.1 <;> simp [Key.token]
    rw [Node.tokens] at hc
    rcases hc.mark_cases (fun _ => nofun) with rfl | ⟨ds, rfl, hd⟩
    · exact ⟨_, .missing _, rfl⟩
    cases ds with
    | nil => exact ⟨_, .object (.ended _), rfl⟩
    | cons d ds =>
      rw [moreMemberTokens] at read
      obtain ⟨left, cut, ends⟩ := read (.comma :: d :: ds) (.cons .comma hd)
      rw [step_openBrace (hd.head_ne noBrace fun _ => nofun)]
      exact ⟨_, .object cut, ends⟩

mutual

/-- A value of which the tokens are cut is read as a cut of it. -/
theorem Node.read_cut : (n : Node) → n.skipFault? = none → (around : List Frame) →
    (cs : List Token) → TokensCut numerals n.tokens cs →
    ∃ m, Node.Cut numerals n m ∧ (cs.foldl step (value around)).EndsIn m around
  | .word w fault?, h, around, cs, hc => by
    rw [Node.tokens] at hc
    rcases hc.single_cases with rfl | ⟨t, cut, rfl⟩
    · exact ⟨_, .missing _, rfl⟩
    · cases cut
      exact ⟨_, .word w, rfl⟩
  | .number n, h, around, cs, hc => by
    rw [Node.tokens] at hc
    rcases hc.single_cases with rfl | ⟨t, cut, rfl⟩
    · exact ⟨_, .missing _, rfl⟩
    · cases cut with
      | numeral n => exact ⟨_, .numeral n, rfl⟩
      | shorter begins => exact ⟨_, .shorter begins, endsIn_place _ around⟩
  | .text q, h, around, cs, hc => by
    rw [Node.tokens] at hc
    rcases hc.single_cases with rfl | ⟨t, cut, rfl⟩
    · exact ⟨_, .missing _, rfl⟩
    · cases cut with
      | text units => exact ⟨_, .text units, rfl⟩
  | .list items fault?, h, around, cs, hc => by
    rw [Node.skipFault?, Option.or_eq_none_iff] at h
    obtain ⟨hitems, rfl⟩ := h
    exact readList_cut (readItems_cut items hitems [] around) hc
  | .object members fault?, h, around, cs, hc => by
    rw [Node.skipFault?, Option.or_eq_none_iff] at h
    obtain ⟨hmembers, rfl⟩ := h
    exact readObject_cut (readMembers_cut members hmembers [] around) hc
  | .broken f, h, _, _, _ => by simp [Node.skipFault?] at h

theorem readItems_cut : (items : List Node) → Node.skipItems? items = none →
    (before : List Node) → (around : List Frame) → (cs : List Token) →
    TokensCut numerals (moreItemTokens items) cs →
    ∃ left, ItemsCut numerals items left ∧ (cs.foldl step (nextItem before around)).EndsIn
      (.list (before.reverse ++ left) (some .truncated)) around
  | [], _, before, around, cs, hc => by
    rw [moreItemTokens] at hc
    rcases hc.mark_cases (fun _ => nofun) with rfl | ⟨_, _, hd⟩
    · exact ⟨_, .ended _, by simp [EndsIn, finish]⟩
    · cases hd
  | item :: items, h, before, around, cs, hc => by
    rw [Node.skipItems?, Option.or_eq_none_iff] at h
    rw [moreItemTokens] at hc
    rcases hc.mark_cases (fun _ => nofun) with rfl | ⟨ds, rfl, hd⟩
    · exact ⟨_, .ended _, by simp [EndsIn, finish]⟩
    have behindComma : (Token.comma :: ds).foldl step (nextItem before around) =
        ds.foldl step (value (.item before :: around)) := rfl
    rw [behindComma]
    rcases hd.append_cases with hd | ⟨es, rfl, he⟩
    · obtain ⟨m, cut, ends⟩ := item.read_cut h.1 (.item before :: around) ds hd
      exact ⟨_, .item cut items, by simpa [EndsIn, broken, Frame.cut] using ends⟩
    · obtain ⟨left, cut, ends⟩ := readItems_cut items h.2 (item :: before) around es he
      rw [item.read h.1]
      exact ⟨_, .cons item cut, by simpa [place] using ends⟩

theorem readMembers_cut : (members : List (Key × Node)) → Node.skipMembers? members = none →
    (before : List (Key × Node)) → (around : List Frame) → (cs : List Token) →
    TokensCut numerals (moreMemberTokens members) cs →
    ∃ left, MembersCut numerals members left ∧
      (cs.foldl step (nextMember before around)).EndsIn
        (.object (before.reverse ++ left) (some .truncated)) around
  | [], _, before, around, cs, hc => by
    rw [moreMemberTokens] at hc
    rcases hc.mark_cases (fun _ => nofun) with rfl | ⟨_, _, hd⟩
    · exact ⟨_, .ended _, by simp [EndsIn, finish, brokenObject]⟩
    · cases hd
  | (key, n) :: members, h, before, around, cs, hc => by
    obtain ⟨whole, hvalue, hmembers⟩ := Node.skipMembers?_cons h
    rw [moreMemberTokens] at hc
    rcases hc.mark_cases (fun _ => nofun) with rfl | ⟨ds, rfl, hd⟩
    · exact ⟨_, .ended _, by simp [EndsIn, finish, brokenObject]⟩
    have behindComma : (Token.comma :: ds).foldl step (nextMember before around) =
        ds.foldl step (nextKey before around) := rfl
    rw [behindComma]
    rcases readKey_cut hd whole n members before around with cut | ⟨es, rfl, he⟩
    · exact cut
    rw [List.foldl_cons, step_key whole]
    rcases he.mark_cases (fun _ => nofun) with rfl | ⟨fs, rfl, hf⟩
    · exact ⟨_, .value key (.missing n) members, by simp [EndsIn, finish, brokenObject]⟩
    have behindColon : (Token.colon :: fs).foldl step (colon before key around) =
        fs.foldl step (value (.member before key :: around)) := rfl
    rw [behindColon]
    rcases hf.append_cases with hf | ⟨gs, rfl, hg⟩
    · obtain ⟨m, cut, ends⟩ := n.read_cut hvalue (.member before key :: around) fs hf
      exact ⟨_, .value key cut members, by simpa [EndsIn, broken, Frame.cut] using ends⟩
    · obtain ⟨left, cut, ends⟩ := readMembers_cut members hmembers ((key, n) :: before) around gs hg
      rw [n.read hvalue]
      exact ⟨_, .cons (key, n) cut, by simpa [place] using ends⟩

end

/-- The document of a value without faults. -/
theorem Document.ofTokens_tokens {n : Node} (h : n.skipFault? = none) :
    Document.ofTokens n.tokens = ⟨n, false⟩ := by
  have read := n.read h [] []
  rw [List.append_nil] at read
  rw [Document.ofTokens, read]
  rfl

theorem Document.ofTokens_cut {n : Node} {cs : List Token} (h : n.skipFault? = none)
    (hc : TokensCut numerals n.tokens cs) :
    ∃ m, Node.Cut numerals n m ∧ Document.ofTokens cs = ⟨m, false⟩ := by
  obtain ⟨m, cut, ends⟩ := n.read_cut h [] cs hc
  exact ⟨m, cut, ends⟩

end CycleLedger.Json
