import CycleLedger.Proofs.Json.RoundTrip
import CycleLedger.Proofs.Json.Written

/-! # Cut documents refused

When the end of the bytes cuts the document of an encoded value, nothing but the missing end is
found wrong with it. A number may still be read, a list or object never is.
-/

namespace CycleLedger.Json

/-- Nothing is found wrong but that the end is missing. -/
def OnlyTruncated {α : Type} (r : Except Problem α) : Prop :=
  ∀ p, r = .error p → p = .fault .truncated

namespace OnlyTruncated

variable {α β : Type}

theorem ok (a : α) : OnlyTruncated (.ok a : Except Problem α) := by
  intro p h
  cases h

theorem truncated : OnlyTruncated (.error (.fault .truncated) : Except Problem α) := by
  intro p h
  cases h
  rfl

theorem of_eq {r : Except Problem α} (h : r = .error (.fault .truncated)) : OnlyTruncated r := by
  rw [h]
  exact truncated

theorem bind {r : Except Problem α} (h : OnlyTruncated r) {g : α → Except Problem β}
    (hg : ∀ a, OnlyTruncated (g a)) : OnlyTruncated (r.bind g) := by
  cases r with
  | error p => rw [h p rfl]; exact truncated
  | ok a => exact hg a

theorem map {r : Except Problem α} (h : OnlyTruncated r) (g : α → β) : OnlyTruncated (r.map g) := by
  cases r with
  | error p => rw [h p rfl]; exact truncated
  | ok a => exact ok (g a)

/-- What goes on to a missing end is refused for it. -/
theorem bind_error {r : Except Problem α} (h : OnlyTruncated r) :
    (r.bind fun _ => (.error (.fault .truncated) : Except Problem β)) =
      .error (.fault .truncated) := by
  cases r with
  | error p => rw [h p rfl]; rfl
  | ok a => rfl

end OnlyTruncated

/-- Where nothing begins that could be a value, the fault decides. -/
theorem Shape.decode_broken (f : Fault) : (s : Shape) → s.decode (.broken f) = .error (.fault f)
  | .nullable s => by
    rw [decode_nullable (by rintro fault? ⟨⟩), decode_broken f s]
    rfl
  | .flag | .word _ _ | .real | .text _ | .choice _ | .record _ _ | .row _ _ _ => rfl

/-! ## Cuts of written scalars -/

namespace Node.Cut

variable {m : Node}

theorem word_cases {w : Word} (h : Node.Cut Numeral.Written (.word w none) m) :
    m = .broken .truncated ∨ m = .word w (some .truncated) := by
  cases h with
  | missing => exact .inl rfl
  | word => exact .inr rfl

theorem number_cases {n : Numeral} (h : Node.Cut Numeral.Written (.number (.ok n)) m) :
    m = .broken .truncated ∨ m = .number (.error .truncated) ∨
      ∃ k : Numeral, k.Begins Numeral.Written n ∧ m = .number (.ok k) := by
  cases h with
  | missing => exact .inl rfl
  | numeral => exact .inr (.inl rfl)
  | shorter begins => exact .inr (.inr ⟨_, begins, rfl⟩)

/-- A cut text is missing or has no meaning. -/
theorem text_cases {s : String} (h : Node.Cut Numeral.Written (.text (.ofString s)) m) :
    m = .broken .truncated ∨ ∃ q : Quoted, q.text = .error .truncated ∧ m = .text q := by
  cases h with
  | missing => exact .inl rfl
  | text units => exact .inr ⟨_, Quoted.text_cut (Quoted.text_ofString s) rfl units _, rfl⟩

theorem list_cases {items : List Node} (h : Node.Cut Numeral.Written (.list items none) m) :
    m = .broken .truncated ∨
      ∃ left, ItemsCut Numeral.Written items left ∧ m = .list left (some .truncated) := by
  cases h with
  | missing => exact .inl rfl
  | list cut => exact .inr ⟨_, cut, rfl⟩

theorem object_cases {members : List (Key × Node)}
    (h : Node.Cut Numeral.Written (.object members none) m) :
    m = .broken .truncated ∨
      ∃ left, MembersCut Numeral.Written members left ∧ m = .object left (some .truncated) := by
  cases h with
  | missing => exact .inl rfl
  | object cut => exact .inr ⟨_, cut, rfl⟩

end Node.Cut

namespace Decoding

theorem word_begins {bits : Nat} (hbits : bits ≤ 64) (w : BitVec bits) (wanted : String)
    {k : Numeral} (h : k.Begins Numeral.Written (.ofInt w.toNat)) :
    ∃ v, word bits wanted (.number (.ok k)) = .ok v := by
  obtain ⟨n, hn, rfl⟩ := Numeral.begins_natural h
  have small : n < 2 ^ bits := Nat.lt_of_le_of_lt hn w.isLt
  have same : (BitVec.ofNat bits n).toNat = n := by
    rw [BitVec.toNat_ofNat, Nat.mod_eq_of_lt small]
  have read := word_toNat hbits (BitVec.ofNat bits n) wanted
  rw [same] at read
  exact ⟨_, read⟩

theorem real_begins (x : Binary64) {k : Numeral}
    (h : k.Begins Numeral.Written (Value.realNumeral x)) : ∃ v, real (.number (.ok k)) = .ok v := by
  obtain ⟨number, hk⟩ := Option.isSome_iff_exists.mp (Numeral.begins_real h)
  rw [real]
  simp only [hk]
  cases number <;> exact ⟨_, rfl⟩

/-! ## Cuts of written scalars decoded -/

theorem flag_cut (b : Bool) {m : Node} (cut : Node.Cut Numeral.Written (Node.flag b) m) :
    OnlyTruncated (flag m) := by
  cases b <;> rcases cut.word_cases with rfl | rfl <;> exact .truncated

theorem word_cut {bits : Nat} (hbits : bits ≤ 64) (w : BitVec bits) (wanted : String) {m : Node}
    (cut : Node.Cut Numeral.Written (.number (.ok (.ofInt w.toNat))) m) :
    OnlyTruncated (word bits wanted m) := by
  rcases cut.number_cases with rfl | rfl | ⟨k, begins, rfl⟩
  · exact .truncated
  · exact .truncated
  · obtain ⟨v, read⟩ := word_begins hbits w wanted begins
    rw [read]
    exact .ok v

theorem real_cut (x : Binary64) {m : Node}
    (cut : Node.Cut Numeral.Written (.number (.ok (Value.realNumeral x))) m) :
    OnlyTruncated (real m) := by
  rcases cut.number_cases with rfl | rfl | ⟨k, begins, rfl⟩
  · exact .truncated
  · exact .truncated
  · obtain ⟨v, read⟩ := real_begins x begins
    rw [read]
    exact .ok v

theorem text_cut (wanted s : String) {m : Node}
    (cut : Node.Cut Numeral.Written (.text (.ofString s)) m) : OnlyTruncated (text wanted m) := by
  rcases cut.text_cases with rfl | ⟨q, unread, rfl⟩
  · exact .truncated
  · rw [text, unread]
    exact .truncated

theorem choice_cut (names : List String) (s : String) {m : Node}
    (cut : Node.Cut Numeral.Written (.text (.ofString s)) m) : OnlyTruncated (choice names m) := by
  rcases cut.text_cases with rfl | ⟨q, unread, rfl⟩
  · exact .truncated
  · rw [choice, name, unread]
    exact .truncated

/-! ## Cuts of members -/

/-- A key without its end cannot be read. -/
theorem key_cut {name : String} {units : List TextUnit}
    (h : units <+: (Quoted.ofString name).units) :
    key (.ok ⟨units, some .truncated⟩) = .error (.fault .truncated) := by
  rw [key, Quoted.text_cut (Quoted.text_ofString name) rfl h]
  rfl

/-- A cut adds no key. -/
theorem keysIn_cut {u : Node} {names : List String} {pairs : List (String × Value)}
    (h : ∀ pair ∈ pairs, pair.1 ∈ names) {left : List (Key × Node)}
    (cut : MembersCut Numeral.Written (Value.memberNodes u pairs) left) : KeysIn names left := by
  induction pairs generalizing left with
  | nil =>
    cases cut
    exact nofun
  | cons pair pairs ih =>
    obtain ⟨k, v⟩ := pair
    intro node hnode name hname
    have here : k ∈ names := h (k, v) (by simp)
    rw [Value.memberNodes] at cut
    cases cut with
    | ended => cases hnode
    | noKey =>
      obtain rfl := List.mem_singleton.mp hnode
      cases hname
    | key units =>
      obtain rfl := List.mem_singleton.mp hnode
      rw [key_cut units] at hname
      cases hname
    | value =>
      obtain rfl := List.mem_singleton.mp hnode
      obtain rfl : k = name := Except.ok.inj ((key_ofString k).symm.trans hname)
      exact here
    | cons _ rest =>
      rcases List.mem_cons.mp hnode with rfl | hnode
      · obtain rfl : k = name := Except.ok.inj ((key_ofString k).symm.trans hname)
        exact here
      · exact ih (fun q hq => h q (by simp [hq])) rest node hnode name hname

/--
Wherever the first member is cut, no more than the missing end is found wrong, if this holds of its
value and of the other members.
-/
theorem members_cut_cons {u : Node} {name : String} (presence : Presence) (s : Shape)
    {rest : Members} {names : List String} (fresh : name ∉ names) {v : Value}
    {pairs : List (String × Value)} (keys : ∀ pair ∈ pairs, pair.1 ∈ names) {w : s.Carrier}
    (whole : s.decode (v.toNode u) = .ok w)
    (value : ∀ m, Node.Cut Numeral.Written (v.toNode u) m → OnlyTruncated (s.decode m))
    (slots : rest.Slots)
    (others : ∀ left, MembersCut Numeral.Written (Value.memberNodes u pairs) left →
      OnlyTruncated (members rest.fill left slots))
    {left : List (Key × Node)}
    (cut : MembersCut Numeral.Written (Value.memberNodes u ((name, v) :: pairs)) left) :
    OnlyTruncated (members (Members.cons name presence s rest).fill left
      (Members.consSlots name presence s none slots)) := by
  rw [Value.memberNodes] at cut
  cases cut with
  | ended => exact .ok _
  | noKey => exact .of_eq (members_cons_error rfl)
  | key units => exact .of_eq (members_cons_error (key_cut units))
  | value _ cut =>
    rw [members_cons_known (key_ofString name) (Members.fill_first _ slots)]
    exact ((value _ cut).map _).bind fun a => .ok a
  | cons _ cut =>
    rw [members_first presence s fresh (keysIn_cut keys cut) whole slots]
    exact (others _ cut).map _

end Decoding

/-! ## Cuts of values -/

theorem Shape.decode_object_fault (name : String) (ms : Members) (left : List (Key × Node))
    (f : Fault) : (Shape.record name ms).decode (.object left (some f)) =
      (Decoding.members ms.fill left ms.noSlots).bind fun _ => .error (.fault f) := rfl

/-- A cut makes null of nothing else. -/
theorem Node.Cut.ne_null {n m : Node} (h : Node.Cut Numeral.Written n m)
    (hn : ∀ fault?, n ≠ .word .null fault?) (fault? : Option Fault) : m ≠ .word .null fault? := by
  rintro rfl
  cases h
  exact hn _ rfl

mutual

/-- With a cut of what is written of a value nothing is wrong but that the end is missing. -/
theorem Shape.decode_cut (u : Node) : (s : Shape) → s.faithful = true → (c : s.Carrier) →
    s.Finite c → (m : Node) → Node.Cut Numeral.Written ((s.encode c).toNode u) m →
    OnlyTruncated (s.decode m)
  | .flag, _, c, _, m, cut => by
    cases c <;> exact Decoding.flag_cut _ cut
  | .word bits wanted, hs, c, _, m, cut => by
    have hbits : bits ≤ 64 := by simpa [Shape.faithful] using hs
    exact Decoding.word_cut hbits c wanted cut
  | .real, _, c, hc, m, cut => by
    have finite : Binary64.isFinite c = true := hc
    have written : (Shape.real.encode c).toNode u = .number (.ok (Value.realNumeral c)) := by
      simp [Shape.encode, Value.toNode, finite]
    rw [written] at cut
    exact Decoding.real_cut c cut
  | .text wanted, _, c, _, m, cut => Decoding.text_cut wanted c cut
  | .choice names, _, c, _, m, cut => Decoding.choice_cut names (names.get c) cut
  | .nullable s, hs, c, hc, m, cut => by
    obtain ⟨notNullable, faithful⟩ := Shape.faithful_nullable.mp hs
    match c, hc, cut with
    | none, _, cut =>
      rcases Node.Cut.word_cases cut with rfl | rfl
      · exact .of_eq (Shape.decode_broken _ _)
      · exact .truncated
    | some w, hc, cut =>
      have finite : s.Finite w := hc w rfl
      have written : ∀ fault?, (s.encode w).toNode u ≠ .word .null fault? :=
        Shape.encode_ne_null notNullable finite u
      rw [Shape.decode_nullable (Node.Cut.ne_null cut written)]
      exact (Shape.decode_cut u s faithful w finite m cut).map _
  | .record name ms, hs, c, hc, m, cut => by
    rcases Node.Cut.object_cases cut with rfl | ⟨left, members, rfl⟩
    · exact .truncated
    · have read := Members.decode_cut u ms hs c hc left members
      rw [Shape.decode_object_fault, read.bind_error]
      exact .truncated
  | .row wanted sized ms, hs, c, hc, m, cut => by
    obtain ⟨required, faithful⟩ := Shape.faithful_row.mp hs
    rcases Node.Cut.list_cases cut with rfl | ⟨left, items, rfl⟩
    · exact .truncated
    · exact Members.decodeItems_cut u ms required faithful c hc sized 0 left items

theorem Members.decode_cut (u : Node) : (ms : Members) → ms.faithful = true → (v : ms.Carrier) →
    ms.Finite v → (left : List (Key × Node)) →
    MembersCut Numeral.Written (Value.memberNodes u (ms.encode v)) left →
    OnlyTruncated (Decoding.members ms.fill left ms.noSlots)
  | .nil, _, _, _, left, cut => by
    cases cut
    exact .ok _
  | .cons key presence s rest, hs, v, hv, left, cut => by
    obtain ⟨fresh, faithful, others⟩ := Members.faithful_cons.mp hs
    have keys := rest.keys_encode v.2
    match presence, v, hv, keys, cut with
    | .required, v, hv, keys, cut =>
      exact Decoding.members_cut_cons .required s fresh keys
        (s.decode_encode u faithful v.1 hv.1) (s.decode_cut u faithful v.1 hv.1) rest.noSlots
        (rest.decode_cut u others v.2 hv.2) cut
    | .preset, (none, more), hv, keys, cut =>
      have skipped := Decoding.members_skip .preset s fresh (Decoding.keysIn_cut keys cut) none
        rest.noSlots
      have same := (rest.decode_cut u others more hv.2 left cut).map
        (Members.consSlots key .preset s none)
      exact skipped ▸ same
    | .preset, (some w, more), hv, keys, cut =>
      exact Decoding.members_cut_cons .preset s fresh keys
        (s.decode_encode u faithful w (hv.1 w rfl)) (s.decode_cut u faithful w (hv.1 w rfl))
        rest.noSlots (rest.decode_cut u others more hv.2) cut

theorem Members.decodeItems_cut (u : Node) : (ms : Members) → ms.allRequired = true →
    ms.faithful = true → (v : ms.Carrier) → ms.Finite v → (sized : String) → (index : Nat) →
    (left : List Node) →
    ItemsCut Numeral.Written (Value.itemNodes u ((ms.encode v).map (·.2))) left →
    OnlyTruncated (ms.decodeItems sized index left (some .truncated))
  | .nil, _, _, _, _, _, _, left, cut => by
    cases cut
    exact .truncated
  | .cons key .required s rest, hr, hs, v, hv, sized, index, left, cut => by
    have required : rest.allRequired = true := by simpa [Members.allRequired] using hr
    obtain ⟨fresh, faithful, others⟩ := Members.faithful_cons.mp hs
    have more := rest.decodeItems_cut u required others v.2 hv.2 sized (index + 1)
    cases cut with
    | ended => exact .truncated
    | item cut =>
      rw [Members.decodeItems_required]
      exact (s.decode_cut u faithful v.1 hv.1 _ cut).bind
        fun w => (more [] (.ended _)).bind fun ws => .ok (w, ws)
    | cons _ cut =>
      rw [Members.decodeItems_required, s.decode_encode u faithful v.1 hv.1]
      exact (more _ cut).bind fun ws => .ok (v.1, ws)
  | .cons key .preset s rest, hr, _, _, _, _, _, _, _ => by simp [Members.allRequired] at hr

end

/-- A record is never read of a cut. -/
theorem Shape.decode_record_cut (u : Node) {name : String} {ms : Members}
    (hs : ms.faithful = true) {c : ms.Carrier} (hc : ms.Finite c) {m : Node}
    (cut : Node.Cut Numeral.Written (((Shape.record name ms).encode c).toNode u) m) :
    (Shape.record name ms).decode m = .error (.fault .truncated) := by
  rcases Node.Cut.object_cases cut with rfl | ⟨left, members, rfl⟩
  · rfl
  · have read := Members.decode_cut u ms hs c hc left members
    rw [Shape.decode_object_fault, read.bind_error]

end CycleLedger.Json
