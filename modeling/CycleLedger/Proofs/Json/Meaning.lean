import CycleLedger.Proofs.Json.RoundTrip
import CycleLedger.Proofs.Json.Written

/-! # What documents mean

A document means a value of a shape if each known member that it gives is given once and means its
part. Members may stand in any order, with unknown ones among them, and blanks between all tokens.
Whatever means a value is decoded to it.
-/

namespace CycleLedger.Json

/-- The name that a key spells, if it can be read. -/
def Key.name? : Key → Option String
  | .ok q => q.text.toOption
  | .error _ => none

theorem Key.name?_eq_some_iff {k : Key} {name : String} :
    k.name? = some name ↔ Decoding.key k = .ok name := by
  cases k with
  | error f => simp [name?, Decoding.key]
  | ok q => cases h : q.text <;> simp [name?, Decoding.key, h, Except.toOption, Except.mapError]

/-- The values that an object gives under a name. -/
def valuesOf (name : String) (pairs : List (Key × Node)) : List Node :=
  pairs.filterMap fun (k, value) => if k.name? = some name then some value else none

/-- Whether an object gives a value under the name, once, or does not give it. -/
def Given {α : Type} (means : Node → α → Prop) (name : String) (pairs : List (Key × Node)) :
    Option α → Prop
  | none => valuesOf name pairs = []
  | some a => ∃ n, valuesOf name pairs = [n] ∧ means n a

theorem Given.map {α β : Type} {means : Node → α → Prop} {means' : Node → β → Prop} {name : String}
    {pairs : List (Key × Node)} {given? : Option α} (h : Given means name pairs given?) (f : α → β)
    (carries : ∀ n a, means n a → means' n (f a)) : Given means' name pairs (given?.map f) := by
  cases given? with
  | none => exact h
  | some a =>
    obtain ⟨n, only, states⟩ := h
    exact ⟨n, only, carries n a states⟩

/-- Every key of an object can be read. -/
def Named (pairs : List (Key × Node)) : Prop := ∀ pair ∈ pairs, (Key.name? pair.1).isSome

mutual

/-- Whether a document means the value, its members in any order and unknown ones among them. -/
def Shape.Means : (s : Shape) → Node → s.Carrier → Prop
  | .flag, n, b => n = .flag b
  | .word _ _, n, w => n = .number (.ok (.ofInt (BitVec.toNat w)))
  | .real, n, x => ∃ m, n = .number (.ok m) ∧ m.value? = some (.real x)
  | .text _, n, t => ∃ q, n = .text q ∧ q.text = .ok t
  | .choice names, n, i => ∃ q, n = .text q ∧ q.text = .ok (names.get i)
  | .nullable s, n, v =>
    match v with
    | none => n = .null
    | some w => (∀ fault?, n ≠ .word .null fault?) ∧ s.Means n w
  | .record _ ms, n, v => ∃ pairs slots, n = .object pairs none ∧ Named pairs ∧
      ms.Gives pairs slots ∧ ms.close slots = .ok v
  | .row _ _ ms, n, v => ∃ items, n = .list items none ∧ ms.Lists items v

/-- Whether an object gives these members and no other known ones, each once. -/
def Members.Gives : (ms : Members) → List (Key × Node) → ms.Slots → Prop
  | .nil, _, _ => True
  | .cons key _ s rest, pairs, slots =>
    Given (fun n w => s.Means n w) key pairs slots.1 ∧ rest.Gives pairs slots.2

/-- Whether a list has one item for each member. -/
def Members.Lists : (ms : Members) → List Node → ms.Carrier → Prop
  | .nil, items, _ => items = []
  | .cons _ .required s rest, items, v =>
    ∃ item more, items = item :: more ∧ s.Means item v.1 ∧ rest.Lists more v.2
  | .cons _ .preset s rest, items, v =>
    ∃ item more w, items = item :: more ∧ v.1 = some w ∧ s.Means item w ∧ rest.Lists more v.2

end

/-! ## Pairs by their names -/

section

variable {name : String} {k : Key} {value n : Node} {pairs : List (Key × Node)}

theorem valuesOf_cons_same (h : k.name? = some name) :
    valuesOf name ((k, value) :: pairs) = value :: valuesOf name pairs := by
  simp [valuesOf, h]

theorem valuesOf_cons_other (h : k.name? ≠ some name) :
    valuesOf name ((k, value) :: pairs) = valuesOf name pairs := by
  simp [valuesOf, h]

theorem Named.cons (h : Named ((k, value) :: pairs)) :
    (∃ found, Decoding.key k = .ok found) ∧ Named pairs := by
  obtain ⟨first, others⟩ := List.forall_mem_cons.mp h
  obtain ⟨found, hfound⟩ := Option.isSome_iff_exists.mp first
  exact ⟨⟨found, Key.name?_eq_some_iff.mp hfound⟩, others⟩

/-! Of an object that has been written, the names are those of its members. -/

theorem Key.name?_ofString (s : String) : Key.name? (.ok (.ofString s)) = some s :=
  name?_eq_some_iff.mpr (Decoding.key_ofString s)

theorem named_memberNodes (u : Node) (members : List (String × Value)) :
    Named (Value.memberNodes u members) := by
  induction members with
  | nil => exact nofun
  | cons member members ih =>
    rw [Value.memberNodes]
    refine List.forall_mem_cons.mpr ⟨?_, ih⟩
    rw [Key.name?_ofString]
    rfl

theorem valuesOf_memberNodes (u : Node) (members : List (String × Value)) :
    valuesOf name (Value.memberNodes u members) =
      (members.filter (·.1 = name)).map (·.2.toNode u) := by
  induction members with
  | nil => rfl
  | cons member members ih =>
    obtain ⟨found, v⟩ := member
    have spells := Key.name?_ofString found
    rw [Value.memberNodes]
    by_cases same : found = name
    · rw [valuesOf_cons_same (by rw [spells, same]), ih]
      simp [same]
    · rw [valuesOf_cons_other (by simpa [spells] using same), ih]
      simp [same]

/-- Only values without a fault stand in an object without one. -/
theorem skipFault?_of_mem_valuesOf (whole : Node.skipMembers? pairs = none)
    (h : n ∈ valuesOf name pairs) : n.skipFault? = none := by
  induction pairs with
  | nil => cases h
  | cons pair pairs ih =>
    obtain ⟨k, value⟩ := pair
    obtain ⟨-, first, others⟩ := Node.skipMembers?_cons whole
    by_cases same : k.name? = some name
    · rw [valuesOf_cons_same same] at h
      rcases List.mem_cons.mp h with rfl | h
      · exact first
      · exact ih others h
    · rw [valuesOf_cons_other same] at h
      exact ih others h

/-- An object that does not give a name has none of its keys spell it. -/
theorem keysIn_of_valuesOf_eq_nil (h : valuesOf name pairs = []) :
    ∃ names, name ∉ names ∧ Decoding.KeysIn names pairs := by
  refine ⟨pairs.filterMap (·.1.name?), ?_, ?_⟩
  · intro member
    obtain ⟨⟨k, value⟩, hpair, hname⟩ := List.mem_filterMap.mp member
    have given : value ∈ valuesOf name pairs :=
      List.mem_filterMap.mpr ⟨(k, value), hpair, if_pos hname⟩
    rw [h] at given
    cases given
  · intro pair hpair found hfound
    exact List.mem_filterMap.mpr ⟨pair, hpair, Key.name?_eq_some_iff.mpr hfound⟩

end

/-- An unknown name fills no slot. -/
theorem Members.fill_eq_none : (ms : Members) → {name : String} → name ∉ ms.keys →
    (value : Node) → (slots : ms.Slots) → ms.fill name value slots = none
  | .nil, _, _, _, _ => rfl
  | .cons key presence s rest, name, unknown, value, slots => by
    obtain ⟨other, others⟩ : name ≠ key ∧ name ∉ rest.keys := by
      simpa [Members.keys] using unknown
    have filled := @fill_other key presence s rest name other value slots.1 slots.2
    rw [fill_eq_none rest others] at filled
    exact filled

namespace Decoding

/-- The only pair of the first member fills its slot, and the others go on as without it. -/
theorem members_found {name : String} (presence : Presence) (s : Shape) {rest : Members}
    (fresh : name ∉ rest.keys) {pairs : List (Key × Node)}
    (whole : Node.skipMembers? pairs = none) {n : Node} (given : valuesOf name pairs = [n])
    {w : s.Carrier} (hn : s.decode n = .ok w) (slots : rest.Slots) :
    members (Members.cons name presence s rest).fill pairs
        (Members.consSlots name presence s none slots) =
      (members rest.fill pairs slots).map (Members.consSlots name presence s (some w)) := by
  induction pairs generalizing slots with
  | nil => cases given
  | cons pair pairs ih =>
    obtain ⟨k, value⟩ := pair
    obtain ⟨-, sound, others⟩ := Node.skipMembers?_cons whole
    cases hk : key k with
    | error p => rw [members_cons_error hk, members_cons_error hk]; rfl
    | ok found =>
      have spells : k.name? = some found := Key.name?_eq_some_iff.mpr hk
      by_cases same : found = name
      · subst same
        rw [valuesOf_cons_same spells] at given
        obtain ⟨rfl, absent⟩ := List.cons.inj given
        obtain ⟨names, notIn, keysIn⟩ := keysIn_of_valuesOf_eq_nil absent
        have filled := @Members.fill_first found presence s rest value slots
        rw [hn] at filled
        rw [members_cons_known hk filled,
          members_cons_unknown hk (rest.fill_eq_none fresh value slots), sound]
        exact members_skip presence s notIn keysIn (some w) slots
      · have other : k.name? ≠ some name := by simpa [spells] using same
        have tail := ih others (by rwa [valuesOf_cons_other other] at given)
        have filled := @Members.fill_other name presence s rest found same value none slots
        cases hfill : rest.fill found value slots with
        | none =>
          rw [hfill] at filled
          rw [members_cons_unknown hk filled, members_cons_unknown hk hfill, sound]
          exact tail slots
        | some r =>
          rw [hfill] at filled
          rw [members_cons_known hk filled, members_cons_known hk hfill]
          cases r with
          | error p => rfl
          | ok more => exact tail more

/-- Unknown members only have to be well formed. -/
theorem members_unknown {pairs : List (Key × Node)} (named : Named pairs)
    (whole : Node.skipMembers? pairs = none) :
    members Members.nil.fill pairs Members.nil.noSlots = .ok () := by
  induction pairs with
  | nil => rfl
  | cons pair pairs ih =>
    obtain ⟨k, value⟩ := pair
    obtain ⟨⟨found, hk⟩, named⟩ := named.cons
    obtain ⟨-, sound, others⟩ := Node.skipMembers?_cons whole
    rw [members_cons_unknown hk rfl, sound]
    exact ih named others

theorem real_of_value {m : Numeral} {x : Binary64} (h : m.value? = some (.real x)) :
    real (.number (.ok m)) = .ok x := by
  simp only [real, h]

theorem text_of_text (wanted : String) {q : Quoted} {t : String} (h : q.text = .ok t) :
    text wanted (.text q) = .ok t := by
  rw [text, h]
  rfl

/-- A name is the one that it spells, whatever its escapes. -/
theorem choice_of_text {names : List String} (distinct : names.Nodup) {q : Quoted}
    {i : Fin names.length} (h : q.text = .ok (names.get i)) : choice names (.text q) = .ok i := by
  have chosen := choice_get distinct i
  rw [choice, name, Quoted.text_ofString] at chosen
  rw [choice, name, h]
  exact chosen

end Decoding

mutual

/-- What means a value is decoded to it. -/
theorem Shape.decode_means : (s : Shape) → s.faithful = true → (n : Node) → n.skipFault? = none →
    (c : s.Carrier) → s.Means n c → s.decode n = .ok c
  | .flag, _, n, _, c, h => by
    obtain rfl : n = .flag c := h
    cases c <;> rfl
  | .word bits wanted, hs, n, _, c, h => by
    obtain rfl : n = .number (.ok (.ofInt (BitVec.toNat c))) := h
    have hbits : bits ≤ 64 := by simpa [Shape.faithful] using hs
    exact Decoding.word_toNat hbits c wanted
  | .real, _, n, _, c, h => by
    obtain ⟨m, rfl, hm⟩ := h
    exact Decoding.real_of_value hm
  | .text wanted, _, n, _, c, h => by
    obtain ⟨q, rfl, hq⟩ := h
    exact Decoding.text_of_text wanted hq
  | .choice names, hs, n, _, c, h => by
    obtain ⟨q, rfl, hq⟩ := h
    have distinct : names.Nodup := by simpa [Shape.faithful] using hs
    exact Decoding.choice_of_text distinct hq
  | .nullable s, hs, n, whole, c, h => by
    obtain ⟨-, faithful⟩ := Shape.faithful_nullable.mp hs
    match c, h with
    | none, h =>
      obtain rfl : n = .null := h
      rfl
    | some w, h =>
      rw [Shape.decode_nullable h.1, s.decode_means faithful n whole w h.2]
      rfl
  | .record name ms, hs, n, whole, c, h => by
    obtain ⟨pairs, slots, rfl, named, gives, closed⟩ := h
    rw [Node.skipFault?, Option.or_eq_none_iff] at whole
    have read := ms.decode_gives hs pairs named whole.1 slots gives
    have decoded : (Shape.record name ms).decode (.object pairs none) =
        (Decoding.members ms.fill pairs ms.noSlots).bind ms.close := rfl
    rw [decoded, read]
    exact closed
  | .row wanted sized ms, hs, n, whole, c, h => by
    obtain ⟨items, rfl, lists⟩ := h
    rw [Node.skipFault?, Option.or_eq_none_iff] at whole
    obtain ⟨-, faithful⟩ := Shape.faithful_row.mp hs
    exact ms.decode_lists faithful items whole.1 c lists sized 0

theorem Members.decode_gives : (ms : Members) → ms.faithful = true →
    (pairs : List (Key × Node)) → Named pairs → Node.skipMembers? pairs = none →
    (slots : ms.Slots) → ms.Gives pairs slots →
    Decoding.members ms.fill pairs ms.noSlots = .ok slots
  | .nil, _, pairs, named, whole, _, _ => Decoding.members_unknown named whole
  | .cons key presence s rest, hs, pairs, named, whole, (slot, slots), h => by
    obtain ⟨fresh, faithful, others⟩ := Members.faithful_cons.mp hs
    have tail := rest.decode_gives others pairs named whole slots h.2
    match slot, h.1 with
    | none, absent =>
      obtain ⟨names, notIn, keysIn⟩ := keysIn_of_valuesOf_eq_nil absent
      have skipped := Decoding.members_skip presence s notIn keysIn none rest.noSlots
      exact skipped.trans (by rw [tail]; rfl)
    | some w, ⟨n, given, means⟩ =>
      have member : n ∈ valuesOf key pairs := by
        rw [given]
        exact List.mem_singleton_self n
      have sound := skipFault?_of_mem_valuesOf whole member
      have found := Decoding.members_found presence s fresh whole given
        (s.decode_means faithful n sound w means) rest.noSlots
      exact found.trans (by rw [tail]; rfl)

theorem Members.decode_lists : (ms : Members) → ms.faithful = true → (items : List Node) →
    Node.skipItems? items = none → (v : ms.Carrier) → ms.Lists items v → (sized : String) →
    (index : Nat) → ms.decodeItems sized index items none = .ok v
  | .nil, _, items, _, v, h, _, _ => by
    obtain rfl : items = [] := h
    rfl
  | .cons key .required s rest, hs, items, whole, v, h, sized, index => by
    obtain ⟨-, faithful, others⟩ := Members.faithful_cons.mp hs
    obtain ⟨item, more, rfl, means, lists⟩ := h
    rw [Node.skipItems?, Option.or_eq_none_iff] at whole
    rw [Members.decodeItems_required, s.decode_means faithful item whole.1 v.1 means,
      rest.decode_lists others more whole.2 v.2 lists sized (index + 1)]
    rfl
  | .cons key .preset s rest, hs, items, whole, (slot, v), h, sized, index => by
    obtain ⟨-, faithful, others⟩ := Members.faithful_cons.mp hs
    obtain ⟨item, more, w, rfl, hw, means, lists⟩ := h
    obtain rfl : slot = some w := hw
    rw [Node.skipItems?, Option.or_eq_none_iff] at whole
    have read : (Members.cons key .preset s rest).decodeItems sized index (item :: more) none =
        (s.decode item).bind fun w =>
          (rest.decodeItems sized (index + 1) more none).bind fun ws => .ok (some w, ws) := rfl
    rw [read, s.decode_means faithful item whole.1 w means,
      rest.decode_lists others more whole.2 v lists sized (index + 1)]
    rfl

end

/-! ## Texts that spell documents -/

theorem Token.Spelled.mono {p q : List UInt8 → Prop} (le : ∀ bytes, p bytes → q bytes) {t : Token}
    {bytes : List UInt8} (h : t.Spelled p bytes) : t.Spelled q bytes := by
  cases h with
  | mark h => exact .mark h
  | word w => exact .word w
  | number allowed h => exact .number (le _ allowed) h
  | text h whole => exact .text h whole

theorem Spelling.mono {p q : List UInt8 → Prop} (le : ∀ bytes, p bytes → q bytes)
    {ts : List Token} {bytes : List UInt8} (h : Spelling p ts bytes) : Spelling q ts bytes := by
  induction h with
  | nil => exact .nil
  | cons blank spelled ends tail ih => exact .cons blank (spelled.mono le) ends ih

/--
Whether a text spells a document without faults: its tokens in order, each in any of its spellings,
with blanks anywhere around them.
-/
def Node.SpelledBy (n : Node) (text : String) : Prop :=
  n.skipFault? = none ∧ ∃ spelled blanks, Text.bytes text = spelled ++ blanks ∧
    Spelling (fun _ => True) n.tokens spelled ∧ ∀ b ∈ blanks, Ascii.isBlank b = true

theorem Node.SpelledBy.ofBytes {n : Node} {text : String} (h : n.SpelledBy text) :
    Document.ofBytes (Text.bytes text) = ⟨n, false⟩ := by
  obtain ⟨whole, spelled, blanks, hbytes, spelling, blank⟩ := h
  rw [hbytes, Document.ofBytes, spelling.tokens_eq blank, Document.ofTokens_tokens whole]

/-- However a value is laid out, its text spells its document. -/
theorem Value.spelledBy_laid {spacing : Spacing} (hspacing : spacing.Blank) {v : Value}
    {text : String} (laid : Text.bytes text = v.laid spacing 0) :
    (v.toNode .null).SpelledBy text := by
  refine ⟨skipFault?_toNode v, v.laid spacing 0, [], ?_, ?_, nofun⟩
  · rw [List.append_nil]
    exact laid
  · exact (Document.spelling_value hspacing v).mono fun _ _ => trivial

theorem Value.spelledBy_compact (v : Value) : (v.toNode .null).SpelledBy v.compact :=
  spelledBy_laid Spacing.compact_blank (bytes_compact 0 v)

theorem Value.spelledBy_pretty (v : Value) : (v.toNode .null).SpelledBy v.pretty :=
  spelledBy_laid Spacing.indented_blank (bytes_indented 0 v)

/-- A text that spells a document is read as what the document is decoded to. -/
theorem Form.readText_spelled {α : Type} (form : Form α) {n : Node} {text : String}
    (spelled : n.SpelledBy text) :
    form.readText text = (form.shape.decode n).map form.ofCarrier := by
  have read : form.readText text =
      (form.shape.read (.ofBytes (Text.bytes text))).map form.ofCarrier := rfl
  rw [read, spelled.ofBytes, Shape.read]
  cases form.shape.decode n <;> rfl

/-- A text that spells what means a value is read as the value. -/
theorem Form.readText_means {α : Type} (form : Form α) (faithful : form.shape.faithful = true)
    {n : Node} {text : String} (spelled : n.SpelledBy text) {c : form.shape.Carrier}
    (means : form.shape.Means n c) : form.readText text = .ok (form.ofCarrier c) := by
  rw [form.readText_spelled spelled, form.shape.decode_means faithful n spelled.1 c means]
  rfl

end CycleLedger.Json
