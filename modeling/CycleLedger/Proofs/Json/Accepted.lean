import CycleLedger.Proofs.Json.Meaning

/-! # Documents that are accepted

What can be said of a document that has been decoded: each known member is given at most once, with
a value that is decoded itself, and a row has one item for each place. So a document that repeats a
known member is refused, on any level.
-/

namespace CycleLedger.Json

theorem Given.mem {α : Type} {means : Node → α → Prop} {name : String} {pairs : List (Key × Node)}
    {given? : Option α} {n : Node} (h : Given means name pairs given?)
    (member : n ∈ valuesOf name pairs) : ∃ a, given? = some a ∧ means n a := by
  cases given? with
  | none =>
    have absent : valuesOf name pairs = [] := h
    rw [absent] at member
    cases member
  | some a =>
    obtain ⟨only, single, states⟩ := h
    rw [single] at member
    obtain rfl := List.mem_singleton.mp member
    exact ⟨a, rfl, states⟩

section

variable {key : String} {presence : Presence} {s : Shape} {rest : Members}

theorem Members.fill_filled (value : Node) (w : s.Carrier) (slots : rest.Slots) :
    (cons key presence s rest).fill key value (consSlots key presence s (some w) slots) =
      some (.error (.mismatch (.repeated key))) :=
  if_pos rfl

/-- What another name fills leaves the first slot as it is. -/
theorem Members.fill_other_ok {found : String} (other : found ≠ key) {value : Node}
    {slot : Option s.Carrier} {slots : rest.Slots} {filled : (cons key presence s rest).Slots}
    (h : (cons key presence s rest).fill found value (consSlots key presence s slot slots) =
      some (.ok filled)) :
    ∃ more, filled = consSlots key presence s slot more := by
  rw [fill_other other, Option.map_eq_some_iff] at h
  obtain ⟨read, -, mapped⟩ := h
  cases read with
  | error p => cases mapped
  | ok more => exact ⟨more, (Except.ok.inj mapped).symm⟩

end

namespace Decoding

/-- A pair of an object that is read has a key that can be read, and fills a slot or is skipped. -/
theorem members_cons_ok {σ : Type} {fill : String → Node → σ → Option (Except Problem σ)} {k : Key}
    {value : Node} {pairs : List (Key × Node)} {slots r : σ}
    (h : members fill ((k, value) :: pairs) slots = .ok r) :
    ∃ found, key k = .ok found ∧
      ((fill found value slots = none ∧ members fill pairs slots = .ok r) ∨
        ∃ more, fill found value slots = some (.ok more) ∧ members fill pairs more = .ok r) := by
  cases hk : key k with
  | error p =>
    rw [members_cons_error hk] at h
    cases h
  | ok found =>
    refine ⟨found, rfl, ?_⟩
    cases hfill : fill found value slots with
    | none =>
      rw [members_cons_unknown hk hfill] at h
      cases hskip : value.skipFault? with
      | none =>
        rw [hskip] at h
        exact .inl ⟨rfl, h⟩
      | some f =>
        rw [hskip] at h
        cases h
    | some read =>
      rw [members_cons_known hk hfill] at h
      cases read with
      | error p => cases h
      | ok more => exact .inr ⟨more, rfl, h⟩

section

variable {name : String} {presence : Presence} {s : Shape} {rest : Members}
  {pairs : List (Key × Node)} {slots : rest.Slots} {r : (Members.cons name presence s rest).Slots}

/-- Once the first slot is filled, its name does not come again. -/
theorem valuesOf_of_filled {w : s.Carrier}
    (h : members (Members.cons name presence s rest).fill pairs
      (Members.consSlots name presence s (some w) slots) = .ok r) : valuesOf name pairs = [] := by
  induction pairs generalizing slots with
  | nil => rfl
  | cons pair pairs ih =>
    obtain ⟨k, value⟩ := pair
    obtain ⟨found, hk, h⟩ := members_cons_ok h
    have spells : k.name? = some found := Key.name?_eq_some_iff.mpr hk
    by_cases same : found = name
    · subst same
      rw [Members.fill_filled] at h
      rcases h with ⟨unknown, -⟩ | ⟨more, filled, -⟩
      · cases unknown
      · cases filled
    · rw [valuesOf_cons_other (by simpa [spells] using same)]
      rcases h with ⟨-, h⟩ | ⟨filled, hfilled, h⟩
      · exact ih h
      · obtain ⟨more, rfl⟩ := Members.fill_other_ok same hfilled
        exact ih h

/-- The first member is given at most once, with a value that is decoded. -/
theorem given_of_members (h : members (Members.cons name presence s rest).fill pairs
      (Members.consSlots name presence s none slots) = .ok r) :
    ∃ slot, Given (fun n w => s.decode n = .ok w) name pairs slot := by
  induction pairs generalizing slots with
  | nil => exact ⟨none, rfl⟩
  | cons pair pairs ih =>
    obtain ⟨k, value⟩ := pair
    obtain ⟨found, hk, h⟩ := members_cons_ok h
    have spells : k.name? = some found := Key.name?_eq_some_iff.mpr hk
    by_cases same : found = name
    · subst same
      rw [Members.fill_first] at h
      rcases h with ⟨unknown, -⟩ | ⟨filled, hfilled, h⟩
      · cases unknown
      · cases hw : s.decode value with
        | error p =>
          rw [hw] at hfilled
          cases hfilled
        | ok w =>
          rw [hw] at hfilled
          cases hfilled
          refine ⟨some w, value, ?_, hw⟩
          rw [valuesOf_cons_same spells, valuesOf_of_filled h]
    · have tail : ∃ slot, Given (fun n w => s.decode n = .ok w) name pairs slot := by
        rcases h with ⟨-, h⟩ | ⟨filled, hfilled, h⟩
        · exact ih h
        · obtain ⟨more, rfl⟩ := Members.fill_other_ok same hfilled
          exact ih h
      obtain ⟨slot, given⟩ := tail
      refine ⟨slot, ?_⟩
      cases slot <;> rwa [Given, valuesOf_cons_other (by simpa [spells] using same)]

/--
An object is read exactly if its first member is absent or given once with a value that is decoded,
and the object is read for the other members.
-/
theorem members_iff (fresh : name ∉ rest.keys) (whole : Node.skipMembers? pairs = none) :
    members (Members.cons name presence s rest).fill pairs
        (Members.consSlots name presence s none slots) = .ok r ↔
      ∃ slot more, Given (fun n w => s.decode n = .ok w) name pairs slot ∧
        members rest.fill pairs slots = .ok more ∧
        r = Members.consSlots name presence s slot more := by
  have split {slot : Option s.Carrier}
      (given : Given (fun n w => s.decode n = .ok w) name pairs slot) :
      members (Members.cons name presence s rest).fill pairs
          (Members.consSlots name presence s none slots) =
        (members rest.fill pairs slots).map (Members.consSlots name presence s slot) := by
    cases slot with
    | none =>
      obtain ⟨names, notIn, keysIn⟩ := keysIn_of_valuesOf_eq_nil given
      exact members_skip presence s notIn keysIn none slots
    | some w =>
      obtain ⟨n, only, hn⟩ := given
      exact members_found presence s fresh whole only hn slots
  constructor
  · intro h
    obtain ⟨slot, given⟩ := given_of_members h
    rw [split given] at h
    cases hmore : members rest.fill pairs slots with
    | error p =>
      rw [hmore] at h
      cases h
    | ok more =>
      rw [hmore] at h
      exact ⟨slot, more, given, rfl, (Except.ok.inj h).symm⟩
  · rintro ⟨slot, more, given, read, rfl⟩
    rw [split given, read]
    rfl

end

end Decoding

/-- A record is read from an object exactly if its members are, and all that must be there is. -/
theorem Shape.decode_object_iff {name : String} {ms : Members} {pairs : List (Key × Node)}
    {c : ms.Carrier} : (Shape.record name ms).decode (.object pairs none) = .ok c ↔
      ∃ slots, Decoding.members ms.fill pairs ms.noSlots = .ok slots ∧ ms.close slots = .ok c := by
  have decoded : (Shape.record name ms).decode (.object pairs none) =
      (Decoding.members ms.fill pairs ms.noSlots).bind ms.close := rfl
  rw [decoded]
  cases Decoding.members ms.fill pairs ms.noSlots with
  | error p => simp [Except.bind]
  | ok slots =>
    simp only [Except.bind, Except.ok.injEq, exists_eq_left']
    exact Iff.rfl

/-! ## Members that are repeated -/

mutual

/-- Whether a known member is given more than once, in the document or in a record within it. -/
def Shape.Repeats : Shape → Node → Prop
  | .record _ ms, n => ∃ pairs, n = .object pairs none ∧ ms.Repeats pairs
  | _, _ => False

def Members.Repeats : Members → List (Key × Node) → Prop
  | .nil, _ => False
  | .cons key _ s rest, pairs =>
    2 ≤ (valuesOf key pairs).length ∨ (∃ n ∈ valuesOf key pairs, s.Repeats n) ∨ rest.Repeats pairs

end

mutual

theorem Shape.not_repeats : (s : Shape) → s.faithful = true → (n : Node) → n.skipFault? = none →
    (c : s.Carrier) → s.decode n = .ok c → ¬s.Repeats n
  | .record name ms, faithful, n, whole, c, h => by
    rintro ⟨pairs, rfl, repeats⟩
    rw [Node.skipFault?, Option.or_eq_none_iff] at whole
    obtain ⟨slots, read, -⟩ := Shape.decode_object_iff.mp h
    exact ms.not_repeats faithful pairs whole.1 slots read repeats
  | .flag, _, _, _, _, _ | .word _ _, _, _, _, _, _ | .real, _, _, _, _, _
  | .text _, _, _, _, _, _ | .choice _, _, _, _, _, _ | .nullable _, _, _, _, _, _
  | .row _ _ _, _, _, _, _, _ => id

theorem Members.not_repeats : (ms : Members) → ms.faithful = true → (pairs : List (Key × Node)) →
    Node.skipMembers? pairs = none → (slots : ms.Slots) →
    Decoding.members ms.fill pairs ms.noSlots = .ok slots → ¬ms.Repeats pairs
  | .nil, _, _, _, _, _ => id
  | .cons key presence s rest, hs, pairs, whole, slots, h => by
    obtain ⟨fresh, faithful, others⟩ := Members.faithful_cons.mp hs
    obtain ⟨slot, more, given, read, -⟩ := (Decoding.members_iff fresh whole).mp h
    rintro (twice | ⟨n, member, repeats⟩ | repeats)
    · cases slot with
      | none =>
        have absent : valuesOf key pairs = [] := given
        simp [absent] at twice
      | some w =>
        obtain ⟨n, only, -⟩ := given
        simp [only] at twice
    · have sound := skipFault?_of_mem_valuesOf whole member
      obtain ⟨w, -, hn⟩ := given.mem member
      exact s.not_repeats faithful n sound w hn repeats
    · exact rest.not_repeats others pairs whole more read repeats

end

/-! ## Rows -/

def Members.shapes : Members → List Shape
  | nil => []
  | cons _ _ s rest => s :: rest.shapes

/-- A list that is read as a row has one item for each place, and each is decoded. -/
theorem Members.decodeItems_ok : (ms : Members) → ms.allRequired = true → {sized : String} →
    {index : Nat} → {items : List Node} → {fault? : Option Fault} → {c : ms.Carrier} →
    ms.decodeItems sized index items fault? = .ok c →
    items.length = ms.length ∧ ∀ item ∈ items, ∃ s ∈ ms.shapes, ∃ w, s.decode item = .ok w
  | .nil, _, sized, index, items, fault?, c, h => by
    cases items with
    | nil => exact ⟨rfl, nofun⟩
    | cons item items =>
      rw [decodeItems] at h
      cases h
  | .cons key .required s rest, hr, sized, index, items, fault?, c, h => by
    have required : rest.allRequired = true := by simpa [allRequired] using hr
    cases items with
    | nil =>
      cases fault? <;> simp [decodeItems] at h
    | cons item items =>
      rw [decodeItems_required] at h
      cases hw : s.decode item with
      | error p =>
        rw [hw] at h
        cases h
      | ok w =>
        rw [hw] at h
        cases hmore : rest.decodeItems sized (index + 1) items fault? with
        | error p =>
          simp only [Except.bind, hmore] at h
          cases h
        | ok more =>
          obtain ⟨length, each⟩ := decodeItems_ok rest required hmore
          refine ⟨congrArg (· + 1) length, List.forall_mem_cons.mpr ⟨?_, fun other member => ?_⟩⟩
          · exact ⟨s, List.mem_cons_self, w, hw⟩
          · obtain ⟨t, shape, decoded⟩ := each other member
            exact ⟨t, List.mem_cons_of_mem s shape, decoded⟩
  | .cons key .preset s rest, hr, _, _, _, _, _, _ => by simp [allRequired] at hr

theorem Shape.decode_list_ok {wanted sized : String} {ms : Members} {items : List Node}
    {c : ms.Carrier} (required : ms.allRequired = true)
    (h : (Shape.row wanted sized ms).decode (.list items none) = .ok c) :
    items.length = ms.length ∧ ∀ item ∈ items, ∃ s ∈ ms.shapes, ∃ w, s.decode item = .ok w :=
  ms.decodeItems_ok required h

end CycleLedger.Json
