import CycleLedger.Proofs.Json.Accepted

/-! # Documents with members left out

A member of a document has a path, the keys that lead to it. A document can show a value except for
the members whose paths are gone. It is then decoded unless one of these is needed, and what is gone
is left to the reader or undefined.
-/

namespace CycleLedger.Json

/-! ## Paths -/

mutual

/-- The paths of all members of a record and of the records in it. -/
def Shape.paths : Shape → List (List String)
  | .record _ ms => ms.paths
  | _ => []

def Members.paths : Members → List (List String)
  | .nil => []
  | .cons key _ s rest => [key] :: s.paths.map (key :: ·) ++ rest.paths

end

/-- Of a member and those in it, the paths that are needed: none if it may be absent. -/
def Presence.needed (presence : Presence) (key : String) (nullable : Bool)
    (inner : List (List String)) : List (List String) :=
  match presence, nullable with
  | .required, false => [key] :: inner.map (key :: ·)
  | _, _ => []

mutual

/-- The paths of the members without which a document is refused. -/
def Shape.needed : Shape → List (List String)
  | .record _ ms => ms.needed
  | _ => []

def Members.needed : Members → List (List String)
  | .nil => []
  | .cons key presence s rest => presence.needed key s.isNullable s.needed ++ rest.needed

end

mutual

/-- There is no record in the shape. -/
def Shape.isBare : Shape → Bool
  | .record _ _ => false
  | .nullable s => s.isBare
  | .row _ _ ms => ms.areBare
  | _ => true

def Members.areBare : Members → Bool
  | .nil => true
  | .cons _ _ s rest => s.isBare && rest.areBare

end

mutual

/-- Records stand only in records, and one that is preset needs none of its members. -/
def Shape.lenient : Shape → Bool
  | .record _ ms => ms.lenient
  | s => s.isBare

def Members.lenient : Members → Bool
  | .nil => true
  | .cons _ presence s rest =>
    (decide (presence = .required) || s.needed.isEmpty) && s.lenient && rest.lenient

end

/-! ## Values that are shown -/

/-- The value of a member as it is written, if it is. -/
def Presence.written? {α : Type} : (presence : Presence) → presence.Carrier α → Option α
  | .required, a => some a
  | .preset, a? => a?

mutual

/-- Whether a document means the value except for the members that are gone, which it lacks. -/
def Shape.Shows : (s : Shape) → (gone : List String → Bool) → Node → s.Carrier → Prop
  | .record _ ms, gone, n, v => ∃ pairs, n = .object pairs none ∧ Named pairs ∧
      ms.Shows gone pairs v
  | s, _, n, v => s.Means n v

def Members.Shows : (ms : Members) → (gone : List String → Bool) → List (Key × Node) →
    ms.Carrier → Prop
  | .nil, _, _, _ => True
  | .cons key presence s rest, gone, pairs, v =>
    Given (fun n w => s.Shows (fun path => gone (key :: path)) n w) key pairs
        (if gone [key] then none else presence.written? v.1) ∧
      rest.Shows gone pairs v.2

end

/-- A member as it is decoded: if it is gone it is left to the reader, or null if it can be. -/
def Presence.blank {α : Type} (gone : Bool) (absent? : Option α) (inner : α → α) :
    (presence : Presence) → presence.Carrier α → presence.Carrier α
  | .required, a => match absent? with
    | some gap => if gone then gap else inner a
    | none => inner a
  | .preset, a? => if gone then none else a?.map inner

theorem Presence.blank_kept {α : Type} (absent? : Option α) (inner : α → α) (a : α) :
    Presence.required.blank false absent? inner a = inner a := by
  cases absent? <;> rfl

mutual

/-- What is decoded of a document that shows the value without these members. -/
def Shape.blank : (s : Shape) → (gone : List String → Bool) → s.Carrier → s.Carrier
  | .record _ ms, gone, v => ms.blank gone v
  | .flag, _, v | .word _ _, _, v | .real, _, v | .text _, _, v | .choice _, _, v
  | .nullable _, _, v | .row _ _ _, _, v => v

def Members.blank : (ms : Members) → (gone : List String → Bool) → ms.Carrier → ms.Carrier
  | .nil, _, v => v
  | .cons key presence s rest, gone, v =>
    (presence.blank (gone [key]) s.absent? (s.blank fun path => gone (key :: path)) v.1,
      rest.blank gone v.2)

end

mutual

/-- If nothing is gone, the whole value is decoded. -/
theorem Shape.blank_none : (s : Shape) → (v : s.Carrier) → s.blank (fun _ => false) v = v
  | .record _ ms, v => ms.blank_none v
  | .flag, _ | .word _ _, _ | .real, _ | .text _, _ | .choice _, _ | .nullable _, _
  | .row _ _ _, _ => rfl

theorem Members.blank_none : (ms : Members) → (v : ms.Carrier) →
    ms.blank (fun _ => false) v = v
  | .nil, _ => rfl
  | .cons key .required s rest, (a, v) => by
    have first := (Presence.blank_kept s.absent? (s.blank fun _ => false) a).trans
      (s.blank_none a)
    exact Prod.ext first (rest.blank_none v)
  | .cons key .preset s rest, (a?, v) => by
    have first : a?.map (s.blank fun _ => false) = a? := by
      cases a? with
      | none => rfl
      | some a => exact congrArg some (s.blank_none a)
    exact Prod.ext first (rest.blank_none v)

end

/-! ## Decoding what is shown -/

section

variable {α β : Type} {means : Node → α → Prop} {name : String} {pairs : List (Key × Node)}
  {given? : Option α}

theorem Given.iff_none (absent : valuesOf name pairs = []) :
    Given means name pairs given? ↔ given? = none := by
  cases given? <;> simp [Given, absent]

theorem Given.iff_some {n : Node} (only : valuesOf name pairs = [n]) :
    Given means name pairs given? ↔ ∃ a, given? = some a ∧ means n a := by
  cases given? <;> simp [Given, only]

end

/-- A member can be absent if it can be null, and then is. -/
theorem Shape.absent?_iff {s : Shape} {inner : s.Carrier → s.Carrier} {a v : s.Carrier} :
    s.absent? = some a ↔
      s.isNullable = true ∧ a = Presence.required.blank true s.absent? inner v := by
  cases s with
  | nullable s =>
    exact ⟨fun h => ⟨rfl, (Option.some.inj h).symm⟩, fun h => congrArg some h.2.symm⟩
  | _ => simp [absent?, isNullable]

theorem Shape.needed_of_isNullable {s : Shape} (h : s.isNullable = true) : s.needed = [] := by
  cases s with
  | nullable s => rfl
  | _ => cases h

/-- The value that a slot leaves to the record, if it may be left so. -/
def Presence.settle? : (presence : Presence) → (s : Shape) → Option s.Carrier →
    Option (presence.Carrier s.Carrier)
  | .required, s, slot => slot.or s.absent?
  | .preset, _, slot => some slot

section

variable {key : String} {presence : Presence} {s : Shape} {rest : Members}
  {pairs : List (Key × Node)} {gone : List String → Bool}

/-- At its end, a record is refused for the first member that is not left to it. -/
theorem Members.close_cons (slot : Option s.Carrier) (more : rest.Slots) :
    (cons key presence s rest).close (consSlots key presence s slot more) =
      (presence.settle? s slot).elim (.error (.mismatch (.missing key))) fun a =>
        (rest.close more).map fun v => (a, v) := by
  cases presence with
  | preset => rfl
  | required =>
    simp only [close, consSlots, Presence.settle?]
    cases slot.or s.absent? <;> rfl

theorem Members.close_iff {slot : Option s.Carrier} {more : rest.Slots}
    {c : (cons key presence s rest).Carrier} :
    (cons key presence s rest).close (consSlots key presence s slot more) = .ok c ↔
      presence.settle? s slot = some c.1 ∧ rest.close more = .ok c.2 := by
  obtain ⟨a, v⟩ := c
  have mapped (w : presence.Carrier s.Carrier) :
      (rest.close more).map (fun others => (w, others)) = .ok (a, v) ↔
        w = a ∧ rest.close more = .ok v := by
    cases rest.close more <;> simp [Except.map]
  rw [close_cons]
  cases presence.settle? s slot with
  | none => simp
  | some w => exact (mapped w).trans (and_congr_left' Option.some_inj.symm)

/-- A record is read exactly if its first member is left to it and the other members are read. -/
theorem Members.read_iff (fresh : key ∉ rest.keys) (whole : Node.skipMembers? pairs = none)
    {a : presence.Carrier s.Carrier} {c : rest.Carrier} :
    (∃ slots, Decoding.members (cons key presence s rest).fill pairs
        (cons key presence s rest).noSlots = .ok slots ∧
        (cons key presence s rest).close slots = .ok (a, c)) ↔
      (∃ slot, Given (fun n w => s.decode n = .ok w) key pairs slot ∧
        presence.settle? s slot = some a) ∧
      ∃ more, Decoding.members rest.fill pairs rest.noSlots = .ok more ∧
        rest.close more = .ok c := by
  constructor
  · rintro ⟨slots, read, closed⟩
    obtain ⟨slot, more, given, readMore, rfl⟩ := (Decoding.members_iff fresh whole).mp read
    obtain ⟨settled, closedMore⟩ := close_iff.mp closed
    exact ⟨⟨slot, given, settled⟩, more, readMore, closedMore⟩
  · rintro ⟨⟨slot, given, settled⟩, more, readMore, closedMore⟩
    exact ⟨_, (Decoding.members_iff fresh whole).mpr ⟨slot, more, given, readMore, rfl⟩,
      close_iff.mpr ⟨settled, closedMore⟩⟩

theorem Presence.settle_of_absent (absent : valuesOf key pairs = [])
    {a : presence.Carrier s.Carrier} :
    (∃ slot, Given (fun n w => s.decode n = .ok w) key pairs slot ∧
        presence.settle? s slot = some a) ↔ presence.settle? s none = some a := by
  simp only [Given.iff_none absent, exists_eq_left]

theorem Presence.settle_of_only {n : Node} (only : valuesOf key pairs = [n])
    {a : presence.Carrier s.Carrier} :
    (∃ slot, Given (fun n w => s.decode n = .ok w) key pairs slot ∧
        presence.settle? s slot = some a) ↔
      ∃ w, s.decode n = .ok w ∧ presence.settle? s (some w) = some a := by
  simp only [Given.iff_some only]
  constructor
  · rintro ⟨slot, ⟨w, rfl, decoded⟩, settled⟩
    exact ⟨w, decoded, settled⟩
  · rintro ⟨w, decoded, settled⟩
    exact ⟨some w, ⟨w, rfl, decoded⟩, settled⟩

/--
Given what decoding makes of its value, a member can be left to the record exactly if nothing that
is needed is gone.
-/
theorem Presence.settle_iff (spare : presence = .required ∨ s.needed = [])
    {a v : presence.Carrier s.Carrier}
    (shows : Given (fun n w => s.Shows (fun path => gone (key :: path)) n w) key pairs
      (if gone [key] then none else presence.written? v))
    (decode : ∀ n ∈ valuesOf key pairs, ∀ w c, s.Shows (fun path => gone (key :: path)) n w →
      (s.decode n = .ok c ↔ (∀ path ∈ s.needed, gone (key :: path) = false) ∧
        c = s.blank (fun path => gone (key :: path)) w)) :
    (∃ slot, Given (fun n w => s.decode n = .ok w) key pairs slot ∧
        presence.settle? s slot = some a) ↔
      (∀ path ∈ presence.needed key s.isNullable s.needed, gone path = false) ∧
        a = presence.blank (gone [key]) s.absent? (s.blank fun path => gone (key :: path)) v := by
  have present {n : Node} (only : valuesOf key pairs = [n]) {w : s.Carrier}
      (shown : s.Shows (fun path => gone (key :: path)) n w) :
      (∃ slot, Given (fun n w => s.decode n = .ok w) key pairs slot ∧
        presence.settle? s slot = some a) ↔
      (∀ path ∈ s.needed, gone (key :: path) = false) ∧
        presence.settle? s (some (s.blank (fun path => gone (key :: path)) w)) = some a := by
    have member : n ∈ valuesOf key pairs := by
      rw [only]
      exact List.mem_singleton_self n
    rw [settle_of_only only]
    simp only [decode n member w _ shown, and_assoc, exists_and_left, exists_eq_left]
  cases presence with
  | preset =>
    have inner : s.needed = [] := spare.resolve_left nofun
    have needs : Presence.preset.needed key s.isNullable s.needed = [] := rfl
    simp only [needs, List.not_mem_nil, false_implies, implies_true, true_and]
    cases hgone : gone [key] with
    | true =>
      rw [hgone] at shows
      rw [settle_of_absent shows]
      exact Option.some_inj.trans eq_comm
    | false =>
      rw [hgone] at shows
      cases v with
      | none =>
        rw [settle_of_absent shows]
        exact Option.some_inj.trans eq_comm
      | some w =>
        obtain ⟨n, only, shown⟩ := shows
        rw [present only shown]
        simp only [inner, List.not_mem_nil, false_implies, implies_true, true_and]
        exact Option.some_inj.trans eq_comm
  | required =>
    cases hgone : gone [key] with
    | true =>
      have needs : (∀ path ∈ Presence.required.needed key s.isNullable s.needed,
          gone path = false) ↔ s.isNullable = true := by
        cases s.isNullable <;> simp [Presence.needed, hgone]
      rw [hgone] at shows
      rw [settle_of_absent shows, needs]
      exact Shape.absent?_iff
    | false =>
      have needs : (∀ path ∈ Presence.required.needed key s.isNullable s.needed,
          gone path = false) ↔ ∀ path ∈ s.needed, gone (key :: path) = false := by
        cases hnull : s.isNullable with
        | false => simp [Presence.needed, hgone]
        | true => simp [Presence.needed, Shape.needed_of_isNullable hnull]
      have kept := Presence.blank_kept s.absent? (s.blank fun path => gone (key :: path)) v
      rw [hgone] at shows
      obtain ⟨n, only, shown⟩ := shows
      rw [present only shown, needs, kept]
      exact and_congr_right' (Option.some_inj.trans eq_comm)

end

section

variable {s : Shape} {n : Node} {gone : List String → Bool} {v c : s.Carrier}

theorem Shape.decode_means_iff (faithful : s.faithful = true) (whole : n.skipFault? = none)
    (h : s.Means n v) :
    s.decode n = .ok c ↔ (∀ path ∈ ([] : List (List String)), gone path = false) ∧ c = v := by
  rw [s.decode_means faithful n whole v h]
  exact ⟨fun same => ⟨nofun, (Except.ok.inj same).symm⟩, fun same => congrArg _ same.2.symm⟩

end

mutual

/--
A document that shows a value is decoded exactly if nothing that is needed is gone, and then to the
value without what is gone.
-/
theorem Shape.decode_shows : (s : Shape) → s.faithful = true → s.lenient = true →
    (gone : List String → Bool) → (n : Node) → n.skipFault? = none → (v : s.Carrier) →
    s.Shows gone n v → (c : s.Carrier) →
    (s.decode n = .ok c ↔ (∀ path ∈ s.needed, gone path = false) ∧ c = s.blank gone v)
  | .record name ms, faithful, lenient, gone, n, whole, v, h, c => by
    obtain ⟨pairs, rfl, named, shows⟩ := h
    rw [Node.skipFault?, Option.or_eq_none_iff] at whole
    exact Shape.decode_object_iff.trans
      (ms.decode_shows faithful lenient gone pairs whole.1 named v shows c)
  | .flag, faithful, _, _, _, whole, _, h, _ | .word _ _, faithful, _, _, _, whole, _, h, _
  | .real, faithful, _, _, _, whole, _, h, _ | .text _, faithful, _, _, _, whole, _, h, _
  | .choice _, faithful, _, _, _, whole, _, h, _ | .nullable _, faithful, _, _, _, whole, _, h, _
  | .row _ _ _, faithful, _, _, _, whole, _, h, _ => Shape.decode_means_iff faithful whole h

theorem Members.decode_shows : (ms : Members) → ms.faithful = true → ms.lenient = true →
    (gone : List String → Bool) → (pairs : List (Key × Node)) → Node.skipMembers? pairs = none →
    Named pairs → (v : ms.Carrier) → ms.Shows gone pairs v → (c : ms.Carrier) →
    ((∃ slots, Decoding.members ms.fill pairs ms.noSlots = .ok slots ∧ ms.close slots = .ok c) ↔
      (∀ path ∈ ms.needed, gone path = false) ∧ c = ms.blank gone v)
  | .nil, _, _, _, _, whole, named, _, _, _ =>
    iff_of_true ⟨(), Decoding.members_unknown named whole, rfl⟩ ⟨nofun, rfl⟩
  | .cons key presence s rest, hs, lenient, gone, pairs, whole, named, (a, v), h, (b, c) => by
    obtain ⟨fresh, faithful, others⟩ := Members.faithful_cons.mp hs
    obtain ⟨⟨spare, inner⟩, outer⟩ :
        ((presence = .required ∨ s.needed = []) ∧ s.lenient = true) ∧ rest.lenient = true := by
      simpa [Members.lenient] using lenient
    have first := Presence.settle_iff spare (a := b) h.1 fun n member w c shown =>
      s.decode_shows faithful inner (fun path => gone (key :: path)) n
        (skipFault?_of_mem_valuesOf whole member) w shown c
    have tail := rest.decode_shows others outer gone pairs whole named v h.2 c
    have needs : (∀ path ∈ (Members.cons key presence s rest).needed, gone path = false) ↔
        (∀ path ∈ presence.needed key s.isNullable s.needed, gone path = false) ∧
          ∀ path ∈ rest.needed, gone path = false := List.forall_mem_append
    have same : (b, c) = (Members.cons key presence s rest).blank gone (a, v) ↔
        b = presence.blank (gone [key]) s.absent? (s.blank fun path => gone (key :: path)) a ∧
          c = rest.blank gone v := Prod.ext_iff
    exact (Members.read_iff fresh whole).trans ((and_congr first tail).trans
      (and_and_and_comm.trans (and_congr needs.symm same.symm)))

end

end CycleLedger.Json
