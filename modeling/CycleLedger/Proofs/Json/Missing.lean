import CycleLedger.Proofs.Json.Absence

/-! # Members that are missed

A document that shows a value except for members that are gone is refused for nothing else: the
problem names a member that is needed and gone.
-/

namespace CycleLedger.Json

/-- The problem is that a member is missing whose path is one of these, and gone. -/
def Missing (paths : List (List String)) (gone : List String → Bool) (p : Problem) : Prop :=
  ∃ path key, path ++ [key] ∈ paths ∧ gone (path ++ [key]) = true ∧ p = .mismatch (.missing key)

section

variable {gone : List String → Bool} {p : Problem} {paths more : List (List String)}

theorem Missing.left (h : Missing paths gone p) : Missing (paths ++ more) gone p := by
  obtain ⟨path, key, needed, missing, rfl⟩ := h
  exact ⟨path, key, List.mem_append_left more needed, missing, rfl⟩

theorem Missing.right (h : Missing more gone p) : Missing (paths ++ more) gone p := by
  obtain ⟨path, key, needed, missing, rfl⟩ := h
  exact ⟨path, key, List.mem_append_right paths needed, missing, rfl⟩

/-- If only one member is gone, it is the one that is named. -/
theorem Missing.eq_of_only {path : List String} {key : String}
    (h : Missing paths (· = path ++ [key]) p) : p = .mismatch (.missing key) := by
  obtain ⟨path', key', -, missing, rfl⟩ := h
  obtain ⟨-, same⟩ := List.append_inj' (of_decide_eq_true missing) rfl
  rw [(List.cons.inj same).1]

end

namespace Decoding

/-- If the value of the first member is refused, so is the object, unless others are before it. -/
theorem members_refused {name : String} (presence : Presence) (s : Shape) {rest : Members}
    {pairs : List (Key × Node)} {n : Node} (only : valuesOf name pairs = [n]) {p : Problem}
    (hn : s.decode n = .error p) (slots : rest.Slots) :
    members (Members.cons name presence s rest).fill pairs
        (Members.consSlots name presence s none slots) = .error p ∨
      ∃ q, members rest.fill pairs slots = .error q ∧
        members (Members.cons name presence s rest).fill pairs
          (Members.consSlots name presence s none slots) = .error q := by
  induction pairs generalizing slots with
  | nil => cases only
  | cons pair pairs ih =>
    obtain ⟨k, value⟩ := pair
    cases hk : key k with
    | error q => exact .inr ⟨q, members_cons_error hk, members_cons_error hk⟩
    | ok found =>
      have spells : k.name? = some found := Key.name?_eq_some_iff.mpr hk
      by_cases same : found = name
      · subst same
        rw [valuesOf_cons_same spells] at only
        obtain ⟨rfl, -⟩ := List.cons.inj only
        have filled := @Members.fill_first found presence s rest value slots
        rw [hn] at filled
        exact .inl (members_cons_known hk filled)
      · rw [valuesOf_cons_other (by simpa [spells] using same)] at only
        have filled := @Members.fill_other name presence s rest found same value none slots
        cases hfill : rest.fill found value slots with
        | none =>
          rw [hfill] at filled
          rw [members_cons_unknown hk filled, members_cons_unknown hk hfill]
          cases value.skipFault? with
          | none => exact ih only slots
          | some f => exact .inr ⟨.fault f, rfl, rfl⟩
        | some r =>
          rw [hfill] at filled
          rw [members_cons_known hk filled, members_cons_known hk hfill]
          cases r with
          | error q => exact .inr ⟨q, rfl, rfl⟩
          | ok more => exact ih only more

end Decoding

section

variable {key : String} {presence : Presence} {s : Shape} {rest : Members} {p : Problem}
  {gone : List String → Bool}

/-- At the end of an object, what is refused is a member that is not there. -/
theorem Members.close_error {slot : Option s.Carrier} {more : rest.Slots}
    (h : (cons key presence s rest).close (consSlots key presence s slot more) = .error p) :
    (presence.settle? s slot = none ∧ p = .mismatch (.missing key)) ∨
      rest.close more = .error p := by
  rw [close_cons] at h
  cases settled : presence.settle? s slot with
  | none =>
    rw [settled] at h
    exact .inl ⟨rfl, (Except.error.inj h).symm⟩
  | some a =>
    rw [settled] at h
    cases closed : rest.close more with
    | error q =>
      rw [closed] at h
      exact .inr (congrArg Except.error (Except.error.inj h))
    | ok v =>
      rw [closed] at h
      cases h

/-- A required member that is not there and cannot be absent is missed. -/
theorem Missing.absent (missing : gone [key] = true) (h : presence.settle? s none = none) :
    Missing (presence.needed key s.isNullable s.needed) gone (.mismatch (.missing key)) := by
  cases presence with
  | preset => cases h
  | required =>
    cases s with
    | nullable s => cases h
    | _ => exact ⟨[], key, List.mem_cons_self, missing, rfl⟩

/-- A member that is needed in a member is needed, and one that can be absent needs none. -/
theorem Missing.member (spare : presence = .required ∨ s.needed = [])
    (h : Missing s.needed (fun path => gone (key :: path)) p) :
    Missing (presence.needed key s.isNullable s.needed) gone p := by
  obtain ⟨path, found, needed, missing, rfl⟩ := h
  have some : s.needed ≠ [] := List.ne_nil_of_mem needed
  have kept : s.isNullable = false := by
    cases hnull : s.isNullable with
    | false => rfl
    | true => exact absurd (Shape.needed_of_isNullable hnull) some
  obtain rfl : presence = .required := spare.resolve_right some
  rw [kept]
  exact ⟨key :: path, found, List.mem_cons_of_mem _ (List.mem_map_of_mem needed), missing, rfl⟩

end

theorem Shape.decode_means_ne {s : Shape} {n : Node} {v : s.Carrier} {p : Problem}
    (faithful : s.faithful = true) (whole : n.skipFault? = none) (h : s.Means n v) :
    s.decode n ≠ .error p := by
  rw [s.decode_means faithful n whole v h]
  exact nofun

mutual

/-- A document that shows a value is refused only because a member is missing that is needed. -/
theorem Shape.decode_missing : (s : Shape) → s.faithful = true → s.lenient = true →
    (gone : List String → Bool) → (n : Node) → n.skipFault? = none → (v : s.Carrier) →
    s.Shows gone n v → (p : Problem) → s.decode n = .error p → Missing s.needed gone p
  | .record name ms, faithful, lenient, gone, n, whole, v, h, p, refused => by
    obtain ⟨pairs, rfl, named, shows⟩ := h
    rw [Node.skipFault?, Option.or_eq_none_iff] at whole
    exact ms.decode_missing faithful lenient gone pairs whole.1 named v shows p refused
  | .flag, faithful, _, _, _, whole, _, h, _, refused
  | .word _ _, faithful, _, _, _, whole, _, h, _, refused
  | .real, faithful, _, _, _, whole, _, h, _, refused
  | .text _, faithful, _, _, _, whole, _, h, _, refused
  | .choice _, faithful, _, _, _, whole, _, h, _, refused
  | .nullable _, faithful, _, _, _, whole, _, h, _, refused
  | .row _ _ _, faithful, _, _, _, whole, _, h, _, refused =>
    absurd refused (Shape.decode_means_ne faithful whole h)

theorem Members.decode_missing : (ms : Members) → ms.faithful = true → ms.lenient = true →
    (gone : List String → Bool) → (pairs : List (Key × Node)) → Node.skipMembers? pairs = none →
    Named pairs → (v : ms.Carrier) → ms.Shows gone pairs v → (p : Problem) →
    (Decoding.members ms.fill pairs ms.noSlots).bind ms.close = .error p →
    Missing ms.needed gone p
  | .nil, _, _, _, _, whole, named, _, _, p, refused => by
    rw [Decoding.members_unknown named whole] at refused
    cases refused
  | .cons key presence s rest, hs, lenient, gone, pairs, whole, named, (a, v), h, p, refused => by
    obtain ⟨fresh, faithful, others⟩ := Members.faithful_cons.mp hs
    obtain ⟨⟨spare, inner⟩, outer⟩ :
        ((presence = .required ∨ s.needed = []) ∧ s.lenient = true) ∧ rest.lenient = true := by
      simpa [Members.lenient] using lenient
    have tail {q : Problem} (hq : (Decoding.members rest.fill pairs rest.noSlots).bind rest.close =
        .error q) : Missing (presence.needed key s.isNullable s.needed ++ rest.needed) gone q :=
      (rest.decode_missing others outer gone pairs whole named v h.2 q hq).right
    -- Once the first slot is known, only the end of the record can still miss it.
    have settled {slot : Option s.Carrier}
        (split : Decoding.members (Members.cons key presence s rest).fill pairs
            (Members.cons key presence s rest).noSlots =
          (Decoding.members rest.fill pairs rest.noSlots).map
            (Members.consSlots key presence s slot))
        (missed : presence.settle? s slot = none →
          Missing (presence.needed key s.isNullable s.needed) gone (.mismatch (.missing key))) :
        Missing (presence.needed key s.isNullable s.needed ++ rest.needed) gone p := by
      rw [split] at refused
      cases read : Decoding.members rest.fill pairs rest.noSlots with
      | error q =>
        rw [read] at refused
        obtain rfl : q = p := Except.error.inj refused
        exact tail (by rw [read]; rfl)
      | ok more =>
        rw [read] at refused
        rcases Members.close_error refused with ⟨unsettled, rfl⟩ | closed
        · exact (missed unsettled).left
        · exact tail (by rw [read]; exact closed)
    have given := h.1
    cases hgone : gone [key] with
    | true =>
      rw [hgone] at given
      obtain ⟨names, notIn, keysIn⟩ := keysIn_of_valuesOf_eq_nil given
      exact settled (Decoding.members_skip presence s notIn keysIn none rest.noSlots)
        (Missing.absent hgone)
    | false =>
      rw [hgone] at given
      cases written : presence.written? a with
      | none =>
        rw [written] at given
        obtain ⟨names, notIn, keysIn⟩ := keysIn_of_valuesOf_eq_nil given
        refine settled (Decoding.members_skip presence s notIn keysIn none rest.noSlots)
          fun unsettled => ?_
        cases presence with
        | required => cases written
        | preset => cases unsettled
      | some w =>
        rw [written] at given
        obtain ⟨n, only, shown⟩ := given
        have member : n ∈ valuesOf key pairs := by
          rw [only]
          exact List.mem_singleton_self n
        have sound := skipFault?_of_mem_valuesOf whole member
        cases hn : s.decode n with
        | ok c =>
          refine settled (Decoding.members_found presence s fresh whole only hn rest.noSlots)
            fun unsettled => ?_
          cases presence <;> cases unsettled
        | error q =>
          have lacks : Missing s.needed (fun path => gone (key :: path)) q :=
            s.decode_missing faithful inner _ n sound w shown q hn
          have first {q : Problem}
              (read : Decoding.members (Members.cons key presence s rest).fill pairs
                (Members.cons key presence s rest).noSlots = .error q) : q = p := by
            rw [read] at refused
            exact Except.error.inj refused
          rcases Decoding.members_refused presence s only hn rest.noSlots with
            read | ⟨q, readMore, read⟩
          · obtain rfl := first read
            exact (Missing.member spare lacks).left
          · obtain rfl := first read
            exact tail (by rw [readMore]; rfl)

end

end CycleLedger.Json
