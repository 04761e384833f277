import CycleLedger.Proofs.Json.Missing

/-! # Members taken out of documents

The document of a value, with members taken out of it on any level, shows the value except for them.
So do the documents that differ from it in the order of members, in unknown members, or in how their
tokens are spelled and laid out; and what a form reads of them all is the same.
-/

namespace CycleLedger.Json

namespace Value

mutual

/-- The value without the members whose paths are gone; the objects in lists stay as they are. -/
def without : Value → (gone : List String → Bool) → Value
  | .object members, gone => .object (withoutMembers members gone)
  | v, _ => v

def withoutMembers : List (String × Value) → (gone : List String → Bool) → List (String × Value)
  | [], _ => []
  | (key, value) :: members, gone =>
    if gone [key] then withoutMembers members gone
    else (key, value.without fun path => gone (key :: path)) :: withoutMembers members gone

end

theorem valuesOf_without (u : Node) (key : String) (members : List (String × Value))
    (gone : List String → Bool) :
    valuesOf key (memberNodes u (withoutMembers members gone)) =
      if gone [key] then []
      else (members.filter (·.1 = key)).map fun member =>
        (member.2.without fun path => gone (key :: path)).toNode u := by
  rw [valuesOf_memberNodes]
  induction members with
  | nil => simp [withoutMembers]
  | cons member members ih =>
    obtain ⟨found, value⟩ := member
    rw [withoutMembers]
    by_cases same : found = key
    · subst same
      cases hgone : gone [found] with
      | true => simpa [hgone] using ih
      | false => simpa [hgone] using ih
    · cases gone [found] with
      | true => simpa [same] using ih
      | false => simpa [same] using ih

end Value

/-! ## What is written of a value -/

section

variable {key : String} {presence : Presence} {s : Shape} {rest : Members}
  (v : (Members.cons key presence s rest).Carrier)

theorem Members.encode_cons : (cons key presence s rest).encode v =
    ((presence.written? v.1).map fun w => (key, s.encode w)).toList ++ rest.encode v.2 := by
  obtain ⟨a, v⟩ := v
  cases presence with
  | required => rfl
  | preset => cases a <;> rfl

theorem Members.finite_cons (h : (cons key presence s rest).Finite v) :
    (∀ w, presence.written? v.1 = some w → s.Finite w) ∧ rest.Finite v.2 := by
  cases presence with
  | required =>
    refine ⟨fun w written => ?_, h.2⟩
    obtain rfl : v.1 = w := Option.some.inj written
    exact h.1
  | preset => exact h

/-- Under the key of the first member stands its value alone, if it is written. -/
theorem Members.filter_encode_self (fresh : key ∉ rest.keys) :
    ((cons key presence s rest).encode v).filter (·.1 = key) =
      ((presence.written? v.1).map fun w => (key, s.encode w)).toList := by
  have others : (rest.encode v.2).filter (·.1 = key) = [] := by
    refine List.filter_eq_nil_iff.mpr fun member found same => fresh ?_
    rw [← of_decide_eq_true same]
    exact rest.keys_encode v.2 member found
  rw [encode_cons, List.filter_append, others, List.append_nil]
  cases presence.written? v.1 <;> simp

theorem Members.filter_encode_other {other : String} (h : other ≠ key) :
    ((cons key presence s rest).encode v).filter (·.1 = other) =
      (rest.encode v.2).filter (·.1 = other) := by
  have first : (((presence.written? v.1).map fun w => (key, s.encode w)).toList).filter
      (·.1 = other) = [] := by
    cases presence.written? v.1 <;> simp [h.symm]
  rw [encode_cons, List.filter_append, first, List.nil_append]

end

mutual

/-- What is written of a value without records means the value. -/
theorem Shape.means_encode (u : Node) : (s : Shape) → s.isBare = true → s.faithful = true →
    (c : s.Carrier) → s.Finite c → s.Means ((s.encode c).toNode u) c
  | .flag, _, _, _, _ => rfl
  | .word _ _, _, _, _, _ => rfl
  | .real, _, _, c, hc => by
    have finite : Binary64.isFinite c = true := hc
    refine ⟨Value.realNumeral c, ?_, Numeral.value?_realNumeral finite⟩
    simp [Shape.encode, Value.toNode, finite]
  | .text _, _, _, c, _ => ⟨.ofString c, rfl, Quoted.text_ofString c⟩
  | .choice names, _, _, c, _ => ⟨.ofString (names.get c), rfl, Quoted.text_ofString _⟩
  | .nullable s, bare, hs, c, hc => by
    obtain ⟨notNullable, faithful⟩ := Shape.faithful_nullable.mp hs
    match c, hc with
    | none, _ => rfl
    | some w, hc =>
      have finite : s.Finite w := hc w rfl
      exact ⟨Shape.encode_ne_null notNullable finite u, s.means_encode u bare faithful w finite⟩
  | .row _ _ ms, bare, hs, c, hc => by
    obtain ⟨required, faithful⟩ := Shape.faithful_row.mp hs
    exact ⟨_, rfl, ms.lists_encode u bare required faithful c hc⟩

theorem Members.lists_encode (u : Node) : (ms : Members) → ms.areBare = true →
    ms.allRequired = true → ms.faithful = true → (v : ms.Carrier) → ms.Finite v →
    ms.Lists (Value.itemNodes u ((ms.encode v).map (·.2))) v
  | .nil, _, _, _, _, _ => rfl
  | .cons key .required s rest, bare, hr, hs, v, hv => by
    have required : rest.allRequired = true := by simpa [Members.allRequired] using hr
    obtain ⟨-, faithful, others⟩ := Members.faithful_cons.mp hs
    obtain ⟨first, outer⟩ : s.isBare = true ∧ rest.areBare = true := by
      simpa [Members.areBare] using bare
    exact ⟨_, _, rfl, s.means_encode u first faithful v.1 hv.1,
      rest.lists_encode u outer required others v.2 hv.2⟩
  | .cons key .preset s rest, _, hr, _, _, _ => by simp [Members.allRequired] at hr

end

/-- From what is written without objects, no member can be taken out. -/
theorem Shape.without_encode : (s : Shape) → s.isBare = true → (c : s.Carrier) →
    (gone : List String → Bool) → (s.encode c).without gone = s.encode c
  | .flag, _, _, _ | .word _ _, _, _, _ | .text _, _, _, _ | .choice _, _, _, _
  | .row _ _ _, _, _, _ => by simp [encode, Value.without]
  | .real, _, c, _ => by
    rw [encode]
    split <;> simp [Value.without]
  | .nullable s, bare, c, gone => by
    cases c with
    | none => simp [encode, Value.without]
    | some w => exact s.without_encode bare w gone

mutual

/-- With members taken out of it, the document of a value shows the value except for them. -/
theorem Shape.shows_without (u : Node) : (s : Shape) → s.faithful = true → s.lenient = true →
    (gone : List String → Bool) → (c : s.Carrier) → s.Finite c →
    s.Shows gone (((s.encode c).without gone).toNode u) c
  | .record _ ms, faithful, lenient, gone, c, hc => by
    refine ⟨Value.memberNodes u (Value.withoutMembers (ms.encode c) gone), ?_,
      named_memberNodes u _, ms.shows_without u faithful lenient gone c hc _ fun _ _ => rfl⟩
    simp [Shape.encode, Value.without, Value.toNode]
  | .flag, faithful, bare, gone, c, hc | .word _ _, faithful, bare, gone, c, hc
  | .real, faithful, bare, gone, c, hc | .text _, faithful, bare, gone, c, hc
  | .choice _, faithful, bare, gone, c, hc | .nullable _, faithful, bare, gone, c, hc
  | .row _ _ _, faithful, bare, gone, c, hc => by
    rw [Shape.without_encode _ bare]
    exact Shape.means_encode u _ bare faithful c hc

theorem Members.shows_without (u : Node) : (ms : Members) → ms.faithful = true →
    ms.lenient = true → (gone : List String → Bool) → (v : ms.Carrier) → ms.Finite v →
    (members : List (String × Value)) →
    (∀ key ∈ ms.keys, members.filter (·.1 = key) = (ms.encode v).filter (·.1 = key)) →
    ms.Shows gone (Value.memberNodes u (Value.withoutMembers members gone)) v
  | .nil, _, _, _, _, _, _, _ => trivial
  | .cons key presence s rest, hs, lenient, gone, v, hv, members, written => by
    obtain ⟨fresh, faithful, others⟩ := Members.faithful_cons.mp hs
    obtain ⟨⟨-, inner⟩, outer⟩ :
        ((presence = .required ∨ s.needed = []) ∧ s.lenient = true) ∧ rest.lenient = true := by
      simpa [Members.lenient] using lenient
    obtain ⟨finite, finiteRest⟩ := Members.finite_cons v hv
    have first := written key List.mem_cons_self
    rw [Members.filter_encode_self v fresh] at first
    have given := Value.valuesOf_without u key members gone
    rw [first] at given
    refine ⟨?_, ?_⟩
    · cases hgone : gone [key] with
      | true =>
        rw [hgone] at given
        exact given
      | false =>
        rw [hgone] at given
        cases hw : presence.written? v.1 with
        | none =>
          rw [hw] at given
          exact given
        | some w =>
          rw [hw] at given
          exact ⟨_, given, s.shows_without u faithful inner _ w (finite w hw)⟩
    · refine rest.shows_without u others outer gone v.2 finiteRest members fun other member => ?_
      have apart : other ≠ key := by
        rintro rfl
        exact fresh member
      rw [written other (List.mem_cons_of_mem key member), Members.filter_encode_other v apart]

end

/-! ## Texts of forms -/

namespace Form

variable {α : Type} {form : Form α}

theorem readText_compact (faithful : form.shape.faithful = true) {a : α}
    (finite : form.shape.Finite (form.toCarrier a)) : form.readText (form.compact a) = .ok a := by
  have decoded := form.shape.decode_encode .null faithful (form.toCarrier a) finite
  rw [compact, form.readText_spelled (Value.spelledBy_compact _), toValue, decoded]
  exact congrArg Except.ok (form.ofCarrier_toCarrier a)

/--
Whether a text spells a document that shows the value except for the members that are gone: every
other member is given once, and their order, unknown members among them, the spelling of the tokens
and the blanks between them are free.
-/
def Spells (form : Form α) (gone : List String → Bool) (text : String) (a : α) : Prop :=
  ∃ n : Node, n.SpelledBy text ∧ form.shape.Shows gone n (form.toCarrier a)

/-- The value as it is read without the members that are gone. -/
def less (form : Form α) (gone : List String → Bool) (a : α) : α :=
  form.ofCarrier (form.shape.blank gone (form.toCarrier a))

theorem less_none (a : α) : form.less (fun _ => false) a = a := by
  rw [less, Shape.blank_none]
  exact form.ofCarrier_toCarrier a

variable {gone : List String → Bool} {text : String} {a : α}

/-- The document of a value with these members taken out is one of those that show it so. -/
theorem spells_without (faithful : form.shape.faithful = true)
    (lenient : form.shape.lenient = true) (finite : form.shape.Finite (form.toCarrier a))
    (spelled : (((form.toValue a).without gone).toNode .null).SpelledBy text) :
    form.Spells gone text a :=
  ⟨_, spelled, form.shape.shows_without .null faithful lenient gone _ finite⟩

theorem Spells.readText_eq (faithful : form.shape.faithful = true)
    (lenient : form.shape.lenient = true) (h : form.Spells gone text a)
    (spared : ∀ path ∈ form.shape.needed, gone path = false) :
    form.readText text = .ok (form.less gone a) := by
  obtain ⟨n, spelled, shows⟩ := h
  have decoded := (form.shape.decode_shows faithful lenient gone n spelled.1 _ shows _).mpr
    ⟨spared, rfl⟩
  rw [form.readText_spelled spelled, decoded]
  rfl

/-- Without a member that is needed the text is refused, and the problem names such a member. -/
theorem Spells.readText_error (faithful : form.shape.faithful = true)
    (lenient : form.shape.lenient = true) (h : form.Spells gone text a) {path : List String}
    (needed : path ∈ form.shape.needed) (missing : gone path = true) :
    ∃ problem, form.readText text = .error problem ∧ Missing form.shape.needed gone problem := by
  obtain ⟨n, spelled, shows⟩ := h
  rw [form.readText_spelled spelled]
  cases decoded : form.shape.decode n with
  | error problem =>
    exact ⟨problem, rfl,
      form.shape.decode_missing faithful lenient gone n spelled.1 _ shows problem decoded⟩
  | ok c =>
    have spared := ((form.shape.decode_shows faithful lenient gone n spelled.1 _ shows c).mp
      decoded).1 path needed
    rw [missing] at spared
    cases spared

/--
A form tolerates, of a value, that members at the spare paths are missing, and no others: what is
written is read back, and so is every text that shows the value without spare members, as lacking
them. The document with any members taken out is a case of this, in whatever layout. A text without
another member is refused, and the problem names one that is missing.
-/
structure Tolerates (form : Form α) (spare : List (List String))
    (lacking : (List String → Bool) → α → α) (a : α) : Prop where
  compact : form.readText (form.compact a) = .ok a
  whole : ∀ text, form.Spells (fun _ => false) text a → form.readText text = .ok a
  without : ∀ gone text, (((form.toValue a).without gone).toNode .null).SpelledBy text →
    form.Spells gone text a
  accepts : ∀ gone text, form.Spells gone text a →
    (∀ path ∈ form.shape.paths, gone path = true → path ∈ spare) →
      form.readText text = .ok (lacking gone a)
  refuses : ∀ gone text, form.Spells gone text a →
    ∀ path ∈ form.shape.paths, gone path = true → path ∉ spare →
      ∃ problem, form.readText text = .error problem ∧
        Missing (form.shape.paths.filter (· ∉ spare)) gone problem

theorem tolerates (faithful : form.shape.faithful = true) (lenient : form.shape.lenient = true)
    (finite : form.shape.Finite (form.toCarrier a)) {spare : List (List String)}
    (needs : form.shape.needed = form.shape.paths.filter (· ∉ spare))
    {lacking : (List String → Bool) → α → α} (less : ∀ gone, form.less gone a = lacking gone a) :
    form.Tolerates spare lacking a where
  compact := readText_compact faithful finite
  whole text shows := by
    rw [shows.readText_eq faithful lenient fun _ _ => rfl, less_none]
  without _ _ := spells_without faithful lenient finite
  accepts gone text shows allowed := by
    rw [← less]
    refine shows.readText_eq faithful lenient fun path needed => ?_
    rw [needs, List.mem_filter] at needed
    have kept : ¬gone path = true := fun missing =>
      of_decide_eq_true needed.2 (allowed path needed.1 missing)
    exact eq_false_of_ne_true kept
  refuses gone text shows path known missing outside := by
    have needed : path ∈ form.shape.needed := by
      rw [needs]
      exact List.mem_filter.mpr ⟨known, decide_eq_true outside⟩
    rw [← needs]
    exact shows.readText_error faithful lenient needed missing

end Form

end CycleLedger.Json
