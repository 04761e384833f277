import Mathlib.Tactic.SplitIfs
import CycleLedger.Json.Form
import CycleLedger.Proofs.Json.Numbers
import CycleLedger.Proofs.Json.Texts

/-! # Values decoded from their documents

The document of an encoded value is decoded to the value. That takes a shape without pitfalls, where
no key, name or null could mean two things, and a value whose doubles are all finite.
-/

namespace CycleLedger.Json

/-! ## Shapes without pitfalls -/

def Shape.isNullable : Shape → Bool
  | .nullable _ => true
  | _ => false

namespace Members

def keys : Members → List String
  | nil => []
  | cons key _ _ rest => key :: rest.keys

def allRequired : Members → Bool
  | nil => true
  | cons _ presence _ rest => decide (presence = .required) && rest.allRequired

end Members

mutual

/-- No key, name or null of the shape means two things, and its words are read exactly. -/
def Shape.faithful : Shape → Bool
  | .flag | .real | .text _ => true
  | .word bits _ => bits ≤ 64
  | .choice names => names.Nodup
  | .nullable s => !s.isNullable && s.faithful
  | .record _ members => members.faithful
  | .row _ _ members => members.allRequired && members.faithful

def Members.faithful : Members → Bool
  | .nil => true
  | .cons key _ s rest => !rest.keys.contains key && s.faithful && rest.faithful

end

section

variable {key wanted sized : String} {presence : Presence} {s : Shape} {ms rest : Members}

theorem Shape.faithful_nullable :
    (Shape.nullable s).faithful = true ↔ s.isNullable = false ∧ s.faithful = true := by
  simp [faithful]

theorem Shape.faithful_row :
    (Shape.row wanted sized ms).faithful = true ↔ ms.allRequired = true ∧ ms.faithful = true := by
  simp [faithful]

theorem Members.faithful_cons : (Members.cons key presence s rest).faithful = true ↔
    key ∉ rest.keys ∧ s.faithful = true ∧ rest.faithful = true := by
  simp [faithful, and_assoc]

end

mutual

/-- All doubles of a value are finite. -/
def Shape.Finite : (s : Shape) → s.Carrier → Prop
  | .real, x => Binary64.isFinite x = true
  | .nullable s, v => ∀ w, v = some w → s.Finite w
  | .record _ members, v => members.Finite v
  | .row _ _ members, v => members.Finite v
  | .flag, _ | .word _ _, _ | .text _, _ | .choice _, _ => True

def Members.Finite : (ms : Members) → ms.Carrier → Prop
  | .nil, _ => True
  | .cons _ .required s rest, v => s.Finite v.1 ∧ rest.Finite v.2
  | .cons _ .preset s rest, v => (∀ w, v.1 = some w → s.Finite w) ∧ rest.Finite v.2

end

namespace Members

/-- The slot of the first member before those of the others. -/
def consSlots (key : String) (presence : Presence) (s : Shape) {rest : Members}
    (slot : Option s.Carrier) (slots : rest.Slots) : (cons key presence s rest).Slots :=
  (slot, slots)

/-- The slots of an object that has been read to its end. -/
def slots : (ms : Members) → ms.Carrier → ms.Slots
  | .nil, _ => ()
  | .cons key .required s rest, v => consSlots key .required s (some v.1) (rest.slots v.2)
  | .cons key .preset s rest, v => consSlots key .preset s v.1 (rest.slots v.2)

theorem close_slots : (ms : Members) → (v : ms.Carrier) → ms.close (ms.slots v) = .ok v
  | .nil, _ => rfl
  | .cons key .required s rest, v => by
    have closed : (cons key .required s rest).close (consSlots key .required s (some v.1)
        (rest.slots v.2)) = (rest.close (rest.slots v.2)).map fun more => (v.1, more) := rfl
    exact closed.trans (by rw [close_slots rest v.2]; rfl)
  | .cons key .preset s rest, v => by
    have closed : (cons key .preset s rest).close (consSlots key .preset s v.1
        (rest.slots v.2)) = (rest.close (rest.slots v.2)).map fun more => (v.1, more) := rfl
    exact closed.trans (by rw [close_slots rest v.2]; rfl)

section

variable {key : String} {presence : Presence} {s : Shape} {rest : Members}

theorem fill_first (value : Node) (slots : rest.Slots) :
    (cons key presence s rest).fill key value (consSlots key presence s none slots) =
      some ((s.decode value).map fun v => consSlots key presence s (some v) slots) :=
  if_pos rfl

theorem fill_other {found : String} (other : found ≠ key) (value : Node) (slot : Option s.Carrier)
    (slots : rest.Slots) :
    (cons key presence s rest).fill found value (consSlots key presence s slot slots) =
      (rest.fill found value slots).map
        fun filled => filled.map (consSlots key presence s slot) :=
  if_neg other

end

end Members

/-! ## Members of objects -/

namespace Decoding

section

variable {σ : Type} {fill : String → Node → σ → Option (Except Problem σ)} {k : Key} {value : Node}
  {rest : List (Key × Node)} {slots : σ}

theorem members_cons_known {name : String} {r : Except Problem σ} (hk : key k = .ok name)
    (hfill : fill name value slots = some r) :
    members fill ((k, value) :: rest) slots = r.bind (members fill rest) := by
  rw [members, hk]
  simp only [bind, Except.bind, hfill]

theorem members_cons_unknown {name : String} (hk : key k = .ok name)
    (hfill : fill name value slots = none) :
    members fill ((k, value) :: rest) slots = match value.skipFault? with
      | some f => .error (.fault f)
      | none => members fill rest slots := by
  rw [members, hk]
  simp only [bind, Except.bind, hfill]
  cases value.skipFault? <;> rfl

theorem members_cons_error {p : Problem} (hk : key k = .error p) :
    members fill ((k, value) :: rest) slots = .error p := by
  rw [members, hk]
  rfl

end

theorem key_ofString (name : String) : key (.ok (.ofString name)) = .ok name := by
  rw [key, Quoted.text_ofString]
  rfl

/-- All keys that can be read are among the names. -/
def KeysIn (names : List String) (pairs : List (Key × Node)) : Prop :=
  ∀ pair ∈ pairs, ∀ name, key pair.1 = .ok name → name ∈ names

theorem keysIn_memberNodes (u : Node) {names : List String} {pairs : List (String × Value)}
    (h : ∀ pair ∈ pairs, pair.1 ∈ names) : KeysIn names (Value.memberNodes u pairs) := by
  induction pairs with
  | nil => exact nofun
  | cons pair pairs ih =>
    obtain ⟨k, v⟩ := pair
    intro node hnode name hname
    rw [Value.memberNodes] at hnode
    rcases List.mem_cons.mp hnode with rfl | hnode
    · obtain rfl : k = name := Except.ok.inj ((key_ofString k).symm.trans hname)
      exact h (k, v) (by simp)
    · exact ih (fun q hq => h q (by simp [hq])) node hnode name hname

/-- Pairs without the key of the first member are those of the other members. -/
theorem members_skip {name : String} (presence : Presence) (s : Shape) {rest : Members}
    {names : List String} (fresh : name ∉ names) {pairs : List (Key × Node)}
    (h : KeysIn names pairs) (slot : Option s.Carrier) (slots : rest.Slots) :
    members (Members.cons name presence s rest).fill pairs
        (Members.consSlots name presence s slot slots) =
      (members rest.fill pairs slots).map (Members.consSlots name presence s slot) := by
  induction pairs generalizing slots with
  | nil => rfl
  | cons pair pairs ih =>
    obtain ⟨k, value⟩ := pair
    have tail := ih fun q hq => h q (by simp [hq])
    cases hk : key k with
    | error p => rw [members_cons_error hk, members_cons_error hk]; rfl
    | ok found =>
      have other : found ≠ name := by
        rintro rfl
        exact fresh (h (k, value) (by simp) found hk)
      have filled := @Members.fill_other name presence s rest found other value slot slots
      cases hfill : rest.fill found value slots with
      | none =>
        rw [hfill] at filled
        rw [members_cons_unknown hk filled, members_cons_unknown hk hfill]
        cases value.skipFault? with
        | none => exact tail slots
        | some f => rfl
      | some r =>
        rw [hfill] at filled
        rw [members_cons_known hk filled, members_cons_known hk hfill]
        cases r with
        | error p => rfl
        | ok more => exact tail more

/-- The pair of the first member fills its slot; the others go on as without it. -/
theorem members_first {name : String} (presence : Presence) (s : Shape) {rest : Members}
    {names : List String} (fresh : name ∉ names) {pairs : List (Key × Node)}
    (h : KeysIn names pairs) {n : Node} {w : s.Carrier} (hn : s.decode n = .ok w)
    (slots : rest.Slots) :
    members (Members.cons name presence s rest).fill ((.ok (.ofString name), n) :: pairs)
        (Members.consSlots name presence s none slots) =
      (members rest.fill pairs slots).map (Members.consSlots name presence s (some w)) := by
  have filled := @Members.fill_first name presence s rest n slots
  rw [hn] at filled
  rw [members_cons_known (key_ofString name) filled]
  exact members_skip presence s fresh h (some w) slots

end Decoding

/-- The keys of an encoded value are those of its members. -/
theorem Members.keys_encode : (ms : Members) → (v : ms.Carrier) → ∀ pair ∈ ms.encode v,
    pair.1 ∈ ms.keys
  | .nil, _, pair, h => by cases h
  | .cons key .required s rest, v, pair, h => by
    rcases List.mem_cons.mp h with rfl | h
    · exact List.mem_cons_self
    · exact List.mem_cons_of_mem _ (rest.keys_encode v.2 pair h)
  | .cons key .preset s rest, (none, more), pair, h =>
    List.mem_cons_of_mem _ (rest.keys_encode more pair h)
  | .cons key .preset s rest, (some w, more), pair, h => by
    rcases List.mem_cons.mp h with rfl | h
    · exact List.mem_cons_self
    · exact List.mem_cons_of_mem _ (rest.keys_encode more pair h)

/-! ## Scalars -/

theorem Numeral.value?_natural {n : Nat} (h : n < 2 ^ 64) :
    (ofInt n).value? = some (.integer n) := by
  have positive : ¬(n : Int) < 0 := by omega
  have small : n < UInt64.size := h
  simp [value?, ofInt, positive, small]

theorem wordOf?_toNat {bits : Nat} (w : BitVec bits) : wordOf? bits w.toNat = some w := by
  have same : BitVec.ofInt bits w.toNat = w := by simp
  rw [wordOf?]
  simp [same]

namespace Decoding

theorem word_toNat {bits : Nat} (hbits : bits ≤ 64) (w : BitVec bits) (wanted : String) :
    word bits wanted (.number (.ok (.ofInt w.toNat))) = .ok w := by
  have small : w.toNat < 2 ^ 64 :=
    Nat.lt_of_lt_of_le w.isLt (Nat.pow_le_pow_right (by decide) hbits)
  simp only [word, Numeral.value?_natural small, wordOf?_toNat]

theorem real_realNumeral {x : Binary64} (h : x.isFinite = true) :
    real (.number (.ok (Value.realNumeral x))) = .ok x := by
  simp only [real, Numeral.value?_realNumeral h]

theorem text_ofString (wanted s : String) : text wanted (.text (.ofString s)) = .ok s := by
  rw [text, Quoted.text_ofString]
  rfl

theorem choice_get {names : List String} (h : names.Nodup) (i : Fin names.length) :
    choice names (.text (.ofString (names.get i))) = .ok i := by
  have found : names.finIdxOf? (names.get i) = some i :=
    List.finIdxOf?_eq_some_iff.mpr ⟨rfl, fun j before =>
      List.pairwise_iff_getElem.mp h j.val i.val j.isLt i.isLt before⟩
  rw [choice, name, Quoted.text_ofString]
  simp only [found]

end Decoding

/-! ## The round trip -/

/-- Only a nullable shape is written as null. -/
theorem Shape.encode_ne_null {s : Shape} (hs : s.isNullable = false) {c : s.Carrier}
    (hc : s.Finite c) (u : Node) (fault? : Option Fault) :
    (s.encode c).toNode u ≠ .word .null fault? := by
  cases s with
  | flag => cases c <;> simp [encode, Value.toNode, Node.flag]
  | nullable s => cases hs
  | real =>
    have finite : Binary64.isFinite c = true := hc
    simp [encode, Value.toNode, finite]
  | _ => simp [encode, Value.toNode]

theorem Shape.decode_nullable {s : Shape} {n : Node} (h : ∀ fault?, n ≠ .word .null fault?) :
    (Shape.nullable s).decode n = (s.decode n).map some := by
  cases n with
  | word w fault? =>
    cases w with
    | null => exact absurd rfl (h fault?)
    | _ => rfl
  | _ => rfl

/-- A list whose first item cannot be left out is decoded item by item. -/
theorem Members.decodeItems_required {key : String} {s : Shape} {rest : Members} (sized : String)
    (index : Nat) (item : Node) (items : List Node) (fault? : Option Fault) :
    (Members.cons key .required s rest).decodeItems sized index (item :: items) fault? =
      (s.decode item).bind fun w =>
        (rest.decodeItems sized (index + 1) items fault?).bind fun ws => .ok (w, ws) :=
  rfl

mutual

/-- What is written of a value with finite doubles is decoded to the value. -/
theorem Shape.decode_encode (u : Node) : (s : Shape) → s.faithful = true → (c : s.Carrier) →
    s.Finite c → s.decode ((s.encode c).toNode u) = .ok c
  | .flag, _, c, _ => by
    cases c <;> rfl
  | .word bits wanted, hs, c, _ => by
    have hbits : bits ≤ 64 := by simpa [Shape.faithful] using hs
    exact Decoding.word_toNat hbits c wanted
  | .real, _, c, hc => by
    have finite : Binary64.isFinite c = true := hc
    have written : (Shape.real.encode c).toNode u = .number (.ok (Value.realNumeral c)) := by
      simp [Shape.encode, Value.toNode, finite]
    rw [written]
    exact Decoding.real_realNumeral finite
  | .text wanted, _, c, _ => Decoding.text_ofString wanted c
  | .choice names, hs, c, _ => by
    have distinct : names.Nodup := by simpa [Shape.faithful] using hs
    exact Decoding.choice_get distinct c
  | .nullable s, hs, c, hc => by
    obtain ⟨notNullable, faithful⟩ := Shape.faithful_nullable.mp hs
    match c, hc with
    | none, _ => rfl
    | some w, hc =>
      have finite : s.Finite w := hc w rfl
      have written : (Shape.nullable s).encode (some w) = s.encode w := rfl
      rw [written, Shape.decode_nullable (Shape.encode_ne_null notNullable finite u),
        Shape.decode_encode u s faithful w finite]
      rfl
  | .record name ms, hs, c, hc => by
    have read := Members.decode_encode u ms hs c hc
    have decoded : (Shape.record name ms).decode (((Shape.record name ms).encode c).toNode u) =
        (Decoding.members ms.fill (Value.memberNodes u (ms.encode c)) ms.noSlots).bind ms.close :=
      rfl
    rw [decoded, read]
    exact ms.close_slots c
  | .row wanted sized ms, hs, c, hc => by
    obtain ⟨required, faithful⟩ := Shape.faithful_row.mp hs
    exact Members.decodeItems_encode u ms required faithful c hc sized 0

theorem Members.decode_encode (u : Node) : (ms : Members) → ms.faithful = true →
    (v : ms.Carrier) → ms.Finite v →
    Decoding.members ms.fill (Value.memberNodes u (ms.encode v)) ms.noSlots = .ok (ms.slots v)
  | .nil, _, _, _ => rfl
  | .cons key presence s rest, hs, v, hv => by
    obtain ⟨fresh, faithful, others⟩ := Members.faithful_cons.mp hs
    have keysIn := Decoding.keysIn_memberNodes u (rest.keys_encode v.2)
    match presence, v, hv, keysIn with
    | .required, v, hv, keysIn =>
      have first := Decoding.members_first .required s fresh keysIn
        (s.decode_encode u faithful v.1 hv.1) rest.noSlots
      exact first.trans (by rw [rest.decode_encode u others v.2 hv.2]; rfl)
    | .preset, (none, more), hv, keysIn =>
      have skipped := Decoding.members_skip .preset s fresh keysIn none rest.noSlots
      exact skipped.trans (by rw [rest.decode_encode u others more hv.2]; rfl)
    | .preset, (some w, more), hv, keysIn =>
      have first := Decoding.members_first .preset s fresh keysIn
        (s.decode_encode u faithful w (hv.1 w rfl)) rest.noSlots
      exact first.trans (by rw [rest.decode_encode u others more hv.2]; rfl)

theorem Members.decodeItems_encode (u : Node) : (ms : Members) → ms.allRequired = true →
    ms.faithful = true → (v : ms.Carrier) → ms.Finite v → (sized : String) → (index : Nat) →
    ms.decodeItems sized index (Value.itemNodes u ((ms.encode v).map (·.2))) none = .ok v
  | .nil, _, _, _, _, _, _ => rfl
  | .cons key .required s rest, hr, hs, v, hv, sized, index => by
    have required : rest.allRequired = true := by simpa [Members.allRequired] using hr
    obtain ⟨fresh, faithful, others⟩ := Members.faithful_cons.mp hs
    have items : Value.itemNodes u (((Members.cons key .required s rest).encode v).map (·.2)) =
        (s.encode v.1).toNode u :: Value.itemNodes u ((rest.encode v.2).map (·.2)) := rfl
    rw [items, Members.decodeItems_required, s.decode_encode u faithful v.1 hv.1,
      rest.decodeItems_encode u required others v.2 hv.2 sized (index + 1)]
    rfl
  | .cons key .preset s rest, hr, _, _, _, _, _ => by simp [Members.allRequired] at hr

end

end CycleLedger.Json
