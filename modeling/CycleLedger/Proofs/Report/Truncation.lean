import CycleLedger.Proofs.Report.Documents
import CycleLedger.Report.Sink

/-! # Reports cut by their sinks

A sink may take the bytes of a report in pieces of any sizes. It has always taken a beginning of the
document in the end, and only a document that lacks no more than its line feed is read: a cut one is
refused because its end is missing.
-/

namespace CycleLedger

open Json

namespace Sink

/-- Whether so many bytes are within the limit. -/
def Holds (sink : Sink) (n : Nat) : Prop := ∀ limit, sink.limit? = some limit → n ≤ limit

/-- How many of so many bytes are within the limit. -/
def capacity (sink : Sink) (n : Nat) : Nat :=
  match sink.limit? with
  | some limit => min limit n
  | none => n

/--
The writes of a delivery one after another, until all bytes are taken or a write takes none. Write
`k` takes one byte and up to `sizes k` more, as far as bytes are left and within the limit.
-/
def deliverFrom (sink : Sink) (sizes : Nat → Nat) (k : Nat) (taken : List UInt8) :
    List UInt8 → Delivery
  | [] => ⟨taken, if sink.flushFails then some .unflushed else none⟩
  | b :: rest =>
    match sink.capacity (taken.length + rest.length + 1) - taken.length with
    | 0 => ⟨taken, some (if sink.stalls then .stalled else .full)⟩
    | room + 1 =>
      let more := min (sizes k) room
      sink.deliverFrom sizes (k + 1) (taken ++ b :: rest.take more) (rest.drop more)
termination_by rest => rest.length

/-- A delivery in pieces. -/
def deliverPieces (sink : Sink) (sizes : Nat → Nat) (bytes : List UInt8) : Delivery :=
  sink.deliverFrom sizes 0 [] bytes

variable (sink : Sink)

theorem capacity_eq_iff {n : Nat} : sink.capacity n = n ↔ sink.Holds n := by
  rw [capacity, Holds]
  cases sink.limit? with
  | none => simp
  | some limit =>
    simp only [Option.some.injEq, forall_eq']
    omega

theorem Holds.mono {sink : Sink} {m n : Nat} (h : sink.Holds n) (hm : m ≤ n) : sink.Holds m :=
  fun limit hlimit => Nat.le_trans hm (h limit hlimit)

theorem holds_capacity (n : Nat) : sink.Holds (sink.capacity n) := by
  intro limit hlimit
  simp only [capacity, hlimit]
  exact Nat.min_le_left limit n

theorem Holds.le_capacity {sink : Sink} {m n : Nat} (h : sink.Holds m) (hm : m ≤ n) :
    m ≤ sink.capacity n := by
  rw [capacity]
  cases hlimit : sink.limit? with
  | none => exact hm
  | some limit => exact Nat.le_min.2 ⟨h limit hlimit, hm⟩

/-- A delivery takes what is within the limit, and then the sink is flushed or has no room. -/
theorem deliver_eq (bytes : List UInt8) : sink.deliver bytes =
    ⟨bytes.take (sink.capacity bytes.length),
      if sink.capacity bytes.length = bytes.length then
        if sink.flushFails then some .unflushed else none
      else some (if sink.stalls then .stalled else .full)⟩ := by
  rw [deliver, capacity]
  cases sink.limit? with
  | none => simp
  | some limit =>
    by_cases short : limit < bytes.length
    · have least : min limit bytes.length = limit := Nat.min_eq_left (by omega)
      have unequal : limit ≠ bytes.length := by omega
      simp only [if_pos short, least, if_neg unequal]
    · have least : min limit bytes.length = bytes.length := Nat.min_eq_right (by omega)
      simp only [if_neg short, least, List.take_length, if_true]

theorem deliver_whole {bytes : List UInt8} (h : sink.Holds bytes.length) : sink.deliver bytes =
    ⟨bytes, if sink.flushFails then some .unflushed else none⟩ := by
  have whole := sink.capacity_eq_iff.2 h
  rw [deliver_eq, if_pos whole, whole, List.take_length]

/-- Whatever has been taken within the limit, the writes go on to what is delivered at once. -/
theorem deliverFrom_eq (sizes : Nat → Nat) (k : Nat) (taken rest : List UInt8)
    (h : sink.Holds taken.length) :
    sink.deliverFrom sizes k taken rest = sink.deliver (taken ++ rest) := by
  fun_induction deliverFrom sink sizes k taken rest with
  | case1 k taken => rw [List.append_nil, sink.deliver_whole h]
  | case2 k taken b rest full =>
    have longer : (taken ++ b :: rest).length = taken.length + rest.length + 1 := by simp; omega
    have most : sink.capacity (taken.length + rest.length + 1) = taken.length := by
      have := h.le_capacity (n := taken.length + rest.length + 1) (by omega)
      omega
    have unequal : taken.length ≠ taken.length + rest.length + 1 := by omega
    rw [deliver_eq, longer, most, if_neg unequal, List.take_left]
  | case3 k taken b rest room enough more ih =>
    have within : (taken ++ b :: rest.take more).length ≤
        sink.capacity (taken.length + rest.length + 1) := by
      simp only [List.length_append, List.length_cons, List.length_take]
      omega
    rw [ih ((sink.holds_capacity _).mono within)]
    simp

theorem deliverPieces_eq (sizes : Nat → Nat) (bytes : List UInt8) :
    sink.deliverPieces sizes bytes = sink.deliver bytes :=
  sink.deliverFrom_eq sizes 0 [] bytes fun _ _ => Nat.zero_le _

theorem deliver_fault?_eq_none_iff (bytes : List UInt8) :
    (sink.deliver bytes).fault? = none ↔ sink.Holds bytes.length ∧ sink.flushFails = false := by
  rw [deliver_eq, ← capacity_eq_iff]
  by_cases whole : sink.capacity bytes.length = bytes.length
  · simp [whole]
  · simp [whole]

end Sink

namespace Report

theorem bytes_document (r : Report) : Text.bytes r.document =
    Text.bytes r.toJson ++ [Ascii.lineFeed] := by
  rw [document, Text.bytes_append, Text.bytes_eq "\n"]
  rfl

/-- A text is read as its bytes are. -/
theorem ofJson_eq (text : String) : ofJson text = ofBytes (Text.bytes text) := rfl

theorem exists_text_prefix (r : Report) {p : List UInt8} (hp : p <+: Text.bytes r.document) :
    ∃ text, Text.bytes text = p := by
  rw [bytes_document] at hp
  exact ((r.sevenBit_toJson.append (.cons (by decide) .nil)).mono hp).exists_text

/-- A beginning of a document is read if it lacks no more than the line feed. -/
theorem ofBytes_take_iff (r : Report) (k : Nat) :
    (∃ read, ofBytes ((Text.bytes r.document).take k) = .ok read) ↔
      (Text.bytes r.document).length - 1 ≤ k := by
  rw [bytes_document, List.length_append, List.length_singleton, Nat.add_sub_cancel]
  constructor
  · rintro ⟨read, hread⟩
    refine Nat.le_of_not_lt fun short => ?_
    have cut : (Text.bytes r.toJson ++ [Ascii.lineFeed]).take k = (Text.bytes r.toJson).take k :=
      List.take_append_of_le_length (by omega)
    have shorter : (Text.bytes r.toJson).take k ≠ Text.bytes r.toJson := by
      intro same
      have := congrArg List.length same
      rw [List.length_take] at this
      omega
    rw [cut, r.ofBytes_cut (List.take_prefix k _) shorter] at hread
    cases hread
  · intro long
    rw [List.take_append, List.take_of_length_le long]
    refine ⟨r.settled, r.ofBytes_toJson fun b hb => ?_⟩
    rw [List.mem_singleton.mp (List.mem_of_mem_take hb)]
    rfl

/--
Whatever the sizes of the pieces, the bytes of a report that a sink has taken are those within its
limit. They are read as a report if no more than the line feed is missing, and a shorter beginning
of the document is refused because its end is missing.
-/
theorem truncation_detected (r : Report) (sink : Sink) (sizes : Nat → Nat) :
    let document := Text.bytes r.toJson ++ [Ascii.lineFeed]
    let n := document.length
    let d := sink.deliverPieces sizes document
    d = r.deliver sink ∧ d.taken = document.take (sink.capacity n) ∧
      (d.fault? = none ↔ sink.Holds n ∧ sink.flushFails = false) ∧
      (∃ text, Text.bytes text = d.taken ∧
        ((∃ read, ofJson text = .ok read) ↔ sink.Holds (n - 1))) ∧
      ∀ p, p <+: Text.bytes r.toJson → p ≠ Text.bytes r.toJson →
        ∃ text, Text.bytes text = p ∧ ofJson text = .error (.encoding (.fault .truncated)) := by
  intro document n d
  have written : Text.bytes r.document = document := r.bytes_document
  have delivered : d = sink.deliver document := sink.deliverPieces_eq sizes document
  have taken : d.taken = document.take (sink.capacity n) := by rw [delivered, Sink.deliver_eq]
  refine ⟨?_, taken, ?_, ?_, ?_⟩
  · rw [delivered, ← written]
    rfl
  · rw [delivered]
    exact sink.deliver_fault?_eq_none_iff document
  · obtain ⟨text, htext⟩ := r.exists_text_prefix (p := d.taken) (by
      rw [taken, written]
      exact List.take_prefix _ _)
    refine ⟨text, htext, ?_⟩
    rw [ofJson_eq, htext, taken, ← written, ofBytes_take_iff, written]
    constructor
    · exact fun long => (sink.holds_capacity n).mono long
    · exact fun holds => holds.le_capacity (Nat.sub_le n 1)
  · intro p hp hne
    obtain ⟨text, htext⟩ := r.exists_text_prefix (p := p) (by
      rw [written]
      exact hp.trans (List.prefix_append _ _))
    exact ⟨text, htext, by rw [ofJson_eq, htext, r.ofBytes_cut hp hne]⟩

end Report

end CycleLedger
