import CycleLedger.Proofs.Session.Run
import CycleLedger.Proofs.Trace.Line

/-! # The trace of a session

Filling an entry is the only operation that has a part in the trace. However a session has come to
where it is, its entry is the last one filled, and its history holds as many of the latest as its
settings provide for, each shown as a line.
-/

namespace CycleLedger.Session

variable {σ : Type} (storage : Storage σ)

/-- The entries that an operation fills, each from a fresh one. -/
def Operation.entries : Operation → List TraceEntry
  | trace clock fill => [fill { clock := clock }]
  | _ => []

/-- A session of the settings that has filled these entries, in this order. -/
structure Traced (t : TraceSettings) (es : List TraceEntry) (s : Session) : Prop where
  settings : s.settings.trace = t
  entry : s.entry = es.getLast?.getD {}
  recent : s.recent = es.reverse.take t.depth

theorem traced_ofSettings (settings : Settings) : (ofSettings settings).Traced settings.trace [] :=
  ⟨rfl, rfl, (List.take_nil).symm⟩

/-- What falls out behind a new entry has no part in what is kept. -/
theorem take_cons_take {α : Type} (n : Nat) (a : α) (as : List α) :
    (a :: as.take n).take n = (a :: as).take n := by
  cases n with
  | zero => rfl
  | succ n =>
    rw [List.take_succ_cons, List.take_succ_cons, List.take_take, Nat.min_eq_left n.le_succ]

/-- A history that has been within its depth goes on as the latest entries. -/
theorem keep_eq_take {depth : Nat} {recent : List TraceEntry} (within : recent.length ≤ depth)
    (entry : TraceEntry) : keep depth entry recent = (entry :: recent).take depth := by
  rw [keep]
  split_ifs with shallow full
  · subst shallow
    rw [List.take_zero]
    exact List.eq_nil_of_length_eq_zero (Nat.le_zero.mp within)
  · obtain ⟨d, rfl⟩ := Nat.exists_eq_succ_of_ne_zero shallow
    have length : recent.length = d.succ := Nat.le_antisymm within full
    rw [List.take_succ_cons, List.dropLast_eq_take, length]
    rfl
  · rw [List.take_of_length_le]
    rw [List.length_cons]
    exact Nat.lt_of_not_le full

/-- Oldest first, a full history loses its front and the new entry goes to its back. -/
theorem history_trace (s : Session) (clock : UInt64) (fill : TraceEntry → TraceEntry) :
    (s.trace clock fill).history =
      if s.settings.trace.depth = 0 then s.history
      else (if s.settings.trace.depth ≤ s.history.length then s.history.tail else s.history) ++
        [(s.trace clock fill).entry] := by
  show (keep s.settings.trace.depth (s.trace clock fill).entry s.recent).reverse = _
  rw [keep, history, List.length_reverse]
  split_ifs
  · rfl
  · rw [List.reverse_cons, List.tail_reverse]
  · rw [List.reverse_cons]

/-- An operation that fills no entry leaves the trace as it is. -/
theorem perform_trace_frame {op : Operation} (h : op.entries = []) (x : Session × σ) :
    (perform storage op x).result.1.entry = x.1.entry ∧
      (perform storage op x).result.1.recent = x.1.recent := by
  obtain ⟨s, place⟩ := x
  cases op with
  | trace clock fill => simp [Operation.entries] at h
  | step clock pc =>
    have stepped := step_result s clock pc
    exact ⟨congrArg (·.entry) stepped, congrArg (·.recent) stepped⟩
  | finish =>
    have finished := finish_frame storage s place
    exact ⟨congrArg (·.entry) finished, congrArg (·.recent) finished⟩
  | _ => exact ⟨rfl, rfl⟩

variable {t : TraceSettings} {es : List TraceEntry} {x : Session × σ}

theorem Traced.after_perform (h : x.1.Traced t es) (op : Operation) :
    (perform storage op x).result.1.Traced t (es ++ op.entries) := by
  have untraced (empty : op.entries = []) :
      (perform storage op x).result.1.Traced t (es ++ op.entries) := by
    have settings := congrArg (·.trace) (perform_settings storage op x)
    obtain ⟨entry, recent⟩ := perform_trace_frame storage empty x
    rw [empty, List.append_nil]
    exact ⟨settings.trans h.settings, entry.trans h.entry, recent.trans h.recent⟩
  cases op with
  | trace clock fill =>
    refine ⟨h.settings, ?_, ?_⟩
    · rw [Operation.entries, List.getLast?_concat]
      rfl
    · have within : (es.reverse.take t.depth).length ≤ t.depth := List.length_take_le _ _
      show keep x.1.settings.trace.depth _ x.1.recent = _
      rw [Operation.entries, List.reverse_concat, h.settings, h.recent, keep_eq_take within,
        take_cons_take]
      rfl
  | _ => exact untraced rfl

theorem Traced.after_run (h : x.1.Traced t es) (ops : List Operation) :
    (run storage ops x).result.1.Traced t (es ++ ops.flatMap (·.entries)) := by
  induction ops generalizing x es with
  | nil =>
    rw [List.flatMap_nil, List.append_nil]
    exact h
  | cons op ops ih =>
    rw [run_cons, List.flatMap_cons, ← List.append_assoc]
    exact ih (h.after_perform storage op)

/-- What a new session has traced after a run. -/
theorem traced_run (settings : Settings) (place : σ) (ops : List Operation) :
    (run storage ops (ofSettings settings, place)).result.1.Traced settings.trace
      (ops.flatMap (·.entries)) :=
  Traced.after_run storage (x := (ofSettings settings, place)) (traced_ofSettings settings) ops

/-- All that can be seen of a trace lies in its settings and entries. -/
theorem Traced.congr {s s' : Session} (h : s.Traced t es) (h' : s'.Traced t es) :
    s.entry = s'.entry ∧ s.history = s'.history ∧ s.historyText = s'.historyText := by
  have recent : s.recent = s'.recent := h.recent.trans h'.recent.symm
  have history : s.history = s'.history := congrArg List.reverse recent
  refine ⟨h.entry.trans h'.entry.symm, history, ?_⟩
  rw [historyText, historyText, history]

/-- The entries kept are the latest of those filled. -/
theorem Traced.history_eq {s : Session} (h : s.Traced t es) :
    s.history = es.drop (es.length - t.depth) := by
  rw [history, h.recent, List.reverse_take, List.reverse_reverse, List.length_reverse]

theorem Traced.length_history {s : Session} (h : s.Traced t es) :
    s.history.length = min es.length t.depth := by
  rw [h.history_eq, List.length_drop]
  omega

/-- A history that keeps anything keeps the last entry filled. -/
theorem Traced.getLast?_history {s : Session} (h : s.Traced t es) (keeps : 0 < t.depth)
    (filled : es ≠ []) : s.history.getLast? = some s.entry := by
  have last : es.getLast? = some s.entry := by
    rw [h.entry, List.getLast?_eq_some_getLast filled, Option.getD_some]
  have short : ¬es.length ≤ es.length - t.depth := by
    have := List.length_pos_iff.mpr filled
    omega
  rw [h.history_eq, List.getLast?_drop, if_neg short, last]

theorem toList_historyText (s : Session) :
    s.historyText.toList = (s.history.map (·.line.toList)).flatMap (· ++ ['\n']) := by
  simp [historyText, String.toList_join, List.flatMap_map]

/-- The lines of the text are those of the entries. -/
theorem lines_historyText (s : Session) :
    Text.lines s.historyText.toList = s.history.map (·.line.toList) := by
  rw [toList_historyText]
  apply Text.lines_flatMap
  intro line hline
  obtain ⟨entry, -, rfl⟩ := List.mem_map.mp hline
  exact entry.oneLine_line

/--
Whatever else a session is asked to do, its history holds the latest of the entries filled, as many
as it is deep, and is shown as their lines. An entry is filled from a fresh one, so what was filled
before has no part in it.
-/
theorem history_latest (settings : Settings) (place : σ) (ops : List Operation) :
    let depth := if settings.trace.enabled then settings.trace.history.toNat else 0
    let after (ops : List Operation) := (run storage ops (ofSettings settings, place)).result.1
    let es := ops.flatMap (·.entries)
    let s := after ops
    s.history = es.drop (es.length - depth) ∧ s.history.length = min es.length depth ∧
      (∀ k, (after (ops.take k)).history.length ≤ depth) ∧ s.entry = es.getLast?.getD {} ∧
      (∀ before clock fill,
        (after (before ++ [.trace clock fill])).entry = fill { clock := clock }) ∧
      s.historyText = String.join (s.history.map fun entry => entry.line ++ "\n") ∧
      Text.lines s.historyText.toList = s.history.map (·.line.toList) ∧
      (0 < depth → es ≠ [] →
        (Text.lines s.historyText.toList).getLast? = some s.entry.line.toList) := by
  intro depth after es s
  have traced (ops : List Operation) :
      (after ops).Traced settings.trace (ops.flatMap (·.entries)) :=
    traced_run storage settings place ops
  have now : s.Traced settings.trace es := traced ops
  refine ⟨now.history_eq, now.length_history, fun k => ?_, now.entry, fun before clock fill => ?_,
    rfl, s.lines_historyText, fun keeps filled => ?_⟩
  · rw [(traced (ops.take k)).length_history]
    exact Nat.min_le_right _ _
  · rw [(traced _).entry, List.flatMap_append, List.flatMap_singleton, Operation.entries,
      List.getLast?_concat, Option.getD_some]
  · rw [lines_historyText, List.getLast?_map, now.getLast?_history keeps filled]
    rfl

end CycleLedger.Session
