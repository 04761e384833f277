import Mathlib.Data.List.Forall2
import CycleLedger.Proofs.Session.History
import CycleLedger.Proofs.Trace.Identity

/-! # Histories told apart by their texts

The text of a history is one line for each entry, so it tells of the history what the lines tell of
their entries.
-/

namespace CycleLedger

open TraceEntry

theorem Session.historyText_eq_iff_forall₂ {s s' : Session} :
    s.historyText = s'.historyText ↔ List.Forall₂ ShownAlike s.history s'.history := by
  have lines : s.historyText = s'.historyText ↔
      s.history.map (·.line.toList) = s'.history.map (·.line.toList) := by
    refine ⟨fun same => ?_, fun same => ?_⟩
    · rw [← s.lines_historyText, same, s'.lines_historyText]
    · rw [← String.toList_inj, s.toList_historyText, s'.toList_historyText, same]
  have entries (e e' : TraceEntry) : e.line.toList = e'.line.toList ↔ e.ShownAlike e' :=
    String.toList_inj.trans line_eq_iff_shownAlike
  rw [lines, ← List.forall₂_eq_eq_eq, List.forall₂_map_left_iff, List.forall₂_map_right_iff]
  simp only [entries]

/--
The line of an entry is one line and says the clock, the program counter, the instruction, the stack
pointer, the next program counter or that it is not known, whether a branch was taken, the size of
the data, its address if there is data, and the three outcomes: two entries have the same line
exactly if they agree in these. So two sessions show the same history exactly if they have kept as
many entries, and these agree one by one.
-/
theorem TraceEntry.line_identifies (e e' : TraceEntry) (s s' : Session) :
    (e.line = e'.line ↔ e.ShownAlike e') ∧ '\n' ∉ e.line.toList ∧
      (s.historyText = s'.historyText ↔ List.Forall₂ ShownAlike s.history s'.history) :=
  ⟨line_eq_iff_shownAlike, e.oneLine_line, Session.historyText_eq_iff_forall₂⟩

end CycleLedger
