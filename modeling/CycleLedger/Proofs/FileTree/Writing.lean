import CycleLedger.FileTree
import Mathlib.Tactic.SplitIfs

/-! # Files read back

A path that leads to a file or to a free place of a folder leads there still once the file has been
written, because a walk goes through folders only. So a written file holds what was written to it,
whatever it held before. A device keeps nothing, and a folder is not written.
-/

namespace CycleLedger.FileTree

/-- What the file at a path holds, if there is a file. -/
def content? (path : String) (t : FileTree) : Option String :=
  match Path.ofString path with
  | .error _ => none
  | .ok p =>
    match t.target p.absolute p.names with
    | .ok (_, some (.file content)) => some content
    | _ => none

theorem lookup_filter_ne {place q : List String} (h : q ≠ place)
    (entries : List (List String × FileEntry)) :
    (entries.filter (·.1 ≠ place)).lookup q = entries.lookup q := by
  induction entries with
  | nil => rfl
  | cons x entries ih =>
    obtain ⟨other, e⟩ := x
    by_cases taken : other = place
    · have apart : (q == other) = false := beq_false_of_ne (taken ▸ h)
      rw [List.filter_cons_of_neg (by simpa using taken), List.lookup_cons, apart, ih]
    · rw [List.filter_cons_of_pos (by simpa using taken), List.lookup_cons, List.lookup_cons, ih]

variable {t : FileTree} {place : List String} {e : FileEntry}

theorem entry_put_of_ne {q : List String} (h : q ≠ place) :
    entry? (t.put place e) q = t.entry? q := by
  have other : (q == place) = false := beq_false_of_ne h
  simp only [FileTree.entry?, put, List.lookup_cons, other, lookup_filter_ne h]

theorem entry_put_self (h : place ≠ []) : entry? (t.put place e) place = some e := by
  simp [FileTree.entry?, put, h]

/-- What is put somewhere hides no other place, and the place itself is taken. -/
theorem isSome_entry_put (h : place ≠ []) {q : List String} (found : (t.entry? q).isSome) :
    (FileTree.entry? (t.put place e) q).isSome := by
  by_cases same : q = place
  · rw [same, entry_put_self h]
    rfl
  · rwa [entry_put_of_ne same]

section

variable (free : t.entry? place ≠ some .folder)
include free

theorem ne_nil_of_free : place ≠ [] := by
  rintro rfl
  exact free rfl

/-- A step from a folder leads on as before. -/
theorem enter_put {start goal : List String} {name : String} (h : t.enter start name = .ok goal) :
    (t.put place e).enter start name = .ok goal := by
  have ne := ne_nil_of_free free
  unfold enter at h ⊢
  cases stands : t.entry? start with
  | none => simp [stands] at h
  | some found =>
    cases found with
    | file content => simp [stands] at h
    | device full => simp [stands] at h
    | folder =>
      have apart : start ≠ place := fun same => free (same ▸ stands)
      rw [stands] at h
      rw [entry_put_of_ne apart, stands]
      dsimp only at h ⊢
      split_ifs at h ⊢
      · exact h
      · exact h
      · exact h
      · next hidden present => exact absurd (isSome_entry_put ne present) hidden

theorem walk_put {absolute : Bool} {names goal : List String}
    (h : t.walk absolute names = .ok goal) : (t.put place e).walk absolute names = .ok goal := by
  unfold walk at h ⊢
  change names.foldlM _ (if absolute then [] else t.home) = _
  generalize (if absolute then [] else t.home) = start at h ⊢
  induction names generalizing start with
  | nil => exact h
  | cons name names ih =>
    rw [List.foldlM_cons] at h ⊢
    cases step : t.enter start name with
    | error refusal =>
      rw [step] at h
      cases h
    | ok next =>
      rw [step] at h
      rw [enter_put free step]
      exact ih next h

end

/-- What a path leads to, folder by folder, and what is there. -/
theorem target_eq_ok {absolute : Bool} {names : List String} {found? : Option FileEntry}
    (h : t.target absolute names = .ok (place, found?)) :
    ∃ last around, names.getLast? = some last ∧ t.walk absolute names.dropLast = .ok around ∧
      ((t.enter around last = .ok place ∧ found? = t.entry? place) ∨
        (t.enter around last = .error .missing ∧ place = around ++ [last] ∧ found? = none)) := by
  unfold target at h
  split at h
  · cases h
  · next last hlast =>
    cases walk : t.walk absolute names.dropLast with
    | error refusal =>
      rw [walk] at h
      cases h
    | ok around =>
      refine ⟨last, around, hlast, rfl, ?_⟩
      simp only [walk, bind, Except.bind] at h
      split at h
      · next reached =>
        cases h
        exact .inl ⟨reached, rfl⟩
      · next missing =>
        cases h
        exact .inr ⟨missing, rfl, rfl⟩
      · cases h

section

variable {around : List String} {last : String} (stands : t.entry? around = some .folder)
  (missing : t.enter around last = .error .missing)
include stands missing

theorem entry_of_missing : t.entry? (around ++ [last]) = none := by
  unfold enter at missing
  rw [stands] at missing
  dsimp only at missing
  split_ifs at missing with dot dots long taken
  · cases missing
  · exact Option.not_isSome_iff_eq_none.mp taken

/-- A free name leads to what is put under it. -/
theorem enter_put_of_missing :
    (t.put (around ++ [last]) e).enter around last = .ok (around ++ [last]) := by
  have apart : around ≠ around ++ [last] := by simp
  unfold enter at missing ⊢
  rw [stands] at missing
  rw [entry_put_of_ne apart, stands, entry_put_self (by simp), Option.isSome_some, if_pos rfl]
  dsimp only at missing ⊢
  split_ifs at missing ⊢
  · cases missing
  · rfl

end

/-- A path leads to what has been put there. -/
theorem target_put {absolute : Bool} {names : List String} {found? : Option FileEntry}
    (h : t.target absolute names = .ok (place, found?)) (free : found? ≠ some .folder)
    (around : t.isFolder absolute names.dropLast = true) :
    (t.put place e).target absolute names = .ok (place, some e) := by
  obtain ⟨last, start, hlast, walk, entered⟩ := target_eq_ok h
  have stands : t.entry? start = some .folder := by
    simpa [isFolder, walk] using around
  have unwalked : t.entry? place ≠ some .folder := by
    rcases entered with ⟨-, rfl⟩ | ⟨missing, rfl, -⟩
    · exact free
    · simp [entry_of_missing stands missing]
  have reached : (t.put place e).enter start last = .ok place := by
    rcases entered with ⟨step, -⟩ | ⟨missing, rfl, -⟩
    · exact enter_put unwalked step
    · exact enter_put_of_missing stands missing
  simp only [target, hlast, walk_put unwalked walk, bind, Except.bind, reached, pure, Except.pure,
    entry_put_self (ne_nil_of_free unwalked)]

theorem write_of_storage {t' : FileTree} {path content : String}
    (written : storage.write path content t = (.ok (), t')) : t.write path content = .ok t' := by
  simp only [storage] at written
  split at written <;> cases written
  assumption

/-- A file that has been written holds what was written. -/
theorem content?_write {t' : FileTree} {path content : String} {p : Path}
    {found? : Option FileEntry} (parsed : Path.ofString path = .ok p)
    (target : t.target p.absolute p.names = .ok (place, found?))
    (around : t.isFolder p.absolute p.names.dropLast = true)
    (ordinary : ∀ full, found? ≠ some (.device full))
    (written : storage.write path content t = (.ok (), t')) :
    t'.content? path = some content := by
  have put : found? ≠ some .folder ∧ t' = t.put place (.file content) := by
    have done := write_of_storage written
    simp only [write, parsed, target, bind, Except.bind, pure, Except.pure] at done
    cases slash : p.slash with
    | true => simp [slash, throw, throwThe, MonadExceptOf.throw] at done
    | false =>
      rw [slash] at done
      rcases found? with _ | _ | held | full
      · exact ⟨by simp, (Except.ok.inj done).symm⟩
      · cases done
      · exact ⟨by simp, (Except.ok.inj done).symm⟩
      · exact absurd rfl (ordinary full)
  obtain ⟨free, rfl⟩ := put
  simp only [content?, parsed, target_put target free around]

end CycleLedger.FileTree
