import Stencil.Partial.Name

/-!
# Segments of partial names

A name is a directory, empty or ended by a slash, and a last segment that has no slash. Only the segment is
normalized: it loses one underscore. So a normalized name is its own normalized form exactly if its segment
starts with no further underscore (`normalize_normalize_iff`), and it is left with an underscore exactly if
the name had two of them.
-/

namespace Stencil.Partial

/-- What ends where a segment starts. -/
def IsDirectory (path : List Char) : Prop := path = [] ∨ ∃ outer, path = outer ++ ['/']

def directory (name : String) : List Char := (splitPath name.toList).1

/-- The last segment of a name. -/
def segment (name : String) : List Char := (splitPath name.toList).2

theorem directory_append_segment (name : String) : directory name ++ segment name = name.toList :=
  splitPath_append name.toList

theorem splitPath_cons (c : Char) (rest : List Char) :
    splitPath (c :: rest) = if (splitPath rest).1.isEmpty && c ≠ '/' then ([], c :: (splitPath rest).2)
      else (c :: (splitPath rest).1, (splitPath rest).2) := rfl

theorem splitPath_of_no_slash {file : List Char} (plain : '/' ∉ file) : splitPath file = ([], file) := by
  induction file with
  | nil => rfl
  | cons c rest ih =>
    rw [List.mem_cons, not_or] at plain
    rw [splitPath_cons, ih plain.2]
    simp [Ne.symm plain.1]

theorem splitPath_slash {file : List Char} (plain : '/' ∉ file) (outer : List Char) :
    splitPath (outer ++ '/' :: file) = (outer ++ ['/'], file) := by
  induction outer with
  | nil =>
    rw [List.nil_append, splitPath_cons, splitPath_of_no_slash plain]
    simp
  | cons c outer ih =>
    rw [List.cons_append, splitPath_cons, ih]
    simp

theorem splitPath_directory {path file : List Char} (path_isDirectory : IsDirectory path)
    (plain : '/' ∉ file) : splitPath (path ++ file) = (path, file) := by
  obtain rfl | ⟨outer, rfl⟩ := path_isDirectory
  · exact splitPath_of_no_slash plain
  · rw [List.append_assoc]
    exact splitPath_slash plain outer

theorem splitPath_spec (path : List Char) : IsDirectory (splitPath path).1 ∧ '/' ∉ (splitPath path).2 := by
  induction path with
  | nil => exact ⟨.inl rfl, List.not_mem_nil⟩
  | cons c rest ih =>
    obtain ⟨outside, plain⟩ := ih
    rw [splitPath_cons]
    split
    · rename_i within
      simp only [Bool.and_eq_true, decide_eq_true_eq] at within
      exact ⟨.inl rfl, by simp [plain, Ne.symm within.2]⟩
    · rename_i further
      refine ⟨.inr ?_, plain⟩
      obtain nothing | ⟨outer, some⟩ := outside
      · have slash : c = '/' := by simpa [nothing] using further
        exact ⟨[], by rw [nothing, slash, List.nil_append]⟩
      · exact ⟨c :: outer, by rw [some, List.cons_append]⟩

theorem isDirectory_directory (name : String) : IsDirectory (directory name) :=
  (splitPath_spec name.toList).1

theorem no_slash_segment (name : String) : '/' ∉ segment name :=
  (splitPath_spec name.toList).2

theorem mem_of_mem_dropUnderscore {c : Char} {file : List Char} (member : c ∈ dropUnderscore file) :
    c ∈ file := by
  unfold dropUnderscore at member
  split at member
  · exact List.mem_cons_of_mem _ member
  · exact member

theorem toList_normalize (name : String) :
    (normalize name).toList = directory name ++ dropUnderscore (segment name) :=
  String.toList_ofList

theorem splitPath_normalize (name : String) :
    splitPath (normalize name).toList = (directory name, dropUnderscore (segment name)) := by
  have plain : '/' ∉ dropUnderscore (segment name) := fun slash =>
    no_slash_segment name (mem_of_mem_dropUnderscore slash)
  rw [toList_normalize, splitPath_directory (isDirectory_directory name) plain]

theorem segment_normalize (name : String) : segment (normalize name) = dropUnderscore (segment name) := by
  rw [segment, splitPath_normalize]

theorem normalize_eq_self_iff (name : String) : normalize name = name ↔ (segment name).head? ≠ some '_' := by
  rw [← String.toList_inj, toList_normalize, ← directory_append_segment name, List.append_cancel_left_eq]
  unfold dropUnderscore
  split
  · rename_i rest shape
    have longer : rest ≠ '_' :: rest := fun same => Nat.succ_ne_self _ (congrArg List.length same).symm
    simp [shape, longer]
  · rename_i other
    refine iff_of_true rfl fun first => ?_
    obtain ⟨rest, shape⟩ := List.head?_eq_some_iff.1 first
    exact other rest shape

theorem head?_dropUnderscore (file : List Char) :
    (dropUnderscore file).head? = some '_' ↔ ['_', '_'] <+: file := by
  unfold dropUnderscore
  split
  · rename_i rest
    cases rest <;> simp [List.cons_prefix_cons, eq_comm]
  · rename_i other
    have first : file.head? ≠ some '_' := fun first =>
      (List.head?_eq_some_iff.1 first).elim fun rest shape => other rest shape
    constructor
    · exact fun same => absurd same first
    · rintro ⟨rest, rfl⟩
      exact absurd rfl first

/-- Normalizing once is enough for names whose segment has at most one underscore to lose. -/
theorem normalize_normalize_iff (name : String) :
    normalize (normalize name) = normalize name ↔ ¬['_', '_'] <+: segment name := by
  rw [normalize_eq_self_iff, segment_normalize, ne_eq, head?_dropUnderscore]

/-- An element's default local is the last segment of the normalized name. -/
theorem toList_defaultBinding (name : String) : (defaultBinding name).toList = segment (normalize name) := by
  rw [segment_normalize]
  exact String.toList_ofList

theorem defaultBinding_congr {name other : String} (same : normalize name = normalize other) :
    defaultBinding name = defaultBinding other := by
  rw [← String.toList_inj, toList_defaultBinding, toList_defaultBinding, same]

end Stencil.Partial
