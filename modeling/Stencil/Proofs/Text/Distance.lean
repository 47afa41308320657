import Mathlib.Order.Bounds.Defs
import Mathlib.Order.MinMax
import Stencil.Text.Similar

/-!
# The distance is the least number of edits

An edit inserts, deletes or replaces one character. The distance table is shown to hold the values of the recursion
on the front of two texts (`leastEdits`), over reversed beginnings since the table grows at the end. Every edit
changes that recursion by one at most, and some edits reach it, so that it is the least number
(`isLeast_distance`).
-/

namespace Stencil.Text

/-- One insertion, deletion or replacement of a character. -/
inductive Edit : List Char → List Char → Prop
  | insertion (before after : List Char) (c : Char) : Edit (before ++ after) (before ++ c :: after)
  | deletion (before after : List Char) (c : Char) : Edit (before ++ c :: after) (before ++ after)
  | replacement (before after : List Char) (c d : Char) : Edit (before ++ c :: after) (before ++ d :: after)

/-- That many edits lead from one text to the other. -/
inductive Edits : Nat → List Char → List Char → Prop
  | none (text : List Char) : Edits 0 text text
  | more {count : Nat} {text between other : List Char} (first : Edits count text between)
      (last : Edit between other) : Edits (count + 1) text other

section Edits

variable {count more : Nat} {text between other : List Char}

theorem Edits.trans (first : Edits count text between) (later : Edits more between other) :
    Edits (count + more) text other := by
  induction later with
  | none => exact first
  | more _ last ih => exact .more (ih first) last

theorem Edit.edits (once : Edit text other) : Edits 1 text other := .more (.none text) once

theorem Edit.cons (once : Edit text other) (c : Char) : Edit (c :: text) (c :: other) := by
  cases once with
  | insertion before after d => exact .insertion (c :: before) after d
  | deletion before after d => exact .deletion (c :: before) after d
  | replacement before after d e => exact .replacement (c :: before) after d e

theorem Edits.cons (edits : Edits count text other) (c : Char) : Edits count (c :: text) (c :: other) := by
  induction edits with
  | none text => exact .none (c :: text)
  | more _ last ih => exact .more ih (last.cons c)

theorem Edit.reverse (once : Edit text other) : Edit text.reverse other.reverse := by
  cases once with
  | insertion before after c =>
    simpa using Edit.insertion after.reverse before.reverse c
  | deletion before after c =>
    simpa using Edit.deletion after.reverse before.reverse c
  | replacement before after c d =>
    simpa using Edit.replacement after.reverse before.reverse c d

theorem Edits.reverse (edits : Edits count text other) : Edits count text.reverse other.reverse := by
  induction edits with
  | none text => exact .none text.reverse
  | more _ last ih => exact .more ih last.reverse

theorem edits_reverse : Edits count text.reverse other.reverse ↔ Edits count text other := by
  constructor
  · intro reversed
    simpa using reversed.reverse
  · exact Edits.reverse

theorem Edits.append_left (edits : Edits count text other) (before : List Char) :
    Edits count (before ++ text) (before ++ other) := by
  induction before with
  | nil => exact edits
  | cons c before ih => exact ih.cons c

theorem Edit.length_le (once : Edit text other) : other.length ≤ text.length + 1 := by
  cases once <;> simp only [List.length_append, List.length_cons] <;> omega

theorem Edits.length_le (edits : Edits count text other) : other.length ≤ text.length + count := by
  induction edits with
  | none text => exact Nat.le_refl text.length
  | more _ last ih =>
    have grown := last.length_le
    omega

end Edits

/-! ### The recursion on the front of both texts -/

/-- What it costs to put one character in the other's place. -/
def replacementCost (c d : Char) : Nat := if c = d then 0 else 1

/-- The best of an insertion, a deletion and a replacement in front. -/
def leastEdits : List Char → List Char → Nat
  | [], other => other.length
  | c :: text, [] => (c :: text).length
  | c :: text, d :: other =>
    min (min (leastEdits (c :: text) other + 1) (leastEdits text (d :: other) + 1))
      (leastEdits text other + replacementCost c d)

section LeastEdits

variable (c d : Char) (text other : List Char)

theorem leastEdits_nil_left : leastEdits [] other = other.length := by rw [leastEdits]

theorem leastEdits_nil_right : leastEdits text [] = text.length := by cases text <;> rw [leastEdits]

theorem leastEdits_cons_cons : leastEdits (c :: text) (d :: other) =
    min (min (leastEdits (c :: text) other + 1) (leastEdits text (d :: other) + 1))
      (leastEdits text other + replacementCost c d) := by
  rw [leastEdits]

theorem replacementCost_le : replacementCost c d ≤ 1 := by
  rw [replacementCost]
  split <;> omega

theorem leastEdits_self : leastEdits text text = 0 := by
  induction text with
  | nil => exact leastEdits_nil_left []
  | cons c text ih => simp [leastEdits_cons_cons, ih, replacementCost]

theorem leastEdits_cons_left : leastEdits (c :: text) other ≤ leastEdits text other + 1 := by
  cases other with
  | nil => simp [leastEdits_nil_right]
  | cons d other =>
    rw [leastEdits_cons_cons]
    omega

theorem leastEdits_insertion : leastEdits text (d :: other) ≤ leastEdits text other + 1 := by
  cases text with
  | nil => simp [leastEdits_nil_left]
  | cons c text =>
    rw [leastEdits_cons_cons]
    omega

theorem leastEdits_deletion : leastEdits text other ≤ leastEdits text (d :: other) + 1 := by
  induction text with
  | nil =>
    rw [leastEdits_nil_left, leastEdits_nil_left, List.length_cons]
    omega
  | cons c text ih =>
    have grown := leastEdits_cons_left c text other
    rw [leastEdits_cons_cons]
    omega

theorem leastEdits_replacement (e : Char) : leastEdits text (e :: other) ≤ leastEdits text (d :: other) + 1 := by
  induction text with
  | nil => simp [leastEdits_nil_left]
  | cons c text ih =>
    have cheap := replacementCost_le c e
    rw [leastEdits_cons_cons, leastEdits_cons_cons]
    omega

end LeastEdits

/-- Texts that are one edit apart stay so behind a common beginning. -/
theorem leastEdits_append {old new : List Char} (near : ∀ text, leastEdits text new ≤ leastEdits text old + 1)
    (before text : List Char) : leastEdits text (before ++ new) ≤ leastEdits text (before ++ old) + 1 := by
  induction before generalizing text with
  | nil => exact near text
  | cons d before outer =>
    rw [List.cons_append, List.cons_append]
    induction text with
    | nil =>
      have shorter := outer []
      rw [leastEdits_nil_left, leastEdits_nil_left] at shorter
      rw [leastEdits_nil_left, leastEdits_nil_left, List.length_cons, List.length_cons]
      omega
    | cons c text inner =>
      have inserted := outer (c :: text)
      have replaced := outer text
      rw [leastEdits_cons_cons, leastEdits_cons_cons]
      omega

theorem leastEdits_of_edit {between other : List Char} (once : Edit between other) (text : List Char) :
    leastEdits text other ≤ leastEdits text between + 1 := by
  cases once with
  | insertion before after c => exact leastEdits_append (leastEdits_insertion c · after) before text
  | deletion before after c => exact leastEdits_append (leastEdits_deletion c · after) before text
  | replacement before after c d => exact leastEdits_append (leastEdits_replacement c · after d) before text

theorem leastEdits_le {count : Nat} {text other : List Char} (edits : Edits count text other) :
    leastEdits text other ≤ count := by
  induction edits with
  | none text => exact (leastEdits_self text).le
  | more _ last ih => exact (leastEdits_of_edit last _).trans (Nat.succ_le_succ ih)

theorem edits_leastEdits (text other : List Char) : Edits (leastEdits text other) text other := by
  induction text, other using leastEdits.induct with
  | case1 other =>
    rw [leastEdits_nil_left]
    induction other with
    | nil => exact .none []
    | cons d other ih => exact .more ih (.insertion [] other d)
  | case2 c text =>
    rw [leastEdits_nil_right]
    induction c :: text with
    | nil => exact .none []
    | cons c text ih =>
      rw [List.length_cons, Nat.add_comm]
      exact (Edit.deletion [] text c).edits.trans ih
  | case3 c text d other insertion deletion replacement =>
    rw [leastEdits_cons_cons]
    obtain either | replaced := min_choice (min (leastEdits (c :: text) other + 1) (leastEdits text (d :: other) + 1))
      (leastEdits text other + replacementCost c d)
    · obtain inserted | deleted := min_choice (leastEdits (c :: text) other + 1) (leastEdits text (d :: other) + 1)
      · rw [either, inserted]
        exact .more insertion (.insertion [] other d)
      · rw [either, deleted, Nat.add_comm]
        exact (Edit.deletion [] text c).edits.trans deletion
    · rw [replaced, replacementCost]
      split
      · rename_i same
        rw [← same]
        exact replacement.cons c
      · exact .more (replacement.cons c) (.replacement [] other c d)

theorem isLeast_leastEdits (text other : List Char) :
    IsLeast { count | Edits count text other } (leastEdits text other) :=
  ⟨edits_leastEdits text other, fun _ edits => leastEdits_le edits⟩

/-! ### The table -/

/-- A row of the table past `before`: the text up to this row, and the beginnings of the other, are reversed. -/
def rowFrom (text before : List Char) : List Char → List Nat
  | [] => []
  | d :: other => leastEdits text (d :: before) :: rowFrom text (d :: before) other

theorem nextRow_rowFrom (c : Char) (text before other : List Char) :
    nextRow c (leastEdits text before) (leastEdits (c :: text) before) other (rowFrom text before other) =
      rowFrom (c :: text) before other := by
  induction other generalizing before with
  | nil => rfl
  | cons d other ih =>
    rw [rowFrom, rowFrom, nextRow, ← replacementCost, ← leastEdits_cons_cons, ih]

theorem lastRow_rowFrom (text other above : List Char) :
    lastRow other text (leastEdits above [], rowFrom above [] other) =
      (leastEdits (text.reverse ++ above) [], rowFrom (text.reverse ++ above) [] other) := by
  induction text generalizing above with
  | nil => rfl
  | cons c text ih =>
    have corner : leastEdits above [] + 1 = leastEdits (c :: above) [] := by
      rw [leastEdits_nil_right, leastEdits_nil_right, List.length_cons]
    rw [lastRow, corner, nextRow_rowFrom, ih, List.reverse_cons, List.append_assoc, List.singleton_append]

theorem rowFrom_nil (before other : List Char) :
    rowFrom [] before other = List.range' (before.length + 1) other.length := by
  induction other generalizing before with
  | nil => rfl
  | cons d other ih =>
    rw [rowFrom, ih, leastEdits_nil_left, List.length_cons, List.length_cons, List.range'_succ]

theorem getLastD_rowFrom (text before other : List Char) :
    (rowFrom text before other).getLastD (leastEdits text before) = leastEdits text (other.reverse ++ before) := by
  induction other generalizing before with
  | nil => rfl
  | cons d other ih =>
    rw [rowFrom, List.getLastD_cons, ih, List.reverse_cons, List.append_assoc, List.singleton_append]

theorem distance_eq_leastEdits (text other : String) :
    distance text other = leastEdits text.toList.reverse other.toList.reverse := by
  have first : (0, List.range' 1 other.toList.length) = (leastEdits [] [], rowFrom [] [] other.toList) := by
    rw [rowFrom_nil, leastEdits_nil_left]
    rfl
  rw [distance, first, lastRow_rowFrom]
  dsimp only
  rw [List.append_nil, getLastD_rowFrom, List.append_nil]

theorem isLeast_distance (text other : String) :
    IsLeast { count | Edits count text.toList other.toList } (distance text other) := by
  have least := isLeast_leastEdits text.toList.reverse other.toList.reverse
  simp only [edits_reverse] at least
  rwa [distance_eq_leastEdits]

/-- What stands at the end of one text only costs one edit a character. -/
theorem distance_append (text extra : String) : distance text (text ++ extra) = extra.length := by
  obtain ⟨reached, least⟩ := isLeast_distance text (text ++ extra)
  apply Nat.le_antisymm
  · have added := (edits_leastEdits [] extra.toList).append_left text.toList
    rw [leastEdits_nil_left, List.append_nil, ← String.toList_append, String.length_toList] at added
    exact least added
  · have grown := Edits.length_le reached
    rw [String.toList_append, List.length_append, String.length_toList, String.length_toList] at grown
    omega

theorem exists_distance_eq (text : String) (count : Nat) : ∃ other, distance text other = count := by
  refine ⟨text ++ String.ofList (List.replicate count '-'), ?_⟩
  rw [distance_append, String.length_ofList, List.length_replicate]

end Stencil.Text
