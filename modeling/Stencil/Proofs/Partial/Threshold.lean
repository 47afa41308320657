import Mathlib.Data.String.Basic
import Stencil.Proofs.Partial.Suggestions

/-!
# How far off a suggestion may be

A distance counts characters, but its limit is half of the target's length in bytes. The two measures give the same
limit for a target in ASCII, and for nearly no other one: otherwise some candidate is suggested although it is farther
off than half of the target's characters (`suggested_within_half`). Names that are suggested by the wider limit only
come after all that the narrower limit would suggest.
-/

namespace Stencil.Text

/-! ### Characters and bytes -/

theorem length_le_utf8Len (text : List Char) : text.length ≤ String.utf8Len text := by
  induction text with
  | nil => exact Nat.le_refl 0
  | cons c text ih =>
    have size := c.utf8Size_pos
    rw [String.utf8Len_cons, List.length_cons]
    omega

theorem utf8Len_eq_length_iff (text : List Char) : String.utf8Len text = text.length ↔ ∀ c ∈ text, c.val ≤ 127 := by
  induction text with
  | nil => simp
  | cons c text ih =>
    have size := c.utf8Size_pos
    have others := length_le_utf8Len text
    rw [List.forall_mem_cons, ← ih, ← Char.utf8Size_eq_one_iff, String.utf8Len_cons, List.length_cons]
    omega

theorem utf8Len_toList (text : String) : String.utf8Len text.toList = text.utf8ByteSize := by
  rw [← String.utf8ByteSize_ofList, String.ofList_toList]

theorem length_le_utf8ByteSize (text : String) : text.length ≤ text.utf8ByteSize := by
  rw [← String.length_toList, ← utf8Len_toList]
  exact length_le_utf8Len text.toList

theorem utf8ByteSize_eq_length_iff (text : String) :
    text.utf8ByteSize = text.length ↔ ∀ c ∈ text.toList, c.val ≤ 127 := by
  rw [← String.length_toList, ← utf8Len_toList]
  exact utf8Len_eq_length_iff text.toList

/-- Both are rounded down, so that one byte more makes no difference to an even number. -/
theorem half_utf8ByteSize_le_iff (text : String) : text.utf8ByteSize / 2 ≤ text.length / 2 ↔
    (∀ c ∈ text.toList, c.val ≤ 127) ∨ text.length % 2 = 0 ∧ text.utf8ByteSize = text.length + 1 := by
  have least := length_le_utf8ByteSize text
  rw [← utf8ByteSize_eq_length_iff]
  omega

/-! ### Suggestions under another limit -/

/-- The suggestions if names up to `limit` edits away are close enough. -/
def similarWithin (limit : Nat) (target : String) (names : List String) : List String :=
  ((scored target names).filter fun entry => entry.2 ≤ limit).take maxSuggestions |>.map Prod.fst

theorem similar_eq_similarWithin (target : String) (names : List String) :
    similar target names = similarWithin (target.utf8ByteSize / 2) target names := by
  have half : target.utf8ByteSize * 50 / 100 = target.utf8ByteSize / 2 := by omega
  rw [← half]
  rfl

/-- In a list that is in order, what a narrow limit keeps stands before the rest of what a wide one keeps. -/
theorem filter_le_append {entries : List (String × Nat)} (ordered : entries.Pairwise fun a b => a.2 ≤ b.2)
    {narrow wide : Nat} (le : narrow ≤ wide) :
    (entries.filter fun entry => entry.2 ≤ wide) =
      (entries.filter fun entry => entry.2 ≤ narrow) ++
        entries.filter fun entry => narrow < entry.2 ∧ entry.2 ≤ wide := by
  induction entries with
  | nil => rfl
  | cons first rest ih =>
    obtain ⟨before, ordered⟩ := List.pairwise_cons.1 ordered
    by_cases near : first.2 ≤ narrow
    · simpa [near, near.trans le, Nat.not_lt.2 near] using ih ordered
    · have above : ∀ entry ∈ first :: rest, narrow < entry.2 := by
        rw [List.forall_mem_cons]
        refine ⟨by omega, fun entry member => ?_⟩
        have later := before entry member
        omega
      have none : ((first :: rest).filter fun entry => entry.2 ≤ narrow) = [] :=
        List.filter_eq_nil_iff.2 fun entry member => by simpa using above entry member
      rw [none, List.nil_append]
      exact List.filter_congr fun entry member => by simp [above entry member]

section Limits

variable {limit narrow wide : Nat} {target : String} {names : List String}

theorem distance_of_mem_filter (keeps : Nat → Prop) [DecidablePred keeps] {count : Nat} {name : String}
    (kept : name ∈ (((scored target names).filter fun entry => keeps entry.2).take count).map Prod.fst) :
    keeps (distance target name) := by
  obtain ⟨entry, first, rfl⟩ := List.mem_map.1 kept
  obtain ⟨ranked, close⟩ := List.mem_filter.1 (List.mem_of_mem_take first)
  rw [← (mem_scored.1 ranked).2]
  exact of_decide_eq_true close

theorem distance_le_of_mem {name : String} (suggested : name ∈ similarWithin limit target names) :
    distance target name ≤ limit :=
  distance_of_mem_filter (· ≤ limit) suggested

theorem similarWithin_singleton {name : String} (close : distance target name ≤ limit) :
    similarWithin limit target [name] = [name] := by
  simp [similarWithin, scored, maxSuggestions, close]

theorem similarWithin_append (le : narrow ≤ wide) (target : String) (names : List String) :
    ∃ farther, similarWithin wide target names = similarWithin narrow target names ++ farther ∧
      ∀ name ∈ farther, narrow < distance target name := by
  have ordered : (scored target names).Pairwise fun a b => a.2 ≤ b.2 :=
    (mergeSort_ranked _).imp fun ranked => by omega
  rw [similarWithin, filter_le_append ordered le, List.take_append, List.map_append]
  refine ⟨_, rfl, fun name member => ?_⟩
  exact (distance_of_mem_filter (fun far => narrow < far ∧ far ≤ wide) member).1

end Limits

/--
A suggestion is one of the names, at most half of the target's bytes away in edits of single characters. That it is
always at most half of the target's characters away, whatever the candidates are, is so exactly if the target is in
ASCII, or if it has an even number of characters of which only one takes two bytes and none takes more. For every
target the names that half of its characters would admit come first, and only then some that are farther off.
-/
theorem suggested_within_half (target : String) :
    (∀ name : String, IsLeast { count | Edits count target.toList name.toList } (distance target name)) ∧
    (∀ names, ∀ name ∈ similar target names, name ∈ names ∧ distance target name ≤ target.utf8ByteSize / 2) ∧
    ((∀ names, ∀ name ∈ similar target names, distance target name ≤ target.length / 2) ↔
      (∀ c ∈ target.toList, c.val ≤ 127) ∨ target.length % 2 = 0 ∧ target.utf8ByteSize = target.length + 1) ∧
    ∀ names, ∃ farther, similar target names = similarWithin (target.length / 2) target names ++ farther ∧
      ∀ name ∈ farther, target.length / 2 < distance target name := by
  have bound : ∀ names, ∀ name ∈ similar target names, distance target name ≤ target.utf8ByteSize / 2 := by
    intro names name suggested
    rw [similar_eq_similarWithin] at suggested
    exact distance_le_of_mem suggested
  refine ⟨isLeast_distance target, fun names name suggested => ?_, ?_, fun names => ?_⟩
  · exact ⟨mem_of_mem_similar suggested, bound names name suggested⟩
  · rw [← half_utf8ByteSize_le_iff]
    constructor
    · intro always
      -- a name as far off as the limit lets pass is suggested if it is the only one
      obtain ⟨name, far⟩ := exists_distance_eq target (target.utf8ByteSize / 2)
      have alone : name ∈ similar target [name] := by
        rw [similar_eq_similarWithin, similarWithin_singleton far.le]
        exact List.mem_singleton_self name
      rw [← far]
      exact always [name] name alone
    · intro half names name suggested
      exact (bound names name suggested).trans half
  · rw [similar_eq_similarWithin]
    exact similarWithin_append (Nat.div_le_div_right (length_le_utf8ByteSize target)) target names

/-- Four characters in eight bytes: a name of four other characters is suggested for it. -/
theorem suggested_within_half_cyrillic :
    (Partial.Registry.ofList [("post", 1)]).resolve "юзер" = .error (.partialNotFound "юзер" ["post"]) ∧
      distance "юзер" "post" = 4 ∧ "юзер".length / 2 = 2 ∧
      ¬∀ names, ∀ name ∈ similar "юзер" names, distance "юзер" name ≤ "юзер".length / 2 := by
  refine ⟨by decide +kernel, by decide +kernel, by decide +kernel, ?_⟩
  obtain ⟨-, -, exactly, -⟩ := suggested_within_half "юзер"
  rw [exactly, ← half_utf8ByteSize_le_iff]
  decide +kernel

end Stencil.Text
