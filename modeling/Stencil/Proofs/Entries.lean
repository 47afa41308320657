import Mathlib.Data.List.Basic
import Stencil.Entries

/-!
# Bindings made in turn

Bindings that are made one after the other stand where their keys were first bound and have the values that were
bound last (`insertAll_eq_lastWrites`).
-/

namespace Stencil

namespace Entries

variable {α : Type} {entries : Entries α}

theorem mem_insert {key : String} {value : α} {entry : String × α}
    (member : entry ∈ insert key value entries) : entry = (key, value) ∨ entry ∈ entries := by
  induction entries with
  | nil => exact .inl (List.mem_singleton.1 member)
  | cons first rest ih =>
    obtain ⟨name, old⟩ := first
    unfold insert at member
    split at member
    · rename_i same
      obtain rfl | later := List.mem_cons.1 member
      · exact .inl (by rw [same])
      · exact .inr (List.mem_cons_of_mem _ later)
    · obtain rfl | later := List.mem_cons.1 member
      · exact .inr List.mem_cons_self
      · exact (ih later).imp_right (List.mem_cons_of_mem _)

theorem keys_append (entries extra : Entries α) : keys (entries ++ extra) = keys entries ++ keys extra :=
  List.map_append

theorem get?_append (key : String) (entries extra : Entries α) :
    get? key (entries ++ extra) = (get? key entries).or (get? key extra) := by
  induction entries with
  | nil => rfl
  | cons entry rest ih =>
    by_cases same : entry.1 = key <;> simp [get?, same, ih]

theorem get?_of_fresh {key : String} (fresh : key ∉ keys entries) : get? key entries = none := by
  induction entries with
  | nil => rfl
  | cons entry rest ih =>
    simp only [keys, List.map_cons, List.mem_cons, not_or] at fresh ih
    simp [get?, Ne.symm fresh.1, ih fresh.2]

theorem mem_keys_iff {key : String} : key ∈ keys entries ↔ (get? key entries).isSome := by
  induction entries with
  | nil => simp [keys, get?]
  | cons entry rest ih =>
    simp only [keys] at ih
    by_cases same : entry.1 = key <;> simp [keys, get?, same, Ne.symm, ih]

theorem distinct_cons {entry : String × α} {rest : Entries α} :
    Distinct (entry :: rest) ↔ entry.1 ∉ keys rest ∧ Distinct rest :=
  List.nodup_cons

theorem get?_reverse (distinct : Distinct entries) (key : String) : get? key entries.reverse = get? key entries := by
  induction entries with
  | nil => rfl
  | cons entry rest ih =>
    obtain ⟨fresh, others⟩ := distinct_cons.1 distinct
    rw [List.reverse_cons, get?_append, ih others]
    by_cases same : entry.1 = key
    · rw [← same, get?_of_fresh fresh]
      simp [get?]
    · simp [get?, same]

theorem eraseDups_keys (distinct : Distinct entries) : (keys entries).eraseDups = keys entries := by
  induction entries with
  | nil => rfl
  | cons entry rest ih =>
    obtain ⟨fresh, others⟩ := distinct_cons.1 distinct
    have kept : (keys rest).filter (fun key => !key == entry.1) = keys rest := by
      refine List.filter_eq_self.2 fun key member => ?_
      have other : key ≠ entry.1 := fun same => fresh (same ▸ member)
      simp [other]
    show (entry.1 :: keys rest).eraseDups = entry.1 :: keys rest
    rw [List.eraseDups_cons, kept, ih others]

/-- What writes in turn make: every key where it is first written, with the value of its last write. -/
def lastWrites (writes : Entries α) : Entries α :=
  (keys writes).eraseDups.filterMap fun key => (get? key writes.reverse).map (key, ·)

/-- Distinct bindings are told by their keys and by what looking them up gives. -/
theorem eq_filterMap_keys (distinct : Distinct entries) :
    entries = (keys entries).filterMap fun key => (get? key entries).map (key, ·) := by
  induction entries with
  | nil => rfl
  | cons entry rest ih =>
    obtain ⟨fresh, others⟩ := distinct_cons.1 distinct
    have later : (keys rest).filterMap (fun key => (get? key (entry :: rest)).map (key, ·)) =
        (keys rest).filterMap fun key => (get? key rest).map (key, ·) := by
      refine List.filterMap_congr fun key member => ?_
      have other : entry.1 ≠ key := fun same => fresh (same ▸ member)
      simp [get?, other]
    show entry :: rest = (entry.1 :: keys rest).filterMap _
    rw [List.filterMap_cons, later, ← ih others]
    simp [get?]

section InsertAll

variable (extra : Entries α)

theorem insertAll_cons (entry : String × α) (entries rest : Entries α) :
    insertAll entries (entry :: rest) = insertAll (insert entry.1 entry.2 entries) rest := rfl

theorem insertAll_append (entries more others : Entries α) :
    insertAll entries (more ++ others) = insertAll (insertAll entries more) others :=
  List.foldl_append

theorem Distinct.insertAll (distinct : Distinct entries) : Distinct (insertAll entries extra) := by
  induction extra generalizing entries with
  | nil => exact distinct
  | cons entry rest ih => exact ih (distinct.insert entry.1 entry.2)

theorem keys_insertAll (distinct : Distinct entries) :
    keys (insertAll entries extra) = (keys (entries ++ extra)).eraseDups := by
  induction extra generalizing entries with
  | nil => rw [List.append_nil, eraseDups_keys distinct]; rfl
  | cons entry rest ih =>
    have inserted : (keys (insert entry.1 entry.2 entries)).eraseDups = (keys entries ++ [entry.1]).eraseDups := by
      rw [keys_insert]
      split
      · rename_i bound
        simp [List.eraseDups_append, List.removeAll, bound]
      · rfl
    rw [insertAll_cons, ih (distinct.insert _ _), keys_append, List.eraseDups_append, inserted]
    have members : ∀ key, key ∈ keys (insert entry.1 entry.2 entries) ↔ key ∈ keys entries ++ [entry.1] := by
      intro key
      rw [mem_keys_insert, List.mem_append, List.mem_singleton, or_comm]
    have removed : (keys rest).removeAll (keys (insert entry.1 entry.2 entries)) =
        (keys rest).removeAll (keys entries ++ [entry.1]) := by
      unfold List.removeAll
      refine List.filter_congr fun key _ => ?_
      simp [members]
    rw [removed, ← List.eraseDups_append, List.append_assoc, keys_append]
    rfl

theorem get?_insertAll (key : String) (entries : Entries α) :
    get? key (insertAll entries extra) = get? key (extra.reverse ++ entries) := by
  induction extra generalizing entries with
  | nil => rfl
  | cons entry rest ih =>
    rw [insertAll_cons, ih, List.reverse_cons, List.append_assoc, get?_append, get?_append, get?_insert]
    rfl

theorem insertAll_eq_lastWrites (distinct : Distinct entries) :
    insertAll entries extra = lastWrites (entries ++ extra) := by
  rw [eq_filterMap_keys (distinct.insertAll extra), keys_insertAll extra distinct]
  refine List.filterMap_congr fun key _ => ?_
  rw [get?_insertAll, List.reverse_append, get?_append, get?_append, get?_reverse distinct]

end InsertAll

/-! ### Bindings made together -/

theorem insert_insert (key : String) (value old : α) (entries : Entries α) :
    insert key value (insert key old entries) = insert key value entries := by
  induction entries with
  | nil => simp [insert]
  | cons entry rest ih =>
    by_cases same : entry.1 = key <;> simp [insert, same, ih]

theorem insert_comm {key name : String} (bound : key ∈ keys entries) (other : name ≠ key) (value old : α) :
    insert name old (insert key value entries) = insert key value (insert name old entries) := by
  induction entries with
  | nil => simp [keys] at bound
  | cons entry rest ih =>
    obtain ⟨first, held⟩ := entry
    by_cases found : first = key
    · subst found
      simp [insert, other.symm]
    · have later : key ∈ keys rest := by simpa [keys, Ne.symm found] using bound
      by_cases same : first = name <;> simp [insert, found, same, other, ih later]

theorem insertAll_insert_of_fresh {key : String} (bound : key ∈ keys entries) {extra : Entries α}
    (fresh : key ∉ keys extra) (value : α) :
    insertAll (insert key value entries) extra = insert key value (insertAll entries extra) := by
  induction extra generalizing entries with
  | nil => rfl
  | cons entry rest ih =>
    simp only [keys, List.map_cons, List.mem_cons, not_or] at fresh
    have still : key ∈ keys (insert entry.1 entry.2 entries) := (mem_keys_insert ..).2 (.inr bound)
    rw [insertAll_cons, insertAll_cons, insert_comm bound (Ne.symm fresh.1), ih still fresh.2]

/-- One more binding may be made before or after it gets to the entries. -/
theorem insertAll_insert {more : Entries α} (distinct : Distinct more) (entries : Entries α) (key : String)
    (value : α) : insertAll entries (insert key value more) = insert key value (insertAll entries more) := by
  induction more generalizing entries with
  | nil => rfl
  | cons entry rest ih =>
    obtain ⟨name, old⟩ := entry
    obtain ⟨fresh, others⟩ := distinct_cons.1 distinct
    by_cases same : name = key
    · subst same
      have bound : name ∈ keys (insert name old entries) := (mem_keys_insert ..).2 (.inl rfl)
      rw [insertAll_cons, ← insertAll_insert_of_fresh bound fresh, insert_insert]
      simp [insert, insertAll_cons]
    · rw [insertAll_cons, ← ih others]
      simp [insert, same, insertAll_cons]

/-- Distinct bindings may take up others before they are made in turn. -/
theorem insertAll_insertAll {more : Entries α} (distinct : Distinct more) (entries extra : Entries α) :
    insertAll entries (insertAll more extra) = insertAll (insertAll entries more) extra := by
  induction extra generalizing more with
  | nil => rfl
  | cons entry rest ih =>
    rw [insertAll_cons, ih (distinct.insert _ _), insertAll_insert distinct, ← insertAll_cons]

theorem distinct_nil : Distinct ([] : Entries α) := List.nodup_nil

theorem distinct_ofPairs (pairs : Entries α) : Distinct (ofPairs pairs) := Distinct.insertAll pairs distinct_nil

theorem insertAll_ofPairs (entries extra : Entries α) : insertAll entries (ofPairs extra) = insertAll entries extra :=
  insertAll_insertAll distinct_nil entries extra

end Entries

end Stencil
