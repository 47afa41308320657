/-!
# Entries

Bindings of texts to values that keep the order in which keys were first bound. `insert` replaces
a bound key's value where it stands and puts a new key last: `keys_insert` gives the keys after an
insertion and `get?_insert` what a look-up finds then.
-/

namespace Stencil

/-- Bindings in the order in which their keys were first bound. -/
abbrev Entries (α : Type) := List (String × α)

namespace Entries

variable {α β : Type}

def keys (entries : Entries α) : List String := entries.map Prod.fst

/-- The value of the first binding of `key`. -/
def get? (key : String) : Entries α → Option α
  | [] => none
  | (name, value) :: rest => if name = key then some value else get? key rest

/-- Binds `key` to `value`: in place if it is bound, else at the end. -/
def insert (key : String) (value : α) : Entries α → Entries α
  | [] => [(key, value)]
  | (name, old) :: rest =>
    if name = key then (name, value) :: rest else (name, old) :: insert key value rest

def erase (key : String) (entries : Entries α) : Entries α :=
  entries.filter fun entry => decide (entry.1 ≠ key)

/-- Binds each pair of `extra` in turn. -/
def insertAll (entries extra : Entries α) : Entries α :=
  extra.foldl (fun found entry => insert entry.1 entry.2 found) entries

/-- The bindings that a list of pairs makes, a later pair overwriting an earlier one. -/
def ofPairs (pairs : List (String × α)) : Entries α := insertAll [] pairs

/-- No key is bound twice. -/
def Distinct (entries : Entries α) : Prop := (keys entries).Nodup

instance (entries : Entries α) : Decidable (Distinct entries) :=
  inferInstanceAs (Decidable (keys entries).Nodup)

theorem get?_insert (key name : String) (value : α) (entries : Entries α) :
    get? name (insert key value entries) = if key = name then some value else get? name entries := by
  induction entries with
  | nil => simp [insert, get?]
  | cons entry rest ih =>
    obtain ⟨first, old⟩ := entry
    by_cases same : first = key
    · subst same
      by_cases found : first = name <;> simp [insert, get?, found]
    · by_cases found : first = name
      · subst found
        simp [insert, get?, same, Ne.symm same]
      · simp [insert, get?, same, found, ih]

theorem mem_keys_insert (key name : String) (value : α) (entries : Entries α) :
    name ∈ keys (insert key value entries) ↔ name = key ∨ name ∈ keys entries := by
  induction entries with
  | nil => simp [insert, keys]
  | cons entry rest ih =>
    obtain ⟨first, old⟩ := entry
    simp only [keys] at ih
    by_cases same : first = key
    · subst same
      simp [insert, keys]
    · simp [insert, keys, same, ih]
      grind

theorem keys_insert (key : String) (value : α) (entries : Entries α) :
    keys (insert key value entries) =
      if key ∈ keys entries then keys entries else keys entries ++ [key] := by
  induction entries with
  | nil => simp [insert, keys]
  | cons entry rest ih =>
    obtain ⟨first, old⟩ := entry
    simp only [keys] at ih
    by_cases same : first = key
    · subst same
      simp [insert, keys]
    · by_cases later : key ∈ rest.map Prod.fst
      · simp_all [insert, keys, Ne.symm same]
      · simp_all [insert, keys, Ne.symm same]

theorem Distinct.insert {entries : Entries α} (distinct : Distinct entries) (key : String)
    (value : α) : Distinct (entries.insert key value) := by
  unfold Distinct at *
  rw [keys_insert]
  split
  · exact distinct
  · rename_i fresh
    refine List.nodup_append.2 ⟨distinct, by simp, ?_⟩
    intro name member other last same
    simp at last
    subst last
    exact fresh (same ▸ member)

theorem insert_of_fresh {key : String} {entries : Entries α} (fresh : key ∉ keys entries)
    (value : α) : insert key value entries = entries ++ [(key, value)] := by
  induction entries with
  | nil => rfl
  | cons entry rest ih =>
    obtain ⟨first, old⟩ := entry
    simp only [keys, List.map_cons, List.mem_cons, not_or] at fresh ih
    simp [insert, Ne.symm fresh.1, ih fresh.2]

theorem insertAll_of_distinct {entries extra : Entries α} (distinct : Distinct (entries ++ extra)) :
    insertAll entries extra = entries ++ extra := by
  induction extra generalizing entries with
  | nil => simp [insertAll]
  | cons entry rest ih =>
    obtain ⟨key, value⟩ := entry
    have fresh : key ∉ keys entries := by
      intro member
      have := (List.nodup_append.1 (by simpa [Distinct, keys] using distinct)).2.2 key
        (by simpa [keys] using member) key (by simp)
      exact this rfl
    have step := @ih (entries ++ [(key, value)]) (by simpa [Distinct, keys] using distinct)
    simpa [insertAll, insert_of_fresh fresh] using step

theorem ofPairs_of_distinct {entries : Entries α} (distinct : Distinct entries) :
    ofPairs entries = entries :=
  @insertAll_of_distinct _ [] entries distinct

end Entries

end Stencil
