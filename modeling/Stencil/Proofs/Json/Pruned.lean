import Stencil.Proofs.Json.RoundTrip
import Stencil.Proofs.Json.UniqueKeys

/-!
# Values without null members

A value is pruned if none of its objects, however deep, has a null member; nulls elsewhere do no harm. What is
read from the text of a pruned value is pruned (`pruned_of_ofText`), whether or not it is that value again.
-/

namespace Stencil.Json

mutual

/-- No object in the value has a null member. -/
def Pruned : Json → Prop
  | .arr items => PrunedItems items
  | .obj members => PrunedMembers members
  | _ => True

def PrunedItems : List Json → Prop
  | [] => True
  | item :: rest => item.Pruned ∧ PrunedItems rest

def PrunedMembers : List (String × Json) → Prop
  | [] => True
  | (_, value) :: rest => (value.isNull = false ∧ value.Pruned) ∧ PrunedMembers rest

end

theorem prunedItems_iff {items : List Json} : PrunedItems items ↔ ∀ item ∈ items, item.Pruned := by
  induction items with
  | nil => simp [PrunedItems]
  | cons item rest ih => simp [PrunedItems, ih]

theorem prunedItems_nil : PrunedItems [] := trivial

theorem prunedMembers_nil : PrunedMembers [] := trivial

theorem PrunedItems.append {items others : List Json} (pruned : PrunedItems items) (more : PrunedItems others) :
    PrunedItems (items ++ others) := by
  rw [prunedItems_iff] at *
  exact List.forall_mem_append.2 ⟨pruned, more⟩

theorem PrunedItems.reverse {items : List Json} (pruned : PrunedItems items) : PrunedItems items.reverse := by
  rw [prunedItems_iff] at *
  exact fun item member => pruned item (List.mem_reverse.1 member)

theorem PrunedMembers.insert {members : Entries Json} {value : Json} (pruned : PrunedMembers members)
    (present : value.isNull = false ∧ value.Pruned) (key : String) :
    PrunedMembers (Entries.insert key value members) := by
  induction members with
  | nil => exact ⟨present, trivial⟩
  | cons member rest ih =>
    obtain ⟨name, old⟩ := member
    unfold Entries.insert
    split
    · exact ⟨present, pruned.2⟩
    · exact ⟨pruned.1, ih pruned.2⟩

theorem PrunedMembers.insertAll {members extra : Entries Json} (pruned : PrunedMembers members)
    (more : PrunedMembers extra) : PrunedMembers (members.insertAll extra) := by
  induction extra generalizing members with
  | nil => exact pruned
  | cons member rest ih => exact ih (pruned.insert more.1 member.1) more.2

/-! ### Read back -/

/-- What goes on after a value does so with what stands behind the value, or in the midst of a number. -/
theorem eq_of_leaves {c d : Char} {rest tail text : List Char} (leaves : Leaves (c :: rest) text)
    (plain : isBlank c = false) (other : isNumberChar d = false) (same : skipBlanks text = d :: tail) :
    c = d ∧ rest = tail := by
  obtain ⟨left, rfl, all⟩ := leaves
  cases left with
  | nil => exact List.cons.inj ((skipBlanks_of_not_blank rest plain).symm.trans same)
  | cons first left =>
    have number := all first List.mem_cons_self
    have shown := (not_blank_of_lead (number_of_isNumberChar number)).1
    obtain ⟨rfl, -⟩ := List.cons.inj ((skipBlanks_of_not_blank _ shown).symm.trans same)
    exact Bool.noConfusion (number.symm.trans other)

theorem readStep_chars {fuel : Nat} {nested : Option (Reader Json)} {number : Number} {rest after : List Char}
    {value : Json} (ends : Ends rest) (read : readStep fuel nested (number.chars ++ rest) = .ok (value, after)) :
    (∃ other, value = .num other) ∧ Leaves rest after := by
  have leaves : Leaves rest (number.chars ++ rest) := ⟨_, rfl, isNumberChar_chars number⟩
  obtain ⟨c, tail, written, first⟩ := exists_chars_eq_cons number
  rw [written] at read leaves
  unfold readStep at read
  rw [List.cons_append, skipBlanks_of_not_blank _ (not_blank_of_lead (number_of_isNumberChar first)).1] at read
  have other : ∀ letter, isNumberChar letter = false → c ≠ letter := by
    rintro letter differs rfl
    exact Bool.noConfusion (first.symm.trans differs)
  split at read <;> rename_i same
  iterate 6 exact absurd (List.cons.inj same).1 (other _ (by decide))
  · obtain ⟨rfl, rfl⟩ := List.cons.inj same
    split at read
    · obtain ⟨⟨found, behind⟩, numberRead, read⟩ := ok_of_bind read
      obtain ⟨rfl, rfl⟩ := Prod.mk.inj (Except.ok.inj read)
      exact ⟨⟨found, rfl⟩, leaves_readNumber ends leaves numberRead⟩
    · contradiction
  · contradiction

theorem readMembers_quoted {element : Reader Json} {fuel : Nat} {key : String} {text after : List Char}
    {done members : Entries Json} (read : readMembers element done fuel (quoted key ++ ':' :: text) = .ok (members, after)) :
    ∃ less value behind, fuel = less + 1 ∧ element text = .ok (value, behind) ∧
      ((∃ rest, skipBlanks behind = ',' :: rest ∧
          readMembers element (done.insert key value) less rest = .ok (members, after)) ∨
        skipBlanks behind = '}' :: after ∧ members = done.insert key value) := by
  obtain ⟨less, name, colon, value, behind, rfl, named, first, read⟩ := readMembers_cases read
  rw [readKey_quoted] at named
  obtain ⟨rfl, rfl⟩ := Prod.mk.inj (Except.ok.inj named)
  exact ⟨less, value, behind, rfl, first, read⟩

section Compact

variable (fuel depth : Nat) (rest : List Char)

theorem readValue_openArray (item : Json) (items : List Json) :
    readValue fuel (depth + 1) ((Json.arr (item :: items)).writeCompact rest) =
      readItems (readValue fuel depth) [] fuel (writeItems (item :: items) (']' :: rest)) >>= fun read =>
        .ok (.arr read.1, read.2) := by
  obtain ⟨c, tail, text, leads⟩ := writeItems_eq_cons item items (']' :: rest)
  rw [writeCompact, text]
  exact @readStep_openArray _ [] tail nofun fuel c (not_blank_of_lead leads)

theorem readValue_openObject (member : String × Json) (members : List (String × Json)) :
    readValue fuel (depth + 1) ((Json.obj (member :: members)).writeCompact rest) =
      readMembers (readValue fuel depth) [] fuel (writeMembers (member :: members) ('}' :: rest)) >>= fun read =>
        .ok (.obj read.1, read.2) := by
  obtain ⟨tail, text⟩ := writeMembers_eq_cons member members ('}' :: rest)
  rw [writeCompact, text]
  exact @readStep_openObject _ [] tail nofun fuel

end Compact

variable (fuel : Nat)

mutual

/-- A null is read as null and nothing else is; only a number may be read in part. -/
theorem pruned_of_readValue : (node : Json) → (depth : Nat) → {rest after : List Char} → {value : Json} →
    Ends rest → node.Pruned → readValue fuel depth (node.writeCompact rest) = .ok (value, after) →
    (value.isNull = node.isNull ∧ value.Pruned) ∧ Leaves rest after
  | .null, depth, rest, after, value, _, _, read => by
    rw [readValue_eq] at read
    obtain ⟨rfl, rfl⟩ := Prod.mk.inj (Except.ok.inj read)
    exact ⟨⟨rfl, trivial⟩, leaves_self⟩
  | .bool flag, depth, rest, after, value, _, _, read => by
    rw [readValue_eq] at read
    cases flag <;>
    · obtain ⟨rfl, rfl⟩ := Prod.mk.inj (Except.ok.inj read)
      exact ⟨⟨rfl, trivial⟩, leaves_self⟩
  | .num number, depth, rest, after, value, ends, _, read => by
    rw [readValue_eq] at read
    obtain ⟨⟨other, rfl⟩, leaves⟩ := readStep_chars ends read
    exact ⟨⟨rfl, trivial⟩, leaves⟩
  | .str text, depth, rest, after, value, _, _, read => by
    obtain ⟨body, written, whole⟩ := readQuoted_quoted text rest
    rw [readValue_eq, writeCompact, written] at read
    change (readQuoted none [] body >>= _) = _ at read
    rw [whole] at read
    obtain ⟨rfl, rfl⟩ := Prod.mk.inj (Except.ok.inj read)
    exact ⟨⟨rfl, trivial⟩, leaves_self⟩
  | .arr _, 0, _, _, _, _, _, read => by
    rw [readValue_eq] at read
    contradiction
  | .arr [], depth + 1, rest, after, value, _, _, read => by
    obtain ⟨rfl, rfl⟩ := Prod.mk.inj (Except.ok.inj read)
    exact ⟨⟨rfl, trivial⟩, leaves_self⟩
  | .arr (item :: items), depth + 1, rest, after, value, _, pruned, read => by
    rw [readValue_openArray] at read
    obtain ⟨⟨found, behind⟩, within, read⟩ := ok_of_bind read
    obtain ⟨rfl, rfl⟩ := Prod.mk.inj (Except.ok.inj read)
    obtain ⟨foundPruned, rfl⟩ :=
      pruned_of_readItems (item :: items) depth fuel (by simp) pruned prunedItems_nil within
    exact ⟨⟨rfl, foundPruned⟩, leaves_self⟩
  | .obj _, 0, _, _, _, _, _, read => by
    rw [readValue_eq] at read
    contradiction
  | .obj [], depth + 1, rest, after, value, _, _, read => by
    obtain ⟨rfl, rfl⟩ := Prod.mk.inj (Except.ok.inj read)
    exact ⟨⟨rfl, trivial⟩, leaves_self⟩
  | .obj (member :: members), depth + 1, rest, after, value, _, pruned, read => by
    rw [readValue_openObject] at read
    obtain ⟨⟨found, behind⟩, within, read⟩ := ok_of_bind read
    obtain ⟨rfl, rfl⟩ := Prod.mk.inj (Except.ok.inj read)
    obtain ⟨foundPruned, rfl⟩ :=
      pruned_of_readMembers (member :: members) depth fuel (by simp) pruned prunedMembers_nil within
    exact ⟨⟨rfl, foundPruned⟩, leaves_self⟩

theorem pruned_of_readItems : (items : List Json) → (depth bound : Nat) → {done found : List Json} →
    {rest after : List Char} → items ≠ [] → PrunedItems items → PrunedItems done →
    readItems (readValue fuel depth) done bound (writeItems items (']' :: rest)) = .ok (found, after) →
    PrunedItems found ∧ after = rest
  | [], _, _, _, _, _, _, nonempty, _, _, _ => absurd rfl nonempty
  | [item], depth, bound, done, found, rest, after, _, pruned, donePruned, read => by
    obtain ⟨less, value, behind, rfl, first, read⟩ := readItems_cases read
    obtain ⟨⟨-, valuePruned⟩, leaves⟩ := pruned_of_readValue item depth (ends_cons rfl) pruned.1 first
    rcases read with ⟨more, comma, -⟩ | ⟨bracket, rfl⟩
    · have closes := (eq_of_leaves leaves rfl rfl comma).1
      contradiction
    · obtain ⟨-, rfl⟩ := eq_of_leaves leaves rfl rfl bracket
      have all : PrunedItems (value :: done) := ⟨valuePruned, donePruned⟩
      exact ⟨all.reverse, rfl⟩
  | item :: next :: items, depth, bound, done, found, rest, after, _, pruned, donePruned, read => by
    obtain ⟨less, value, behind, rfl, first, read⟩ := readItems_cases read
    obtain ⟨⟨-, valuePruned⟩, leaves⟩ := pruned_of_readValue item depth (ends_cons rfl) pruned.1 first
    rcases read with ⟨more, comma, read⟩ | ⟨bracket, -⟩
    · obtain ⟨-, rfl⟩ := eq_of_leaves leaves rfl rfl comma
      have all : PrunedItems (value :: done) := ⟨valuePruned, donePruned⟩
      exact pruned_of_readItems (next :: items) depth less (by simp) pruned.2 all read
    · have goesOn := (eq_of_leaves leaves rfl rfl bracket).1
      contradiction

theorem pruned_of_readMembers : (members : List (String × Json)) → (depth bound : Nat) →
    {done found : Entries Json} → {rest after : List Char} → members ≠ [] → PrunedMembers members →
    PrunedMembers done →
    readMembers (readValue fuel depth) done bound (writeMembers members ('}' :: rest)) = .ok (found, after) →
    PrunedMembers found ∧ after = rest
  | [], _, _, _, _, _, _, nonempty, _, _, _ => absurd rfl nonempty
  | [(key, node)], depth, bound, done, found, rest, after, _, pruned, donePruned, read => by
    obtain ⟨less, value, behind, rfl, first, read⟩ := readMembers_quoted read
    obtain ⟨⟨same, valuePruned⟩, leaves⟩ := pruned_of_readValue node depth (ends_cons rfl) pruned.1.2 first
    rcases read with ⟨more, comma, -⟩ | ⟨brace, rfl⟩
    · have closes := (eq_of_leaves leaves rfl rfl comma).1
      contradiction
    · obtain ⟨-, rfl⟩ := eq_of_leaves leaves rfl rfl brace
      exact ⟨donePruned.insert ⟨same.trans pruned.1.1, valuePruned⟩ key, rfl⟩
  | (key, node) :: next :: members, depth, bound, done, found, rest, after, _, pruned, donePruned, read => by
    obtain ⟨less, value, behind, rfl, first, read⟩ := readMembers_quoted read
    obtain ⟨⟨same, valuePruned⟩, leaves⟩ := pruned_of_readValue node depth (ends_cons rfl) pruned.1.2 first
    rcases read with ⟨more, comma, read⟩ | ⟨brace, -⟩
    · obtain ⟨-, rfl⟩ := eq_of_leaves leaves rfl rfl comma
      have all := donePruned.insert ⟨same.trans pruned.1.1, valuePruned⟩ key
      exact pruned_of_readMembers (next :: members) depth less (by simp) pruned.2 all read
    · have goesOn := (eq_of_leaves leaves rfl rfl brace).1
      contradiction

end

/-- The text of a pruned value denotes a pruned value, if it denotes any. -/
theorem pruned_of_ofText {node value : Json} (pruned : node.Pruned) (read : ofText node.compact = .ok value) :
    value.Pruned := by
  obtain ⟨rest, within⟩ := readValue_of_ofText read
  rw [compact, String.toList_ofList] at within
  obtain ⟨⟨-, valuePruned⟩, -⟩ := pruned_of_readValue _ node maxDepth ends_nil pruned within
  exact valuePruned

end Stencil.Json
