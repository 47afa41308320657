import Stencil.Json.Payload
import Stencil.Proofs.Entries
import Stencil.Proofs.Json.Tokens

/-!
# Values without repeated keys

Members that are set one after the other never repeat a key. So no object in what a text denotes repeats one,
however deep it is and also where the text itself does (`uniqueKeys_of_ofText`).
-/

namespace Stencil

namespace Json

mutual

/-- No object in the value repeats a key. -/
def UniqueKeys : Json → Prop
  | .arr items => UniqueKeysItems items
  | .obj members => Entries.Distinct members ∧ UniqueKeysMembers members
  | _ => True

def UniqueKeysItems : List Json → Prop
  | [] => True
  | item :: rest => item.UniqueKeys ∧ UniqueKeysItems rest

def UniqueKeysMembers : List (String × Json) → Prop
  | [] => True
  | (_, value) :: rest => value.UniqueKeys ∧ UniqueKeysMembers rest

end

theorem uniqueKeysItems_iff {items : List Json} : UniqueKeysItems items ↔ ∀ item ∈ items, item.UniqueKeys := by
  induction items with
  | nil => simp [UniqueKeysItems]
  | cons item rest ih => simp [UniqueKeysItems, ih]

theorem uniqueKeysMembers_iff {members : Entries Json} :
    UniqueKeysMembers members ↔ ∀ member ∈ members, member.2.UniqueKeys := by
  induction members with
  | nil => simp [UniqueKeysMembers]
  | cons member rest ih => simp [UniqueKeysMembers, ih]

theorem uniqueKeysItems_nil : UniqueKeysItems [] := trivial

theorem uniqueKeys_nil : (obj []).UniqueKeys := ⟨List.nodup_nil, trivial⟩

theorem UniqueKeysItems.append {items others : List Json} (unique : UniqueKeysItems items)
    (more : UniqueKeysItems others) : UniqueKeysItems (items ++ others) := by
  rw [uniqueKeysItems_iff] at *
  exact List.forall_mem_append.2 ⟨unique, more⟩

theorem UniqueKeys.insert {members : Entries Json} {value : Json} (unique : (obj members).UniqueKeys)
    (given : value.UniqueKeys) (key : String) : (obj (members.insert key value)).UniqueKeys := by
  obtain ⟨distinct, values⟩ := unique
  refine ⟨distinct.insert key value, ?_⟩
  rw [uniqueKeysMembers_iff] at *
  intro member among
  obtain rfl | old := Entries.mem_insert among
  · exact given
  · exact values member old

/-- The members that are added may repeat keys themselves. -/
theorem UniqueKeys.insertAll {members extra : Entries Json} (unique : (obj members).UniqueKeys)
    (given : UniqueKeysMembers extra) : (obj (members.insertAll extra)).UniqueKeys := by
  induction extra generalizing members with
  | nil => exact unique
  | cons member rest ih => exact ih (unique.insert given.1 member.1) given.2

/-! ### Reading -/

/-- What a text denotes is what its reader finds at its beginning. -/
theorem readValue_of_ofText {text : String} {node : Json} (read : ofText text = .ok node) :
    ∃ rest, readValue (text.toList.length + 1) maxDepth text.toList = .ok (node, rest) := by
  unfold ofText parse parseChars at read
  split at read
  · rename_i found parsed
    obtain rfl := Except.ok.inj read
    obtain ⟨⟨whole, rest⟩, within, parsed⟩ := ok_of_bind parsed
    dsimp only at parsed
    split at parsed
    · obtain rfl := Except.ok.inj parsed
      exact ⟨rest, within⟩
    · contradiction
  · contradiction

/-- Whatever the reader reads has the property. -/
def Gives (P : Json → Prop) (reader : Reader Json) : Prop :=
  ∀ text value rest, reader text = .ok (value, rest) → P value

section Loops

variable {element : Reader Json} {fuel : Nat} {text after : List Char}

/-- The loop goes on after a comma and ends with a bracket. -/
theorem readItems_cases {done items : List Json} (read : readItems element done fuel text = .ok (items, after)) :
    ∃ less item behind, fuel = less + 1 ∧ element text = .ok (item, behind) ∧
      ((∃ rest, skipBlanks behind = ',' :: rest ∧ readItems element (item :: done) less rest = .ok (items, after)) ∨
        skipBlanks behind = ']' :: after ∧ items = (item :: done).reverse) := by
  cases fuel with
  | zero => contradiction
  | succ less =>
    obtain ⟨⟨item, behind⟩, first, read⟩ := ok_of_bind read
    refine ⟨less, item, behind, rfl, first, ?_⟩
    dsimp only at read
    split at read
    · rename_i rest same
      exact .inl ⟨rest, same, read⟩
    · rename_i rest same
      obtain ⟨rfl, rfl⟩ := Prod.mk.inj (Except.ok.inj read)
      exact .inr ⟨same, rfl⟩
    · contradiction

/-- The loop goes on after a comma and ends with a brace. -/
theorem readMembers_cases {done members : Entries Json}
    (read : readMembers element done fuel text = .ok (members, after)) :
    ∃ less key colon value behind, fuel = less + 1 ∧ readKey text = .ok (key, colon) ∧
      element colon = .ok (value, behind) ∧
      ((∃ rest, skipBlanks behind = ',' :: rest ∧
          readMembers element (done.insert key value) less rest = .ok (members, after)) ∨
        skipBlanks behind = '}' :: after ∧ members = done.insert key value) := by
  cases fuel with
  | zero => contradiction
  | succ less =>
    obtain ⟨⟨key, colon⟩, named, read⟩ := ok_of_bind read
    obtain ⟨⟨value, behind⟩, first, read⟩ := ok_of_bind read
    refine ⟨less, key, colon, value, behind, rfl, named, first, ?_⟩
    dsimp only at read
    split at read
    · rename_i rest same
      exact .inl ⟨rest, same, read⟩
    · rename_i rest same
      obtain ⟨rfl, rfl⟩ := Prod.mk.inj (Except.ok.inj read)
      exact .inr ⟨same, rfl⟩
    · contradiction

variable (each : Gives UniqueKeys element)

include each

theorem uniqueKeys_readItems {done items : List Json} (before : UniqueKeysItems done)
    (read : readItems element done fuel text = .ok (items, after)) : UniqueKeysItems items := by
  induction fuel generalizing done text with
  | zero => contradiction
  | succ fuel ih =>
    obtain ⟨_, item, behind, ⟨⟩, first, read⟩ := readItems_cases read
    have all : UniqueKeysItems (item :: done) := ⟨each _ _ _ first, before⟩
    obtain ⟨rest, -, read⟩ | ⟨-, rfl⟩ := read
    · exact ih all read
    · rw [uniqueKeysItems_iff] at *
      exact fun item member => all item (List.mem_reverse.1 member)

theorem uniqueKeys_readMembers {done members : Entries Json} (before : (obj done).UniqueKeys)
    (read : readMembers element done fuel text = .ok (members, after)) : (obj members).UniqueKeys := by
  induction fuel generalizing done text with
  | zero => contradiction
  | succ fuel ih =>
    obtain ⟨_, key, colon, value, behind, ⟨⟩, -, first, read⟩ := readMembers_cases read
    have all := before.insert (each _ _ _ first) key
    obtain ⟨rest, -, read⟩ | ⟨-, rfl⟩ := read
    · exact ih all read
    · exact all

end Loops

variable (fuel : Nat)

theorem uniqueKeys_readStep {nested : Option (Reader Json)}
    (each : ∀ element, nested = some element → Gives UniqueKeys element) :
    Gives UniqueKeys (readStep fuel nested) := by
  intro text value rest read
  unfold readStep at read
  split at read
  iterate 3
    obtain ⟨rfl, -⟩ := Prod.mk.inj (Except.ok.inj read)
    trivial
  · obtain ⟨_, -, read⟩ := ok_of_bind read
    obtain ⟨rfl, -⟩ := Prod.mk.inj (Except.ok.inj read)
    trivial
  · split at read
    · contradiction
    · obtain ⟨rfl, -⟩ := Prod.mk.inj (Except.ok.inj read)
      trivial
    · obtain ⟨_, within, read⟩ := ok_of_bind read
      obtain ⟨rfl, -⟩ := Prod.mk.inj (Except.ok.inj read)
      exact uniqueKeys_readItems (each _ rfl) uniqueKeysItems_nil within
  · split at read
    · contradiction
    · obtain ⟨rfl, -⟩ := Prod.mk.inj (Except.ok.inj read)
      exact uniqueKeys_nil
    · obtain ⟨_, within, read⟩ := ok_of_bind read
      obtain ⟨rfl, -⟩ := Prod.mk.inj (Except.ok.inj read)
      exact uniqueKeys_readMembers (each _ rfl) uniqueKeys_nil within
  · split at read
    · obtain ⟨_, -, read⟩ := ok_of_bind read
      obtain ⟨rfl, -⟩ := Prod.mk.inj (Except.ok.inj read)
      trivial
    · contradiction
  · contradiction

theorem uniqueKeys_readValue (depth : Nat) : Gives UniqueKeys (readValue fuel depth) := by
  induction depth with
  | zero => exact uniqueKeys_readStep fuel nofun
  | succ depth ih =>
    refine uniqueKeys_readStep fuel ?_
    rintro _ ⟨⟩
    exact ih

theorem uniqueKeys_of_ofText {text : String} {node : Json} (read : ofText text = .ok node) : node.UniqueKeys := by
  obtain ⟨rest, within⟩ := readValue_of_ofText read
  exact uniqueKeys_readValue _ maxDepth _ _ _ within

end Json

end Stencil
