import Stencil.Entries
import Stencil.Number.Binary64

/-!
# JSON values

A value keeps an object's members in the order in which they were first set. The values a caller
holds are `WellFormed`: no object repeats a key and every integer fits 64 bits. `depth` counts nested
containers, and `member_get?` says that looking up a member finds a value of the object.
-/

namespace Stencil

/-- A number as it is written: an integer of 64 bits, or a double. -/
inductive Number where
  | int (value : Int)
  | float (value : Number.Binary64)
  deriving DecidableEq

inductive Json where
  | null
  | bool (value : Bool)
  | num (value : Number)
  | str (value : String)
  | arr (items : List Json)
  | obj (members : List (String × Json))

instance : Inhabited Json := ⟨.null⟩

/-- An integer is written as one if 64 bits hold it, signed or unsigned. -/
def Number.InRange : Number → Prop
  | .int value => -0x8000000000000000 ≤ value ∧ value < 0x10000000000000000
  | .float _ => True

namespace Json

mutual

/-- Whether two values are the same, member order included. -/
def decideEq : (a b : Json) → Decidable (a = b)
  | .null, .null => isTrue rfl
  | .bool a, .bool b => if h : a = b then isTrue (by rw [h]) else isFalse (by simp [h])
  | .num a, .num b => if h : a = b then isTrue (by rw [h]) else isFalse (by simp [h])
  | .str a, .str b => if h : a = b then isTrue (by rw [h]) else isFalse (by simp [h])
  | .arr a, .arr b => match decideItems a b with
    | isTrue h => isTrue (by rw [h])
    | isFalse h => isFalse (by simp [h])
  | .obj a, .obj b => match decideMembers a b with
    | isTrue h => isTrue (by rw [h])
    | isFalse h => isFalse (by simp [h])
  | .null, .bool _ | .null, .num _ | .null, .str _ | .null, .arr _ | .null, .obj _
  | .bool _, .null | .bool _, .num _ | .bool _, .str _ | .bool _, .arr _ | .bool _, .obj _
  | .num _, .null | .num _, .bool _ | .num _, .str _ | .num _, .arr _ | .num _, .obj _
  | .str _, .null | .str _, .bool _ | .str _, .num _ | .str _, .arr _ | .str _, .obj _
  | .arr _, .null | .arr _, .bool _ | .arr _, .num _ | .arr _, .str _ | .arr _, .obj _
  | .obj _, .null | .obj _, .bool _ | .obj _, .num _ | .obj _, .str _ | .obj _, .arr _ =>
    isFalse (by simp)

def decideItems : (a b : List Json) → Decidable (a = b)
  | [], [] => isTrue rfl
  | [], _ :: _ | _ :: _, [] => isFalse (by simp)
  | a :: as, b :: bs => match decideEq a b, decideItems as bs with
    | isTrue h, isTrue hs => isTrue (by rw [h, hs])
    | isFalse h, _ => isFalse (by simp [h])
    | _, isFalse h => isFalse (by simp [h])

def decideMembers : (a b : List (String × Json)) → Decidable (a = b)
  | [], [] => isTrue rfl
  | [], _ :: _ | _ :: _, [] => isFalse (by simp)
  | (k, a) :: as, (l, b) :: bs => match decideEq a b, decideMembers as bs with
    | isTrue h, isTrue hs =>
      if hk : k = l then isTrue (by rw [h, hs, hk]) else isFalse (by simp [hk])
    | isFalse h, _ => isFalse (by simp [h])
    | _, isFalse h => isFalse (by simp [h])

end

instance : DecidableEq Json := decideEq

def get? (key : String) : Json → Option Json
  | .obj members => Entries.get? key members
  | _ => none

def elements? : Json → Option (List Json)
  | .arr items => some items
  | _ => none

def members? : Json → Option (Entries Json)
  | .obj members => some members
  | _ => none

def isNull : Json → Bool
  | .null => true
  | _ => false

mutual

/-- How many containers are nested in the value, itself included. -/
def depth : Json → Nat
  | .arr items => depthOfItems items + 1
  | .obj members => depthOfMembers members + 1
  | _ => 0

def depthOfItems : List Json → Nat
  | [] => 0
  | item :: rest => max item.depth (depthOfItems rest)

def depthOfMembers : List (String × Json) → Nat
  | [] => 0
  | (_, value) :: rest => max value.depth (depthOfMembers rest)

end

mutual

/-- No object repeats a key and every integer fits 64 bits. -/
def WellFormed : Json → Prop
  | .num value => value.InRange
  | .arr items => WellFormedItems items
  | .obj members => Entries.Distinct members ∧ WellFormedMembers members
  | _ => True

def WellFormedItems : List Json → Prop
  | [] => True
  | item :: rest => item.WellFormed ∧ WellFormedItems rest

def WellFormedMembers : List (String × Json) → Prop
  | [] => True
  | (_, value) :: rest => value.WellFormed ∧ WellFormedMembers rest

end

/-- A looked-up member is one of the object's values. -/
theorem member_get? {members : List (String × Json)} {key : String} {value : Json}
    (found : (Json.obj members).get? key = some value) : (key, value) ∈ members := by
  simp only [get?] at found
  induction members with
  | nil => simp [Entries.get?] at found
  | cons member rest ih =>
    obtain ⟨name, first⟩ := member
    by_cases same : name = key
    · simp [Entries.get?, same] at found
      simp [same, found]
    · simp [Entries.get?, same] at found
      exact List.mem_cons_of_mem _ (ih found)

end Json

end Stencil
