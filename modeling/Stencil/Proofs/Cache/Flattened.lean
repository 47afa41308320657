import Mathlib.Data.List.Chain
import Stencil.Proofs.Cache.StoreKey

/-!
# Keys are flattened

However the lists and arrays of a key are nested, its flat form is made of its atoms in their order: the texts,
and the values that are no arrays. Grouping parts in another way, or having empty ones among them, changes neither
the flat form nor a store key, and if the atoms are tidy, so is the flat form (`expansion_flattened`).
-/

namespace Stencil

namespace Json

mutual

/-- The values within a value's arrays that are no arrays themselves, in their order. -/
def atoms : Json → List Json
  | .arr items => atomsOfItems items
  | value => [value]

def atomsOfItems : List Json → List Json
  | [] => []
  | item :: rest => item.atoms ++ atomsOfItems rest

end

def isArray : Json → Bool
  | .arr _ => true
  | _ => false

mutual

theorem not_isArray_of_atoms : (value : Json) → ∀ atom ∈ value.atoms, atom.isArray = false
  | .arr items => by
    simp only [atoms]
    exact not_isArray_of_atomsOfItems items
  | .null | .bool _ | .num _ | .str _ | .obj _ => by
    simp [atoms, isArray]

theorem not_isArray_of_atomsOfItems : (items : List Json) → ∀ atom ∈ atomsOfItems items, atom.isArray = false
  | [] => by simp [atomsOfItems]
  | item :: rest => by
    intro atom member
    obtain first | later := List.mem_append.1 member
    · exact not_isArray_of_atoms item atom first
    · exact not_isArray_of_atomsOfItems rest atom later

end

end Json

namespace Cache

/-- The texts that are not empty. -/
def solid (texts : List (List Char)) : List (List Char) := texts.filter (· ≠ [])

theorem solid_append (texts others : List (List Char)) : solid (texts ++ others) = solid texts ++ solid others :=
  List.filter_append texts others

theorem leaf_eq_solid (text : List Char) : leaf text = solid [text] := by
  by_cases empty : text = [] <;> simp [leaf, solid, empty]

mutual

theorem leavesOf_eq_solid : (value : Json) → leavesOf value = solid (value.atoms.map expandValue)
  | .null | .bool _ | .num _ | .str _ | .obj _ => by
    simp only [leavesOf, Json.atoms, List.map_cons, List.map_nil, leaf_eq_solid]
  | .arr items => by
    simp only [leavesOf, Json.atoms]
    exact leavesOfItems_eq_solid items

theorem leavesOfItems_eq_solid : (items : List Json) →
    leavesOfItems items = solid ((Json.atomsOfItems items).map expandValue)
  | [] => rfl
  | item :: rest => by
    simp only [leavesOfItems, Json.atomsOfItems, List.map_append, solid_append]
    rw [leavesOf_eq_solid item, leavesOfItems_eq_solid rest]

end

namespace KeyExpr

mutual

/-- The texts of a key and its values that are no arrays, in their order. -/
def atoms : KeyExpr → List KeyExpr
  | .text content => [.text content]
  | .structured value => value.atoms.map .structured
  | .list parts => atomsOfParts parts

def atomsOfParts : List KeyExpr → List KeyExpr
  | [] => []
  | part :: rest => part.atoms ++ atomsOfParts rest

end

/-- The key is no list and no array. -/
def IsAtom : KeyExpr → Prop
  | .text _ => True
  | .structured value => value.isArray = false
  | .list _ => False

mutual

theorem isAtom_of_atoms : (key : KeyExpr) → ∀ atom ∈ key.atoms, atom.IsAtom
  | .text content => by
    simp [atoms, IsAtom]
  | .structured value => by
    simp only [atoms]
    intro atom member
    obtain ⟨inner, within, rfl⟩ := List.mem_map.1 member
    exact value.not_isArray_of_atoms inner within
  | .list parts => by
    simp only [atoms]
    exact isAtom_of_atomsOfParts parts

theorem isAtom_of_atomsOfParts : (parts : List KeyExpr) → ∀ atom ∈ atomsOfParts parts, atom.IsAtom
  | [] => by simp [atomsOfParts]
  | part :: rest => by
    intro atom member
    obtain first | later := List.mem_append.1 member
    · exact isAtom_of_atoms part atom first
    · exact isAtom_of_atomsOfParts rest atom later

end

mutual

theorem leaves_eq_solid : (key : KeyExpr) → key.leaves = solid (key.atoms.map chars)
  | .text content => by
    simp only [leaves, atoms, List.map_cons, List.map_nil, leaf_eq_solid, chars]
  | .structured value => by
    have flat : chars ∘ structured = expandValue := funext fun inner => by simp [chars]
    simp only [leaves, atoms, List.map_map, flat]
    exact leavesOf_eq_solid value
  | .list parts => by
    simp only [leaves, atoms]
    exact leavesOfParts_eq_solid parts

theorem leavesOfParts_eq_solid : (parts : List KeyExpr) →
    leavesOfParts parts = solid ((atomsOfParts parts).map chars)
  | [] => rfl
  | part :: rest => by
    simp only [leavesOfParts, atomsOfParts, List.map_append, solid_append]
    rw [leaves_eq_solid part, leavesOfParts_eq_solid rest]

end

/-! ### Regrouping -/

/-- The keys differ in how parts are put into lists and arrays, and in parts that are empty. -/
inductive Regrouped : KeyExpr → KeyExpr → Prop where
  | refl (key : KeyExpr) : Regrouped key key
  | symm {one other : KeyExpr} : Regrouped one other → Regrouped other one
  | trans {one middle other : KeyExpr} : Regrouped one middle → Regrouped middle other → Regrouped one other
  | single (part : KeyExpr) : Regrouped (.list [part]) part
  | sublist (before parts after : List KeyExpr) :
      Regrouped (.list (before ++ .list parts :: after)) (.list (before ++ parts ++ after))
  | array (items : List Json) : Regrouped (.structured (.arr items)) (.list (items.map .structured))
  | empty (before after : List KeyExpr) {part : KeyExpr} : part.expand = "" →
      Regrouped (.list (before ++ part :: after)) (.list (before ++ after))
  | within (before after : List KeyExpr) {one other : KeyExpr} : Regrouped one other →
      Regrouped (.list (before ++ one :: after)) (.list (before ++ other :: after))

theorem leaves_eq_nil {key : KeyExpr} (empty : key.expand = "") : key.leaves = [] := by
  obtain ⟨solid, joined⟩ := chars_eq_join key
  have none : key.chars = [] := String.ofList_injective empty
  exact (join_eq_nil solid).1 (joined.symm.trans none)

theorem leavesOfParts_structured (items : List Json) :
    leavesOfParts (items.map structured) = leavesOfItems items := by
  induction items with
  | nil => rfl
  | cons item rest ih => simp only [List.map_cons, leavesOfParts, leavesOfItems, leaves, ih]

theorem Regrouped.leaves_eq {one other : KeyExpr} (regrouped : one.Regrouped other) :
    one.leaves = other.leaves := by
  induction regrouped with
  | refl key => rfl
  | symm _ ih => exact ih.symm
  | trans _ _ first second => exact first.trans second
  | single part => simp only [leaves, leavesOfParts, List.append_nil]
  | sublist before parts after =>
    simp only [leaves, leavesOfParts, leavesOfParts_append, List.append_assoc]
  | array items => exact (leavesOfParts_structured items).symm
  | empty before after empty =>
    simp only [leaves, leavesOfParts, leavesOfParts_append, leaves_eq_nil empty, List.nil_append]
  | within before after _ ih => simp only [leaves, leavesOfParts, leavesOfParts_append, ih]

end KeyExpr

/-! ### Separators at the ends and side by side -/

/-- The text has no separator at an end, and nowhere two of them side by side. -/
structure Tidy (text : List Char) : Prop where
  first : text.head? ≠ some keySeparator
  last : text.getLast? ≠ some keySeparator
  inside : ¬ [keySeparator, keySeparator] <:+: text

theorem tidy_nil : Tidy [] :=
  ⟨by simp, by simp, by simp⟩

theorem not_infix_iff {text : List Char} : ¬ [keySeparator, keySeparator] <:+: text ↔
    text.IsChain fun one other => ¬ (one = keySeparator ∧ other = keySeparator) := by
  rw [List.isChain_iff_forall_rel_of_append_cons_cons]
  constructor
  · rintro free one other before after rfl ⟨rfl, rfl⟩
    exact free ⟨before, after, by simp⟩
  · rintro chain ⟨before, after, same⟩
    exact chain (by simpa using same.symm) ⟨rfl, rfl⟩

/-- One separator between tidy texts that are not empty stands alone. -/
theorem Tidy.glue {left right : List Char} (one : Tidy left) (other : Tidy right) : Tidy (glue left right) := by
  by_cases noLeft : left = []
  · rwa [noLeft, nil_glue]
  by_cases noRight : right = []
  · rwa [noRight, glue_nil]
  rw [glue_of_ne_nil noLeft noRight]
  refine ⟨?_, ?_, ?_⟩
  · rw [List.head?_append_of_ne_nil _ noLeft]
    exact one.first
  · rw [List.getLast?_append_of_ne_nil _ (List.cons_ne_nil _ _), List.getLast?_cons_of_ne_nil noRight]
    exact other.last
  · have chain := not_infix_iff.1 one.inside
    have chainToo := not_infix_iff.1 other.inside
    rw [not_infix_iff, List.isChain_append]
    refine ⟨chain, ?_, ?_⟩
    · rw [List.isChain_cons]
      refine ⟨?_, chainToo⟩
      rintro next head ⟨-, rfl⟩
      exact other.first head
    · rintro final ended _ - ⟨rfl, -⟩
      exact one.last ended

theorem tidy_join {parts : List (List Char)} (nonempty : [] ∉ parts) (each : ∀ part ∈ parts, Tidy part) :
    Tidy (join keySeparator parts) := by
  induction parts with
  | nil => exact tidy_nil
  | cons part rest ih =>
    rw [join_cons nonempty]
    refine (each part List.mem_cons_self).glue (ih ?_ ?_)
    · exact fun member => nonempty (List.mem_cons_of_mem _ member)
    · exact fun other member => each other (List.mem_cons_of_mem _ member)

/-- The keys have the same store key if they have the same flat form. -/
theorem Namer.Standard.storeKey_congr {namer : Namer} (standard : namer.Standard) (space : String)
    (options : Options) {one other : KeyExpr} (same : one.expand = other.expand) :
    namer.storeKey space one options = namer.storeKey space other options :=
  (standard.storeKey_eq_iff space options one other).2 ((KeyExpr.expand_eq_iff one other).1 same)

namespace KeyExpr

theorem toList_expand (key : KeyExpr) : key.expand.toList = key.chars :=
  String.toList_ofList

/-- The flat form is made of the atoms' flat forms. -/
theorem expand_eq_intercalate (key : KeyExpr) :
    key.expand = "/".intercalate ((key.atoms.map expand).filter (· ≠ "")) := by
  have texts : ((key.atoms.map expand).filter (· ≠ "")).map String.toList = solid (key.atoms.map chars) := by
    unfold solid
    rw [List.filter_map, List.filter_map, List.map_map]
    have flat : String.toList ∘ expand = chars := funext toList_expand
    have nonempty : (fun text : String => decide (text ≠ "")) ∘ expand =
        (fun text : List Char => decide (text ≠ [])) ∘ chars := by
      funext atom
      simp [← toList_expand]
    rw [flat, nonempty]
  rw [← String.toList_inj, String.toList_intercalate, texts, toList_expand, (chars_eq_join key).2,
    join_eq_intercalate, leaves_eq_solid]
  rfl

end KeyExpr

/--
The flat form of a key is made of those of its atoms that are not empty, with separators between them. It and the
store keys are those of any other grouping of the same parts, and the flat form is tidy if the atoms' are.
-/
theorem expansion_flattened (key : KeyExpr) :
    (∀ atom ∈ key.atoms, atom.IsAtom) ∧
    key.expand = "/".intercalate ((key.atoms.map KeyExpr.expand).filter (· ≠ "")) ∧
    (∀ other, key.Regrouped other → key.expand = other.expand ∧
      ∀ namer : Namer, namer.Standard → ∀ space options,
        namer.storeKey space key options = namer.storeKey space other options) ∧
    ((∀ atom ∈ key.atoms, Tidy atom.expand.toList) → Tidy key.expand.toList) := by
  refine ⟨key.isAtom_of_atoms, key.expand_eq_intercalate, fun other regrouped => ?_, fun tidy => ?_⟩
  · have same : key.expand = other.expand := by
      rw [KeyExpr.expand_eq_iff, regrouped.leaves_eq]
    exact ⟨same, fun namer standard space options => standard.storeKey_congr space options same⟩
  · obtain ⟨nonempty, joined⟩ := key.chars_eq_join
    rw [key.toList_expand, joined]
    refine tidy_join nonempty fun part member => ?_
    rw [key.leaves_eq_solid] at member
    obtain ⟨atom, known, rfl⟩ := List.mem_map.1 (List.mem_filter.1 member).1
    rw [← atom.toList_expand]
    exact tidy atom known

/-- A key with lists and arrays within each other, and the same parts in one list. -/
def nestedKey : KeyExpr :=
  .list [.list [], .text "posts", .structured (.arr [.num (.int 7), .null, .arr [.str "en"]])]

def flatKey : KeyExpr := .list [.text "posts", .structured (.num (.int 7)), .structured (.str "en")]

theorem nestedKey_regrouped : nestedKey.Regrouped flatKey := by
  have array : KeyExpr.Regrouped (.structured (.arr [.num (.int 7), .null, .arr [.str "en"]]))
      (.list [.structured (.num (.int 7)), .structured (.str "en")]) := by
    refine .trans (.array _) (.trans (.empty [.structured (.num (.int 7))] [_] (by decide +kernel)) ?_)
    exact .within [_] [] (.trans (.array _) (.single _))
  refine .trans (.sublist [] [] _) (.trans (.within [_] [] array) ?_)
  exact .sublist [_] _ []

/-- The parts of a key come in one line, with nothing where a list or a value is empty. -/
theorem expansion_flattened_posts :
    nestedKey.expand = "posts/7/en" ∧ nestedKey.expand = flatKey.expand ∧
      Namer.plain.storeKey "pages" nestedKey {} = Namer.plain.storeKey "pages" flatKey {} ∧
      Tidy nestedKey.expand.toList := by
  obtain ⟨-, flat, regrouped, tidy⟩ := expansion_flattened nestedKey
  obtain ⟨same, keys⟩ := regrouped flatKey nestedKey_regrouped
  refine ⟨flat.trans (by decide +kernel), same, keys .plain .plain "pages" {}, tidy ?_⟩
  intro atom member
  have known : atom ∈ [KeyExpr.text "posts", .structured (.num (.int 7)), .structured .null,
    .structured (.str "en")] := member
  simp only [List.mem_cons, List.not_mem_nil, or_false] at known
  rcases known with rfl | rfl | rfl | rfl <;> exact ⟨by decide +kernel, by decide +kernel, by decide +kernel⟩

end Cache

end Stencil
