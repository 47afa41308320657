import Stencil.Run.Fragments

/-!
# What store keys tell apart

The flat form of a key is its leaves, joined: scalars, texts and objects that are not empty
(`chars_eq_join`). A namer of the library puts the same parts around every key, so that two keys have the
same store key exactly if their leaves have the same joined text. Since nothing marks where a leaf ends or
what it was written from, different elements of a collection may well have the same one.
-/

namespace Stencil

namespace Cache

/-! ### Joined parts -/

/-- Two joined texts, joined. -/
def glue (left right : List Char) : List Char :=
  if left = [] then right else if right = [] then left else left ++ keySeparator :: right

theorem nil_glue (right : List Char) : glue [] right = right := by
  simp [glue]

theorem glue_nil (left : List Char) : glue left [] = left := by
  by_cases empty : left = [] <;> simp [glue, empty]

theorem glue_of_ne_nil {left right : List Char} (some : left ≠ []) (more : right ≠ []) :
    glue left right = left ++ keySeparator :: right := by
  simp [glue, some, more]

theorem glue_assoc (left middle right : List Char) :
    glue (glue left middle) right = glue left (glue middle right) := by
  by_cases first : left = []
  · simp [first, nil_glue]
  · by_cases second : middle = []
    · simp [second, nil_glue, glue_nil]
    · by_cases third : right = []
      · simp [third, glue_nil]
      · simp [glue, first, second, third]

theorem glue_left_inj {left right other : List Char} (same : glue left right = glue left other) :
    right = other := by
  by_cases first : left = []
  · simpa [first, nil_glue] using same
  · by_cases second : right = [] <;> by_cases third : other = []
    · rw [second, third]
    · rw [second, glue_nil, glue_of_ne_nil first third] at same
      simp at same
    · rw [third, glue_nil, glue_of_ne_nil first second] at same
      simp at same
    · rw [glue_of_ne_nil first second, glue_of_ne_nil first third] at same
      exact (List.cons.inj (List.append_cancel_left same)).2

theorem glue_right_inj {left right other : List Char} (same : glue left right = glue other right) :
    left = other := by
  have longer : ∀ {part : List Char}, right ≠ part ++ keySeparator :: right := by
    intro part equal
    have lengths := congrArg List.length equal
    simp only [List.length_append, List.length_cons] at lengths
    omega
  by_cases last : right = []
  · rw [last, glue_nil, glue_nil] at same
    exact same
  · by_cases first : left = [] <;> by_cases second : other = []
    · rw [first, second]
    · rw [first, nil_glue, glue_of_ne_nil second last] at same
      exact absurd same longer
    · rw [second, nil_glue, glue_of_ne_nil first last] at same
      exact absurd same.symm longer
    · rw [glue_of_ne_nil first last, glue_of_ne_nil second last] at same
      exact List.append_cancel_right same

theorem join_eq_intercalate (separator : Char) (parts : List (List Char)) :
    join separator parts = [separator].intercalate parts := by
  induction parts with
  | nil => rfl
  | cons part rest ih =>
    cases rest with
    | nil => simp [join]
    | cons next others => simp [join, ih]

theorem join_eq_nil {parts : List (List Char)} (solid : [] ∉ parts) :
    join keySeparator parts = [] ↔ parts = [] := by
  cases parts with
  | nil => simp [join]
  | cons part rest =>
    have some : part ≠ [] := by
      rintro rfl
      exact solid List.mem_cons_self
    cases rest <;> simp [join, some]

theorem join_cons {part : List Char} {rest : List (List Char)} (solid : [] ∉ part :: rest) :
    join keySeparator (part :: rest) = glue part (join keySeparator rest) := by
  have some : part ≠ [] := by
    rintro rfl
    exact solid List.mem_cons_self
  have others : [] ∉ rest := fun member => solid (List.mem_cons_of_mem _ member)
  cases rest with
  | nil => exact (glue_nil part).symm
  | cons next more =>
    have nonempty : join keySeparator (next :: more) ≠ [] := by
      rw [ne_eq, join_eq_nil others]
      simp
    rw [glue_of_ne_nil some nonempty]
    rfl

theorem join_append {parts rest : List (List Char)} (solid : [] ∉ parts ++ rest) :
    join keySeparator (parts ++ rest) = glue (join keySeparator parts) (join keySeparator rest) := by
  induction parts with
  | nil => exact (nil_glue _).symm
  | cons part others ih =>
    have later : [] ∉ others ++ rest := fun member => solid (List.mem_cons_of_mem _ member)
    have first : [] ∉ part :: others := fun member => solid (List.mem_append_left rest member)
    rw [List.cons_append] at solid ⊢
    rw [join_cons solid, ih later, join_cons first, glue_assoc]

/-- Parts without a separator can be told from their joined text. -/
theorem join_inj {parts others : List (List Char)} (solid : [] ∉ parts) (solidOthers : [] ∉ others)
    (free : ∀ part ∈ parts, keySeparator ∉ part) (freeOthers : ∀ part ∈ others, keySeparator ∉ part)
    (same : join keySeparator parts = join keySeparator others) : parts = others := by
  by_cases empty : parts = []
  · subst empty
    exact ((join_eq_nil solidOthers).1 same.symm).symm
  · have someOthers : others ≠ [] := by
      rintro rfl
      exact empty ((join_eq_nil solid).1 same)
    rw [join_eq_intercalate, join_eq_intercalate] at same
    rw [← List.splitOn_intercalate keySeparator free empty, same,
      List.splitOn_intercalate keySeparator freeOthers someOthers]

theorem joinParts_cons (part : List Char) (rest : List (List Char)) :
    joinParts (part :: rest) = glue part (joinParts rest) := by
  unfold joinParts
  by_cases empty : part = []
  · simp [empty, nil_glue]
  · have kept : (part :: rest).filter (fun part => !part.isEmpty) =
        part :: rest.filter fun part => !part.isEmpty := by simp [empty]
    have solid : [] ∉ part :: rest.filter fun part => !part.isEmpty := by simp [Ne.symm empty]
    rw [kept, join_cons solid]

/-! ### Leaves -/

def leaf (part : List Char) : List (List Char) := if part = [] then [] else [part]

mutual

/-- The parts of a value's flat form that are not joined from others. -/
def leavesOf : Json → List (List Char)
  | .arr items => leavesOfItems items
  | value => leaf (expandValue value)

def leavesOfItems : List Json → List (List Char)
  | [] => []
  | item :: rest => leavesOf item ++ leavesOfItems rest

end

mutual

/-- The parts of a key's flat form that are not joined from others. -/
def KeyExpr.leaves : KeyExpr → List (List Char)
  | .text content => leaf content.toList
  | .structured value => leavesOf value
  | .list parts => leavesOfParts parts

def leavesOfParts : List KeyExpr → List (List Char)
  | [] => []
  | part :: rest => part.leaves ++ leavesOfParts rest

end

theorem nil_notMem_leaf (part : List Char) : [] ∉ leaf part := by
  by_cases empty : part = []
  · simp [leaf, empty]
  · simp [leaf, empty, Ne.symm empty]

theorem join_leaf (part : List Char) : join keySeparator (leaf part) = part := by
  by_cases empty : part = [] <;> simp [leaf, empty, join]

theorem nil_notMem_append {parts rest : List (List Char)} (first : [] ∉ parts) (second : [] ∉ rest) :
    [] ∉ parts ++ rest := by
  simp [first, second]

theorem joinParts_cons_of_join {part : List Char} {rest : List (List Char)} {first others : List (List Char)}
    (solid : [] ∉ first ++ others) (one : part = join keySeparator first)
    (more : joinParts rest = join keySeparator others) :
    joinParts (part :: rest) = join keySeparator (first ++ others) := by
  rw [joinParts_cons, join_append solid, one, more]

mutual

theorem expandValue_eq_join : (value : Json) →
    [] ∉ leavesOf value ∧ expandValue value = join keySeparator (leavesOf value)
  | .null | .bool _ | .num _ | .str _ | .obj _ => by
    simp only [leavesOf]
    exact ⟨nil_notMem_leaf _, (join_leaf _).symm⟩
  | .arr items => by
    simp only [leavesOf, expandValue]
    exact expandItems_eq_join items

theorem expandItems_eq_join : (items : List Json) →
    [] ∉ leavesOfItems items ∧ joinParts (expandItems items) = join keySeparator (leavesOfItems items)
  | [] => by simp [leavesOfItems, expandItems, joinParts, join]
  | item :: rest => by
    obtain ⟨firstSolid, first⟩ := expandValue_eq_join item
    obtain ⟨restSolid, others⟩ := expandItems_eq_join rest
    have solid := nil_notMem_append firstSolid restSolid
    simp only [leavesOfItems, expandItems]
    exact ⟨solid, joinParts_cons_of_join solid first others⟩

end

namespace KeyExpr

mutual

/-- A key's flat form is its leaves, joined; none of them is empty. -/
theorem chars_eq_join : (key : KeyExpr) → [] ∉ key.leaves ∧ key.chars = join keySeparator key.leaves
  | .text content => by
    simp only [leaves, chars]
    exact ⟨nil_notMem_leaf _, (join_leaf _).symm⟩
  | .structured value => by
    simp only [leaves, chars]
    exact expandValue_eq_join value
  | .list parts => by
    simp only [leaves, chars]
    exact charsOfParts_eq_join parts

theorem charsOfParts_eq_join : (parts : List KeyExpr) →
    [] ∉ leavesOfParts parts ∧ joinParts (charsOfParts parts) = join keySeparator (leavesOfParts parts)
  | [] => by simp [leavesOfParts, charsOfParts, joinParts, join]
  | part :: rest => by
    obtain ⟨firstSolid, first⟩ := chars_eq_join part
    obtain ⟨restSolid, others⟩ := charsOfParts_eq_join rest
    have solid := nil_notMem_append firstSolid restSolid
    simp only [leavesOfParts, charsOfParts]
    exact ⟨solid, joinParts_cons_of_join solid first others⟩

end

theorem leavesOfParts_append (parts rest : List KeyExpr) :
    leavesOfParts (parts ++ rest) = leavesOfParts parts ++ leavesOfParts rest := by
  induction parts with
  | nil => rfl
  | cons part others ih => simp only [List.cons_append, leavesOfParts, ih, List.append_assoc]

theorem expand_eq_iff (one other : KeyExpr) :
    one.expand = other.expand ↔ join keySeparator one.leaves = join keySeparator other.leaves := by
  unfold expand
  rw [(chars_eq_join one).2, (chars_eq_join other).2]
  exact ⟨fun same => String.ofList_injective same, fun same => by rw [same]⟩

/-- The same parts around two keys make no difference. -/
theorem expand_around_eq_iff (before after : List KeyExpr) (one other : KeyExpr) :
    (list (before ++ one :: after)).expand = (list (before ++ other :: after)).expand ↔
      join keySeparator one.leaves = join keySeparator other.leaves := by
  have split : ∀ key : KeyExpr, (list (before ++ key :: after)).chars =
      glue (join keySeparator (leavesOfParts before))
        (glue (join keySeparator key.leaves) (join keySeparator (leavesOfParts after))) := by
    intro key
    obtain ⟨solid, joined⟩ := chars_eq_join (list (before ++ key :: after))
    simp only [leaves, leavesOfParts_append, leavesOfParts] at solid joined
    rw [joined, join_append solid, join_append fun member => solid (List.mem_append_right _ member)]
  unfold expand
  rw [split, split]
  constructor
  · intro same
    exact glue_right_inj (glue_left_inj (String.ofList_injective same))
  · intro same
    rw [same]

end KeyExpr

/-! ### Store keys -/

inductive Namer.Standard : Namer → Prop where
  | plain : Standard .plain
  | digest (template : TemplateDigest) : Standard template.namer
  | legacy (template : TemplateDigest) : Standard template.legacyNamer

/-- Such a namer leaves a key as it is or puts parts before it. -/
theorem Namer.Standard.name_cases {namer : Namer} (standard : namer.Standard) (options : Options) :
    (∀ key, (namer.name key options).1 = key) ∨
    ∃ before, ∀ key, (namer.name key options).1 = .list (before ++ [key]) := by
  cases standard with
  | plain => exact .inl fun _ => rfl
  | digest template =>
    by_cases skipped : options.skipDigest
    · exact .inl fun key => by simp [name, TemplateDigest.namer, skipped]
    · refine .inr ⟨[.text template.template, .text template.digest], fun key => ?_⟩
      simp [name, TemplateDigest.namer, TemplateDigest.decorate, skipped]
  | legacy template => exact .inr ⟨[.text template.template, .text template.digest], fun _ => rfl⟩

/-- Two keys have the same store key exactly if their leaves have the same joined text. -/
theorem Namer.Standard.storeKey_eq_iff {namer : Namer} (standard : namer.Standard) (space : String)
    (options : Options) (one other : KeyExpr) :
    namer.storeKey space one options = namer.storeKey space other options ↔
      join keySeparator one.leaves = join keySeparator other.leaves := by
  have framed := KeyExpr.expand_around_eq_iff (if space.isEmpty then [] else [.text space])
    (options.version.map .text).toList
  obtain kept | ⟨before, decorated⟩ := standard.name_cases options
  · simp only [storeKey, keyParts, kept]
    exact framed one other
  · simp only [storeKey, keyParts, decorated]
    rw [framed, ← KeyExpr.expand_eq_iff]
    exact KeyExpr.expand_around_eq_iff before [] one other

end Cache

open Cache

/-- The leaves of a collection's element, and behind them those of the key of its index. -/
def Run.elementLeaves (key : Option (Nat → KeyExpr)) (element : Nat × Json) : List (List Char) :=
  leavesOf element.2 ++ (key.map fun key => (key element.1).leaves).getD []

theorem Run.leaves_elementKey (key : Option (Nat → KeyExpr)) (element : Nat × Json) :
    (elementKey key element.1 element.2).leaves = elementLeaves key element := by
  cases key <;> simp [elementKey, elementLeaves, KeyExpr.leaves, leavesOfParts]

namespace Renderer

/--
Two elements of a collection share their store key exactly if their leaves have the same joined text, which
is to say the same leaves if none of them has a separator in it.
-/
theorem element_storeKey_eq_iff {σ : Type} (renderer : Renderer σ) (standard : renderer.namer.Standard)
    (options : Cache.Options) (key : Option (Nat → KeyExpr)) (one other : Nat × Json) :
    (renderer.storeKey (Run.elementKey key one.1 one.2) options =
        renderer.storeKey (Run.elementKey key other.1 other.2) options ↔
      join keySeparator (Run.elementLeaves key one) = join keySeparator (Run.elementLeaves key other)) ∧
    ((∀ part ∈ Run.elementLeaves key one ++ Run.elementLeaves key other, keySeparator ∉ part) →
      (renderer.storeKey (Run.elementKey key one.1 one.2) options =
          renderer.storeKey (Run.elementKey key other.1 other.2) options ↔
        Run.elementLeaves key one = Run.elementLeaves key other)) := by
  have joined := standard.storeKey_eq_iff renderer.settings.cacheNamespace options
    (Run.elementKey key one.1 one.2) (Run.elementKey key other.1 other.2)
  have solid : ∀ element, [] ∉ Run.elementLeaves key element := by
    intro element
    rw [← Run.leaves_elementKey]
    exact (KeyExpr.chars_eq_join _).1
  rw [Run.leaves_elementKey, Run.leaves_elementKey] at joined
  refine ⟨joined, fun free => joined.trans ⟨fun same => ?_, fun same => by rw [same]⟩⟩
  exact join_inj (solid one) (solid other) (fun part member => free part (List.mem_append_left _ member))
    (fun part member => free part (List.mem_append_right _ member)) same

/-- A number and its text are different elements with one store key. -/
theorem element_storeKey_number_text :
    Json.num (.int 1) ≠ .str "1" ∧
      (default : Renderer Unit).storeKey (Run.elementKey none 0 (.num (.int 1))) {} =
        (default : Renderer Unit).storeKey (Run.elementKey none 1 (.str "1")) {} := by
  obtain ⟨-, leaves⟩ := element_storeKey_eq_iff (default : Renderer Unit) .plain {} none
    (0, .num (.int 1)) (1, .str "1")
  exact ⟨by decide, (leaves (by decide)).2 (by decide)⟩

end Renderer

end Stencil
