import Stencil.Proofs.Cache.Flattened

/-!
# The order of an object's members

An object is flattened to its `key=value` pairs in the order of the pairs. This is a normal form: the order in
which the members come, at any depth, makes no difference (`expansion_of_reordered`). It is the order of the
keys only as long as no key goes on from another with a character below `=` (`object_expansion`).
-/

namespace Stencil

namespace Json

mutual

/-- The other value is this one with the members of its objects in another order, at any depth. -/
def Reordered : Json → Json → Prop
  | .arr items, other => ∃ others, other = .arr others ∧ ReorderedItems items others
  | .obj members, other =>
    ∃ others middle, other = .obj others ∧ ReorderedMembers members middle ∧ middle.Perm others
  | .null, other => other = .null
  | .bool value, other => other = .bool value
  | .num value, other => other = .num value
  | .str content, other => other = .str content

def ReorderedItems : List Json → List Json → Prop
  | [], others => others = []
  | item :: rest, others => ∃ other more, others = other :: more ∧ item.Reordered other ∧ ReorderedItems rest more

/-- The other members have the same keys, and values that are reordered, in the same order of members. -/
def ReorderedMembers : List (String × Json) → List (String × Json) → Prop
  | [], others => others = []
  | (key, value) :: rest, others =>
    ∃ other more, others = (key, other) :: more ∧ value.Reordered other ∧ ReorderedMembers rest more

end

end Json

namespace Cache

/-! ### Texts in order -/

/-- Character by character, the second text is not before the first one. -/
def Ordered (one other : List Char) : Prop := other.lex one = false

instance (one other : List Char) : Decidable (Ordered one other) := inferInstanceAs (Decidable (_ = _))

theorem Ordered.trans {one middle other : List Char} (first : Ordered one middle) (second : Ordered middle other) :
    Ordered one other := by
  apply List.lex_eq_false_iff_ge.2
  exact List.le_trans (List.lex_eq_false_iff_ge.1 first) (List.lex_eq_false_iff_ge.1 second)

theorem Ordered.antisymm {one other : List Char} (first : Ordered one other) (second : Ordered other one) :
    one = other :=
  List.le_antisymm (List.lex_eq_false_iff_ge.1 first) (List.lex_eq_false_iff_ge.1 second)

theorem ordered_total (one other : List Char) : Ordered one other ∨ Ordered other one :=
  (List.le_total one other).imp List.lex_eq_false_iff_ge.2 List.lex_eq_false_iff_ge.2

theorem ordered_nil (text : List Char) : Ordered [] text := by
  cases text <;> rfl

theorem not_ordered_nil (first : Char) (rest : List Char) : ¬ Ordered (first :: rest) [] := by
  intro impossible
  cases impossible

theorem ordered_cons_iff {first head : Char} {rest others : List Char} :
    Ordered (first :: rest) (head :: others) ↔ first < head ∨ first = head ∧ Ordered rest others := by
  unfold Ordered
  rw [List.lex_eq_false_iff_ge, List.lex_eq_false_iff_ge, List.cons_le_cons_iff]

theorem mergeSort_sorted {α : Type} (text : α → List Char) (items : List α) :
    (items.mergeSort fun one other => !(text other).lex (text one)).Pairwise
      fun one other => Ordered (text one) (text other) := by
  have decides : ∀ one other : List Char, (!other.lex one) = true ↔ Ordered one other := by simp [Ordered]
  have sorted : (items.mergeSort fun one other => !(text other).lex (text one)).Pairwise
      fun one other => (!(text other).lex (text one)) = true := by
    refine List.pairwise_mergeSort ?_ ?_ items
    · intro one middle other first second
      rw [decides] at first second ⊢
      exact first.trans second
    · intro one other
      rw [Bool.or_eq_true, decides, decides]
      exact ordered_total (text one) (text other)
  exact sorted.imp (decides _ _).1

theorem sortTexts_sorted (texts : List (List Char)) : (sortTexts texts).Pairwise Ordered :=
  mergeSort_sorted id texts

theorem sortTexts_perm (texts : List (List Char)) : (sortTexts texts).Perm texts :=
  List.mergeSort_perm texts _

/-- There is one way only to put texts in order. -/
theorem eq_of_sorted_perm {texts others : List (List Char)} (sorted : texts.Pairwise Ordered)
    (sortedToo : others.Pairwise Ordered) (same : texts.Perm others) : texts = others :=
  same.eq_of_pairwise (fun _ _ _ _ => Ordered.antisymm) sorted sortedToo

theorem sortTexts_eq_of_perm {texts others : List (List Char)} (same : texts.Perm others) :
    sortTexts texts = sortTexts others := by
  refine eq_of_sorted_perm (sortTexts_sorted texts) (sortTexts_sorted others) ?_
  exact (sortTexts_perm texts).trans (same.trans (sortTexts_perm others).symm)

/-- A member as it stands in the flat form of its object. -/
def pairText (member : String × Json) : List Char := member.1.toList ++ '=' :: expandValue member.2

theorem expandMembers_eq_map (members : List (String × Json)) : expandMembers members = members.map pairText := by
  induction members with
  | nil => rfl
  | cons member rest ih => simp only [expandMembers, List.map_cons, pairText, ih]

/-! ### Members in another order -/

mutual

theorem expandValue_reordered : (one other : Json) → one.Reordered other → expandValue one = expandValue other
  | .arr items, other, reordered => by
    simp only [Json.Reordered] at reordered
    obtain ⟨others, rfl, each⟩ := reordered
    simp only [expandValue, expandItems_reordered items others each]
  | .obj members, other, reordered => by
    simp only [Json.Reordered] at reordered
    obtain ⟨others, middle, rfl, each, swapped⟩ := reordered
    have pairs : (expandMembers members).Perm (expandMembers others) := by
      rw [expandMembers_reordered members middle each, expandMembers_eq_map, expandMembers_eq_map]
      exact swapped.map pairText
    simp only [expandValue, sortTexts_eq_of_perm pairs]
  | .null, other, reordered | .bool _, other, reordered | .num _, other, reordered | .str _, other, reordered => by
    simp only [Json.Reordered] at reordered
    rw [reordered]

theorem expandItems_reordered : (items others : List Json) → Json.ReorderedItems items others →
    expandItems items = expandItems others
  | [], others, reordered => by
    simp only [Json.ReorderedItems] at reordered
    rw [reordered]
  | item :: rest, others, reordered => by
    simp only [Json.ReorderedItems] at reordered
    obtain ⟨other, more, rfl, first, later⟩ := reordered
    simp only [expandItems, expandValue_reordered item other first, expandItems_reordered rest more later]

theorem expandMembers_reordered : (members others : List (String × Json)) → Json.ReorderedMembers members others →
    expandMembers members = expandMembers others
  | [], others, reordered => by
    simp only [Json.ReorderedMembers] at reordered
    rw [reordered]
  | (key, value) :: rest, others, reordered => by
    simp only [Json.ReorderedMembers] at reordered
    obtain ⟨other, more, rfl, first, later⟩ := reordered
    simp only [expandMembers, expandValue_reordered value other first, expandMembers_reordered rest more later]

end

namespace KeyExpr

mutual

/-- The other key is this one with reordered values in it. -/
def Reordered : KeyExpr → KeyExpr → Prop
  | .text content, other => other = .text content
  | .structured value, other => ∃ swapped, other = .structured swapped ∧ value.Reordered swapped
  | .list parts, other => ∃ others, other = .list others ∧ ReorderedParts parts others

def ReorderedParts : List KeyExpr → List KeyExpr → Prop
  | [], others => others = []
  | part :: rest, others => ∃ other more, others = other :: more ∧ part.Reordered other ∧ ReorderedParts rest more

end

mutual

theorem chars_reordered : (one other : KeyExpr) → one.Reordered other → one.chars = other.chars
  | .text content, other, reordered => by
    simp only [Reordered] at reordered
    rw [reordered]
  | .structured value, other, reordered => by
    simp only [Reordered] at reordered
    obtain ⟨swapped, rfl, each⟩ := reordered
    simp only [chars, expandValue_reordered value swapped each]
  | .list parts, other, reordered => by
    simp only [Reordered] at reordered
    obtain ⟨others, rfl, each⟩ := reordered
    simp only [chars, charsOfParts_reordered parts others each]

theorem charsOfParts_reordered : (parts others : List KeyExpr) → ReorderedParts parts others →
    charsOfParts parts = charsOfParts others
  | [], others, reordered => by
    simp only [ReorderedParts] at reordered
    rw [reordered]
  | part :: rest, others, reordered => by
    simp only [ReorderedParts] at reordered
    obtain ⟨other, more, rfl, first, later⟩ := reordered
    simp only [charsOfParts, chars_reordered part other first, charsOfParts_reordered rest more later]

end

end KeyExpr

/-- Keys whose values differ in the order of members only, at any depth, have the same flat form and store keys. -/
theorem expansion_of_reordered {one other : KeyExpr} (reordered : one.Reordered other) :
    one.expand = other.expand ∧
      ∀ namer : Namer, namer.Standard → ∀ space options,
        namer.storeKey space one options = namer.storeKey space other options := by
  have same : one.expand = other.expand := by
    unfold KeyExpr.expand
    rw [KeyExpr.chars_reordered one other reordered]
  exact ⟨same, fun namer standard space options => standard.storeKey_congr space options same⟩

/-- Members are in another order twice, around an array and within it. -/
theorem expansion_of_reordered_query :
    (KeyExpr.list [.text "posts", .structured (.obj [("page", .num (.int 2)),
        ("by", .arr [.obj [("order", .str "asc"), ("field", .str "date")]])])]).expand =
      (KeyExpr.list [.text "posts", .structured (.obj [("by", .arr [.obj [("field", .str "date"),
        ("order", .str "asc")]]), ("page", .num (.int 2))])]).expand := by
  refine (expansion_of_reordered ?_).1
  have fields : Json.Reordered (.obj [("order", .str "asc"), ("field", .str "date")])
      (.obj [("field", .str "date"), ("order", .str "asc")]) := by
    simp only [Json.Reordered, Json.ReorderedMembers]
    exact ⟨_, _, rfl, ⟨_, _, rfl, rfl, _, _, rfl, rfl, rfl⟩, .swap _ _ _⟩
  simp only [KeyExpr.Reordered, KeyExpr.ReorderedParts]
  refine ⟨_, rfl, _, _, rfl, rfl, _, _, rfl, ⟨_, rfl, ?_⟩, rfl⟩
  simp only [Json.Reordered, Json.ReorderedMembers, Json.ReorderedItems]
  exact ⟨_, _, rfl, ⟨_, _, rfl, rfl, _, _, rfl, ⟨_, rfl, _, _, rfl, fields, rfl⟩, rfl⟩, .swap _ _ _⟩

/-! ### The order of the keys -/

/-- The members with their keys in ascending order of characters, which for UTF-8 is that of their bytes. -/
def inKeyOrder (members : List (String × Json)) : List (String × Json) :=
  members.mergeSort fun one other => !other.1.toList.lex one.1.toList

/--
A key that goes on from another goes on with a character above `=`, or with `=` itself, where the values decide.
-/
def KeysDecide (members : List (String × Json)) : Prop :=
  ∀ one ∈ members, ∀ other ∈ members, ∀ next rest, other.1.toList = one.1.toList ++ next :: rest →
    '=' < next ∨ '=' = next ∧ Ordered (expandValue one.2) (rest ++ '=' :: expandValue other.2)

theorem ordered_append (key rest : List Char) : Ordered key (key ++ rest) := by
  induction key with
  | nil => exact ordered_nil _
  | cons first others ih => exact ordered_cons_iff.2 (.inr ⟨rfl, ih⟩)

/-- Of two keys in order the pairs are so too, unless the second key goes on from the first one below `=`. -/
theorem ordered_pair_iff {key other : List Char} (keys : Ordered key other) (different : key ≠ other)
    (value more : List Char) : Ordered (key ++ '=' :: value) (other ++ '=' :: more) ↔
      ∀ next rest, other = key ++ next :: rest → '=' < next ∨ '=' = next ∧ Ordered value (rest ++ '=' :: more) := by
  induction key generalizing other with
  | nil =>
    cases other with
    | nil => contradiction
    | cons first others =>
      simp only [List.nil_append, List.cons_append, ordered_cons_iff]
      constructor
      · intro decided next rest same
        cases same
        exact decided
      · intro decides
        exact decides first others rfl
  | cons first others ih =>
    cases other with
    | nil => exact absurd keys (not_ordered_nil first others)
    | cons head tail =>
      simp only [List.cons_append, ordered_cons_iff]
      obtain smaller | ⟨rfl, later⟩ := ordered_cons_iff.1 keys
      · constructor
        · intro _ next rest same
          cases same
          exact absurd smaller (Char.lt_irrefl first)
        · intro _
          exact .inl smaller
      · have rests : others ≠ tail := fun same => different (congrArg (first :: ·) same)
        rw [or_iff_right (Char.lt_irrefl first), and_iff_right rfl, ih later rests]
        simp only [List.cons.injEq, true_and]

theorem inKeyOrder_perm (members : List (String × Json)) : (inKeyOrder members).Perm members :=
  List.mergeSort_perm members _

theorem inKeyOrder_sorted {members : List (String × Json)} (distinct : (members.map Prod.fst).Nodup) :
    (inKeyOrder members).Pairwise fun one other =>
      Ordered one.1.toList other.1.toList ∧ one.1.toList ≠ other.1.toList := by
  have inOrder : (inKeyOrder members).Pairwise fun one other => Ordered one.1.toList other.1.toList :=
    mergeSort_sorted (fun member => member.1.toList) members
  have keys : ((inKeyOrder members).map Prod.fst).Nodup := by
    have same := (inKeyOrder_perm members).map Prod.fst
    exact same.nodup_iff.2 distinct
  have apart : (inKeyOrder members).Pairwise fun one other => one.1 ≠ other.1 := List.pairwise_map.1 keys
  refine (inOrder.and apart).imp ?_
  intro one other ⟨small, different⟩
  exact ⟨small, fun same => different (String.toList_inj.1 same)⟩

/-- With the members in the order of their keys, the pairs are in order too as long as the keys decide. -/
theorem pairs_sorted_iff {members : List (String × Json)} (distinct : (members.map Prod.fst).Nodup) :
    ((inKeyOrder members).map pairText).Pairwise Ordered ↔ KeysDecide members := by
  have sorted := inKeyOrder_sorted distinct
  have known : ∀ member, member ∈ inKeyOrder members ↔ member ∈ members := fun member =>
    (inKeyOrder_perm members).mem_iff
  rw [List.pairwise_map]
  constructor
  · intro pairs one member other memberToo next rest goesOn
    have keys : Ordered one.1.toList other.1.toList := by
      rw [goesOn]
      exact ordered_append one.1.toList (next :: rest)
    have different : one.1.toList ≠ other.1.toList := by
      intro same
      have lengths := congrArg List.length (same.trans goesOn)
      simp at lengths
    have pair : Ordered (pairText one) (pairText other) := by
      refine List.Pairwise.forall_of_forall_of_flip (R := fun one other => one.1.toList ≠ other.1.toList →
        Ordered one.1.toList other.1.toList → Ordered (pairText one) (pairText other))
        ?_ ?_ ?_ ((known one).2 member) ((known other).2 memberToo) different keys
      · exact fun _ _ apart => absurd rfl apart
      · apply pairs.imp
        intro one other ordered _ _
        exact ordered
      · apply sorted.imp
        intro one other ⟨first, apart⟩ _ second
        exact absurd (first.antisymm second) apart
    exact (ordered_pair_iff keys different _ _).1 pair next rest goesOn
  · intro decides
    refine sorted.imp_of_mem ?_
    intro one other member memberToo ⟨keys, different⟩
    apply (ordered_pair_iff keys different _ _).2
    exact decides one ((known one).1 member) other ((known other).1 memberToo)

/--
An object is flattened to its pairs in the order of the pairs. This is the order of the keys exactly as long as
the keys decide it.
-/
theorem object_expansion (members : List (String × Json)) (distinct : (members.map Prod.fst).Nodup) :
    ∃ pairs, expandValue (.obj members) = join '&' pairs ∧ pairs.Perm (members.map pairText) ∧
      pairs.Pairwise Ordered ∧ (pairs = (inKeyOrder members).map pairText ↔ KeysDecide members) := by
  have joined : expandValue (.obj members) = join '&' (sortTexts (members.map pairText)) := by
    rw [expandValue, expandMembers_eq_map]
  have sorted := sortTexts_sorted (members.map pairText)
  have same := sortTexts_perm (members.map pairText)
  refine ⟨sortTexts (members.map pairText), joined, same, sorted, ?_⟩
  rw [← pairs_sorted_iff distinct]
  constructor
  · intro equal
    rwa [← equal]
  · intro sortedToo
    have reordered := (inKeyOrder_perm members).map pairText
    exact eq_of_sorted_perm sorted sortedToo (same.trans reordered.symm)

/-- The longer key goes on with a digit, which is below `=`, so that its pair comes first. -/
theorem object_expansion_pages :
    expandValue (.obj [("page", .num (.int 1)), ("page2", .num (.int 2))]) = "page2=2&page=1".toList ∧
      ¬ KeysDecide [("page", .num (.int 1)), ("page2", .num (.int 2))] := by
  obtain ⟨pairs, joined, same, sorted, -⟩ :=
    object_expansion [("page", .num (.int 1)), ("page2", .num (.int 2))] (by decide)
  have found : pairs = ["page2=2".toList, "page=1".toList] := by
    refine eq_of_sorted_perm sorted (by decide) (same.trans ?_)
    exact .swap _ _ []
  refine ⟨?_, ?_⟩
  · rw [joined, found]
    decide
  · intro decides
    have goesOn := decides _ List.mem_cons_self _ (List.mem_cons_of_mem _ List.mem_cons_self) '2' [] rfl
    obtain above | ⟨same, -⟩ := goesOn
    · exact absurd above (by decide)
    · exact absurd same (by decide)

end Cache

end Stencil
