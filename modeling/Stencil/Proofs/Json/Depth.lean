import Stencil.Proofs.Json.RoundTrip

/-!
# Values that are nested too deep

Every value is written, however deep its containers are nested, but only `maxDepth` nested containers are
read. The text of a deeper value is refused where the first container too many opens: what stands before it
is read as it was written (`readValue_deep`).
-/

namespace Stencil.Json

section Loops

variable {element : Reader Json} {text : List Char} {error : ReadError}

theorem readStep_none {fuel : Nat} {c : Char} (container : c = '[' ∨ c = '{') :
    readStep fuel none (c :: text) = .error .tooDeep := by
  obtain rfl | rfl := container <;> rfl

theorem readItems_error (failed : element text = .error error) (done : List Json) (fuel : Nat) :
    readItems element done (fuel + 1) text = .error error := by
  rw [readItems, failed]
  rfl

theorem readMembers_error (failed : element text = .error error) (key : String) (done : Entries Json)
    (fuel : Nat) : readMembers element done (fuel + 1) (quoted key ++ ':' :: text) = .error error := by
  rw [readMembers, readKey_quoted]
  show (element text >>= _) = _
  rw [failed]
  rfl

end Loops

section Reading

variable {layout : Layout} (blank : layout.Blank) (fuel : Nat)

include blank

mutual

theorem readValue_deep : (node : Json) → (depth level : Nat) → (rest : List Char) →
    node.WellFormed → node.FloatFree → depth < node.depth → (node.write layout level rest).length ≤ fuel →
    readValue fuel depth (node.write layout level rest) = .error .tooDeep
  | .null, _, _, _, _, _, deep, _ | .bool _, _, _, _, _, _, deep, _ | .num _, _, _, _, _, _, deep, _
  | .str _, _, _, _, _, _, deep, _ => absurd deep (Nat.not_lt_zero _)
  | .arr [], 0, _, _, _, _, _, _ | .arr (_ :: _), 0, _, _, _, _, _, _ => readStep_none (.inl rfl)
  | .obj [], 0, _, _, _, _, _, _ | .obj (_ :: _), 0, _, _, _, _, _, _ => readStep_none (.inr rfl)
  | .arr [], depth + 1, _, _, _, _, deep, _ | .obj [], depth + 1, _, _, _, _, deep, _ =>
    absurd deep (by simp [Json.depth, depthOfItems, depthOfMembers])
  | .arr (item :: items), depth + 1, level, rest, wellFormed, floatFree, deep, short => by
    have within := readItems_deep (item :: items) depth (level + 1) fuel []
      (layout.lineBreak level ++ ']' :: rest) wellFormed floatFree
      (by simp only [Json.depth] at deep; omega)
      (by simp only [write, List.length_cons] at short; omega) (Nat.le_refl fuel)
    obtain ⟨c, tail, text, leads⟩ := writeItemsIn_eq_append layout (level + 1) item items
      (layout.lineBreak level ++ ']' :: rest)
    rw [text, readItems_blanks (readValue_blanks fuel depth (blank.lineBreak _))] at within
    rw [readValue_eq, write, text, nestedReader,
      readStep_openArray (blank.lineBreak _) (not_blank_of_lead leads), within]
    rfl
  | .obj (member :: members), depth + 1, level, rest, wellFormed, floatFree, deep, short => by
    have within := readMembers_deep (member :: members) depth (level + 1) fuel []
      (layout.lineBreak level ++ '}' :: rest) wellFormed.2 floatFree
      (by simp only [Json.depth] at deep; omega)
      (by simp only [write, List.length_cons] at short; omega) (Nat.le_refl fuel)
    obtain ⟨tail, text⟩ := writeMembersIn_eq_append layout (level + 1) member members
      (layout.lineBreak level ++ '}' :: rest)
    rw [text, readMembers_blanks (blank.lineBreak _)] at within
    rw [readValue_eq, write, text, nestedReader, readStep_openObject (blank.lineBreak _), within]
    rfl

/-- An element that can be read is passed over, up to the first one that cannot. -/
theorem readItems_deep : (items : List Json) → (depth level bound : Nat) → (done : List Json) →
    (rest : List Char) → WellFormedItems items → FloatFreeItems items → depth < depthOfItems items →
    (writeItemsIn layout level items rest).length ≤ bound → bound ≤ fuel →
    readItems (readValue fuel depth) done bound (writeItemsIn layout level items rest) = .error .tooDeep
  | [], _, _, _, _, _, _, _, deep, _, _ => absurd deep (Nat.not_lt_zero _)
  | [item], depth, level, bound, done, rest, wellFormed, floatFree, deep, short, enough => by
    rw [writeItemsIn, List.length_append] at short
    rw [writeItemsIn, readItems_blanks (readValue_blanks fuel depth (blank.lineBreak level))]
    have first := length_lt_write layout item level rest
    obtain ⟨bound, rfl⟩ : ∃ less, bound = less + 1 := ⟨bound - 1, by omega⟩
    refine readItems_error (readValue_deep item depth level rest wellFormed.1 floatFree.1 ?_ (by omega)) done bound
    simp only [depthOfItems] at deep
    omega
  | item :: next :: items, depth, level, bound, done, rest, wellFormed, floatFree, deep, short, enough => by
    rw [writeItemsIn_cons_cons, List.length_append] at short
    rw [writeItemsIn_cons_cons, readItems_blanks (readValue_blanks fuel depth (blank.lineBreak level))]
    have first := length_lt_write layout item level (',' :: writeItemsIn layout level (next :: items) rest)
    obtain ⟨bound, rfl⟩ : ∃ less, bound = less + 1 := ⟨bound - 1, by omega⟩
    by_cases within : item.depth ≤ depth
    · have read := readValue_write blank fuel item depth level
        (',' :: writeItemsIn layout level (next :: items) rest) wellFormed.1 floatFree.1 within (by omega)
        (ends_cons rfl)
      have deeper : depth < depthOfItems (next :: items) := by
        simp only [depthOfItems] at deep ⊢
        omega
      rw [readItems_more read]
      exact readItems_deep (next :: items) depth level bound (item :: done) rest wellFormed.2 floatFree.2 deeper
        (by simp only [List.length_cons] at first; omega) (by omega)
    · exact readItems_error (readValue_deep item depth level _ wellFormed.1 floatFree.1 (by omega) (by omega))
        done bound

theorem readMembers_deep : (members : List (String × Json)) → (depth level bound : Nat) →
    (done : Entries Json) → (rest : List Char) → WellFormedMembers members → FloatFreeMembers members →
    depth < depthOfMembers members → (writeMembersIn layout level members rest).length ≤ bound →
    bound ≤ fuel →
    readMembers (readValue fuel depth) done bound (writeMembersIn layout level members rest) = .error .tooDeep
  | [], _, _, _, _, _, _, _, deep, _, _ => absurd deep (Nat.not_lt_zero _)
  | [(key, value)], depth, level, bound, done, rest, wellFormed, floatFree, deep, short, enough => by
    rw [writeMembersIn, List.length_append, List.length_append, List.length_cons, List.length_append] at short
    rw [writeMembersIn, readMembers_blanks (blank.lineBreak level)]
    obtain ⟨bound, rfl⟩ : ∃ less, bound = less + 1 := ⟨bound - 1, by omega⟩
    refine readMembers_error ?_ key done bound
    rw [readValue_blanks fuel depth blank.gap]
    refine readValue_deep value depth level rest wellFormed.1 floatFree.1 ?_ (by omega)
    simp only [depthOfMembers] at deep
    omega
  | (key, value) :: next :: members, depth, level, bound, done, rest, wellFormed, floatFree, deep, short,
      enough => by
    rw [writeMembersIn_cons_cons, List.length_append, List.length_append, List.length_cons,
      List.length_append] at short
    rw [writeMembersIn_cons_cons, readMembers_blanks (blank.lineBreak level)]
    obtain ⟨bound, rfl⟩ : ∃ less, bound = less + 1 := ⟨bound - 1, by omega⟩
    have first := length_lt_write layout value level (',' :: writeMembersIn layout level (next :: members) rest)
    by_cases within : value.depth ≤ depth
    · have read := readValue_write blank fuel value depth level
        (',' :: writeMembersIn layout level (next :: members) rest) wellFormed.1 floatFree.1 within (by omega)
        (ends_cons rfl)
      rw [← readValue_blanks fuel depth blank.gap] at read
      have deeper : depth < depthOfMembers (next :: members) := by
        simp only [depthOfMembers] at deep ⊢
        omega
      rw [readMembers_more read]
      exact readMembers_deep (next :: members) depth level bound (done.insert key value) rest wellFormed.2
        floatFree.2 deeper (by simp only [List.length_cons] at first; omega) (by omega)
    · refine readMembers_error ?_ key done bound
      rw [readValue_blanks fuel depth blank.gap]
      exact readValue_deep value depth level _ wellFormed.1 floatFree.1 (by omega) (by omega)

end

end Reading

/-- The text of a value that is nested too deep is refused. -/
theorem parse_compact_deep {node : Json} (wellFormed : node.WellFormed) (floatFree : node.FloatFree)
    (deep : maxDepth < node.depth) : parse node.compact = .error .tooDeep := by
  have read := readValue_deep Layout.blank_compact ((node.write .compact 0 []).length + 1) node maxDepth 0 []
    wellFormed floatFree deep (Nat.le_succ _)
  unfold compact parse parseChars
  rw [String.toList_ofList, ← write_compact node 0, read]
  rfl

end Stencil.Json
