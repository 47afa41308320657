import Stencil.Json.Payload
import Stencil.Proofs.Json.Layout
import Stencil.Proofs.Json.Tokens

/-!
# Values read back

A value whose numbers are integers and whose containers are not nested too deep is read back from its text
in every layout (`readValue_write`), so from its compact text (`parse_compact`) and from the one over several
lines (`parse_pretty`).
-/

namespace Stencil.Json

mutual

/-- All numbers in the value are integers. -/
def FloatFree : Json → Prop
  | .num (.float _) => False
  | .arr items => FloatFreeItems items
  | .obj members => FloatFreeMembers members
  | _ => True

def FloatFreeItems : List Json → Prop
  | [] => True
  | item :: rest => item.FloatFree ∧ FloatFreeItems rest

def FloatFreeMembers : List (String × Json) → Prop
  | [] => True
  | (_, value) :: rest => value.FloatFree ∧ FloatFreeMembers rest

end

/--
The value's text can be read back: it has no floats and is not nested too deep. Every value that a caller
can hold is well-formed.
-/
structure Portable (node : Json) : Prop where
  wellFormed : node.WellFormed
  floatFree : node.FloatFree
  shallow : node.depth ≤ maxDepth

instance : DecidablePred Number.InRange
  | .int value =>
    inferInstanceAs (Decidable (-0x8000000000000000 ≤ value ∧ value < 0x10000000000000000))
  | .float _ => isTrue trivial

mutual

def decidePlain : (node : Json) → Decidable (node.WellFormed ∧ node.FloatFree)
  | .null | .bool _ | .str _ => isTrue ⟨trivial, trivial⟩
  | .num (.int value) =>
    decidable_of_iff (Number.InRange (.int value)) ⟨fun fits => ⟨fits, trivial⟩, fun plain => plain.1⟩
  | .num (.float _) => isFalse fun plain => plain.2
  | .arr items => decidePlainItems items
  | .obj members =>
    have := decidePlainMembers members
    decidable_of_iff
      (Entries.Distinct members ∧ WellFormedMembers members ∧ FloatFreeMembers members) and_assoc.symm

def decidePlainItems : (items : List Json) → Decidable (WellFormedItems items ∧ FloatFreeItems items)
  | [] => isTrue ⟨trivial, trivial⟩
  | item :: rest =>
    have := decidePlain item
    have := decidePlainItems rest
    decidable_of_iff
      ((item.WellFormed ∧ item.FloatFree) ∧ WellFormedItems rest ∧ FloatFreeItems rest) and_and_and_comm

def decidePlainMembers :
    (members : List (String × Json)) → Decidable (WellFormedMembers members ∧ FloatFreeMembers members)
  | [] => isTrue ⟨trivial, trivial⟩
  | (_, value) :: rest =>
    have := decidePlain value
    have := decidePlainMembers rest
    decidable_of_iff
      ((value.WellFormed ∧ value.FloatFree) ∧ WellFormedMembers rest ∧ FloatFreeMembers rest)
      and_and_and_comm

end

instance : DecidablePred Portable := fun node =>
  have := decidePlain node
  decidable_of_iff ((node.WellFormed ∧ node.FloatFree) ∧ node.depth ≤ maxDepth)
    ⟨fun ⟨⟨wellFormed, floatFree⟩, shallow⟩ => ⟨wellFormed, floatFree, shallow⟩,
      fun ⟨wellFormed, floatFree, shallow⟩ => ⟨⟨wellFormed, floatFree⟩, shallow⟩⟩

/-! ### First characters -/

/-- What a value's text starts with. -/
inductive Lead where
  | null
  | yes
  | no
  | number
  | text
  | array
  | object
  deriving DecidableEq

def Lead.of? (c : Char) : Option Lead :=
  if c = 'n' then some .null
  else if c = 't' then some .yes
  else if c = 'f' then some .no
  else if c = '"' then some .text
  else if c = '[' then some .array
  else if c = '{' then some .object
  else if isNumberChar c then some .number
  else none

def lead : Json → Lead
  | .null => .null
  | .bool true => .yes
  | .bool false => .no
  | .num _ => .number
  | .str _ => .text
  | .arr _ => .array
  | .obj _ => .object

theorem number_of_isNumberChar {c : Char} (number : isNumberChar c) : Lead.of? c = some .number := by
  unfold Lead.of?
  repeat' split
  all_goals first | rfl | (subst c; contradiction)

/-- The first character of a value's text tells what kind of value it is. -/
theorem write_eq_cons (layout : Layout) (level : Nat) (node : Json) (rest : List Char) :
    ∃ c tail, node.write layout level rest = c :: tail ∧ Lead.of? c = some node.lead := by
  cases node with
  | null => exact ⟨_, _, rfl, rfl⟩
  | bool value => cases value <;> exact ⟨_, _, rfl, rfl⟩
  | num number =>
    obtain ⟨c, tail, written, first⟩ := exists_chars_eq_cons number
    refine ⟨c, tail ++ rest, ?_, number_of_isNumberChar first⟩
    rw [write, written]
    rfl
  | str text => exact ⟨_, _, rfl, rfl⟩
  | arr items => cases items <;> exact ⟨_, _, rfl, rfl⟩
  | obj members => cases members <;> exact ⟨_, _, rfl, rfl⟩

theorem writeCompact_eq_cons (node : Json) (rest : List Char) :
    ∃ c tail, node.writeCompact rest = c :: tail ∧ Lead.of? c = some node.lead := by
  rw [← write_compact node 0]
  exact write_eq_cons .compact 0 node rest

/-! ### Reading -/

theorem skipBlanks_of_not_blank {c : Char} (rest : List Char) (other : isBlank c = false) :
    skipBlanks (c :: rest) = c :: rest := by
  unfold skipBlanks
  rw [List.dropWhile_cons_of_neg (by simp [other])]

theorem not_blank_of_lead {c : Char} {lead : Lead} (leads : Lead.of? c = some lead) :
    isBlank c = false ∧ c ≠ ']' ∧ c ≠ '}' := by
  refine ⟨?_, ?_, ?_⟩
  · cases blank : isBlank c with
    | false => rfl
    | true =>
      simp only [isBlank, Bool.or_eq_true, decide_eq_true_eq] at blank
      rcases blank with ((rfl | rfl) | rfl) | rfl <;> contradiction
  · rintro rfl
    contradiction
  · rintro rfl
    contradiction

def nestedReader (fuel : Nat) : Nat → Option (Reader Json)
  | 0 => none
  | depth + 1 => some (readValue fuel depth)

theorem readValue_eq (fuel depth : Nat) : readValue fuel depth = readStep fuel (nestedReader fuel depth) := by
  cases depth <;> rfl

theorem readStep_integerChars (fuel : Nat) (nested : Option (Reader Json)) {value : Int}
    {rest : List Char} (inRange : (Number.int value).InRange) (ends : Ends rest) :
    readStep fuel nested (Number.integerChars value ++ rest) = .ok (.num (.int value), rest) := by
  have read := readNumber_integerChars ends inRange
  cases written : Number.integerChars value with
  | nil => exact absurd written (integerChars_ne_nil value)
  | cons c tail =>
    have first : c ∈ Number.integerChars value := by
      rw [written]
      exact List.mem_cons_self
    have leading := sign_or_digit_of_mem first
    have leads := number_of_isNumberChar (isNumberChar_integerChars value c first)
    rw [written] at read
    unfold readStep
    rw [List.cons_append, skipBlanks_of_not_blank _ (not_blank_of_lead leads).1]
    have other : ∀ letter, ¬(letter = '-' ∨ letter.isDigit) → c ≠ letter := by
      rintro letter differs rfl
      exact differs leading
    split <;> rename_i same
    iterate 6 exact absurd (List.cons.inj same).1 (other _ (by decide))
    · obtain ⟨rfl, rfl⟩ := List.cons.inj same
      rw [if_pos leading, ← List.cons_append, read]
      rfl
    · contradiction

theorem ends_blanks {blanks : List Char} (blank : ∀ c ∈ blanks, isBlank c) {c : Char}
    (other : isNumberChar c = false) (rest : List Char) : Ends (blanks ++ c :: rest) := by
  cases blanks with
  | nil => exact ends_cons other
  | cons space blanks =>
    refine ends_cons ?_
    have isSpace := blank space List.mem_cons_self
    simp only [isBlank, Bool.or_eq_true, decide_eq_true_eq] at isSpace
    rcases isSpace with ((rfl | rfl) | rfl) | rfl <;> rfl

/-! #### Loops -/

section Loops

variable {element : Reader Json} {blanks text rest : List Char}

theorem readItems_more {item : Json} (read : element text = .ok (item, ',' :: rest)) (done : List Json)
    (fuel : Nat) :
    readItems element done (fuel + 1) text = readItems element (item :: done) fuel rest := by
  rw [readItems, read]
  rfl

theorem readItems_blanks (ignores : ∀ text, element (blanks ++ text) = element text) (done : List Json)
    (fuel : Nat) : readItems element done fuel (blanks ++ text) = readItems element done fuel text := by
  cases fuel with
  | zero => rfl
  | succ fuel => rw [readItems, readItems, ignores]

theorem readKey_quoted (key : String) (rest : List Char) :
    readKey (quoted key ++ ':' :: rest) = .ok (key, rest) := by
  obtain ⟨body, written, read⟩ := readQuoted_quoted key (':' :: rest)
  unfold readKey
  rw [written, skipBlanks_of_not_blank body rfl]
  show (readQuoted none [] body >>= _) = _
  rw [read]
  rfl

theorem readMembers_more {value : Json} (read : element text = .ok (value, ',' :: rest)) (key : String)
    (done : Entries Json) (fuel : Nat) :
    readMembers element done (fuel + 1) (quoted key ++ ':' :: text) =
      readMembers element (done.insert key value) fuel rest := by
  rw [readMembers, readKey_quoted]
  show (element text >>= _) = _
  rw [read]
  rfl

variable (blank : ∀ c ∈ blanks, isBlank c)

include blank

theorem skipBlanks_closer {c : Char} (other : isBlank c = false) : skipBlanks (blanks ++ c :: rest) = c :: rest :=
  (skipBlanks_append blank _).trans (skipBlanks_of_not_blank rest other)

theorem readItems_last {item : Json} (read : element text = .ok (item, blanks ++ ']' :: rest)) (done : List Json)
    (fuel : Nat) : readItems element done (fuel + 1) text = .ok ((item :: done).reverse, rest) := by
  have closed : skipBlanks (blanks ++ ']' :: rest) = ']' :: rest := skipBlanks_closer blank rfl
  rw [readItems]
  simp only [bind, Except.bind, read, closed]

theorem readStep_openArray {fuel : Nat} {c : Char} (first : isBlank c = false ∧ c ≠ ']' ∧ c ≠ '}') :
    readStep fuel (some element) ('[' :: (blanks ++ c :: text)) =
      readItems element [] fuel (c :: text) >>= fun read => .ok (.arr read.1, read.2) := by
  unfold readStep
  rw [skipBlanks_of_not_blank _ rfl]
  simp only [skipBlanks_closer blank first.1]
  split
  · contradiction
  · rename_i same
    exact absurd (List.cons.inj same).1 first.2.1
  · rename_i same _
    obtain rfl := Option.some.inj same
    rfl

theorem readStep_array {fuel : Nat} {c : Char} {items : List Json} (first : isBlank c = false ∧ c ≠ ']' ∧ c ≠ '}')
    (read : readItems element [] fuel (c :: text) = .ok (items, rest)) :
    readStep fuel (some element) ('[' :: (blanks ++ c :: text)) = .ok (.arr items, rest) := by
  rw [readStep_openArray blank first, read]
  rfl

theorem readStep_openObject {fuel : Nat} :
    readStep fuel (some element) ('{' :: (blanks ++ '"' :: text)) =
      readMembers element [] fuel ('"' :: text) >>= fun read => .ok (.obj read.1, read.2) := by
  unfold readStep
  rw [skipBlanks_of_not_blank _ rfl]
  have first : skipBlanks (blanks ++ '"' :: text) = '"' :: text := skipBlanks_closer blank rfl
  simp only [first]
  rfl

theorem readStep_object {fuel : Nat} {members : Entries Json}
    (read : readMembers element [] fuel ('"' :: text) = .ok (members, rest)) :
    readStep fuel (some element) ('{' :: (blanks ++ '"' :: text)) = .ok (.obj members, rest) := by
  rw [readStep_openObject blank, read]
  rfl

theorem readMembers_last {value : Json} (read : element text = .ok (value, blanks ++ '}' :: rest)) (key : String)
    (done : Entries Json) (fuel : Nat) :
    readMembers element done (fuel + 1) (quoted key ++ ':' :: text) = .ok (done.insert key value, rest) := by
  have closed : skipBlanks (blanks ++ '}' :: rest) = '}' :: rest := skipBlanks_closer blank rfl
  rw [readMembers, readKey_quoted]
  simp only [bind, Except.bind, read, closed]

theorem readMembers_blanks (done : Entries Json) (fuel : Nat) :
    readMembers element done fuel (blanks ++ text) = readMembers element done fuel text := by
  cases fuel with
  | zero => rfl
  | succ fuel => simp only [readMembers, readKey, skipBlanks_append blank]

end Loops

/-! #### Lengths -/

section Lengths

variable (layout : Layout)

mutual

theorem length_lt_write : (node : Json) → (level : Nat) → (rest : List Char) →
    rest.length < (node.write layout level rest).length
  | .null, _, rest => by simp [write, writeCompact]; omega
  | .bool true, _, rest => by simp [write, writeCompact]; omega
  | .bool false, _, rest => by simp [write, writeCompact]; omega
  | .num number, _, rest => by
    have nonempty := List.length_pos_iff.2 (chars_ne_nil number)
    rw [write, List.length_append]
    omega
  | .str text, _, rest => by
    simp [write, quoted]
    omega
  | .arr [], _, rest => by simp only [write, List.length_cons]; omega
  | .arr (item :: items), level, rest => by
    have within := length_le_writeItems (item :: items) (level + 1) (layout.lineBreak level ++ ']' :: rest)
    simp only [write, List.length_append, List.length_cons] at within ⊢
    omega
  | .obj [], _, rest => by simp only [write, List.length_cons]; omega
  | .obj (member :: members), level, rest => by
    have within := length_le_writeMembers (member :: members) (level + 1) (layout.lineBreak level ++ '}' :: rest)
    simp only [write, List.length_append, List.length_cons] at within ⊢
    omega

theorem length_le_writeItems : (items : List Json) → (level : Nat) → (rest : List Char) →
    rest.length ≤ (writeItemsIn layout level items rest).length
  | [], _, rest => by simp [writeItemsIn]
  | [item], level, rest => by
    have first := length_lt_write item level rest
    simp only [writeItemsIn, List.length_append]
    omega
  | item :: next :: items, level, rest => by
    have first := length_lt_write item level (',' :: writeItemsIn layout level (next :: items) rest)
    have others := length_le_writeItems (next :: items) level rest
    simp only [writeItemsIn, List.length_append, List.length_cons] at first ⊢
    omega

theorem length_le_writeMembers : (members : List (String × Json)) → (level : Nat) → (rest : List Char) →
    rest.length ≤ (writeMembersIn layout level members rest).length
  | [], _, rest => by simp [writeMembersIn]
  | [(key, value)], level, rest => by
    have first := length_lt_write value level rest
    simp only [writeMembersIn, List.length_append, List.length_cons]
    omega
  | (key, value) :: next :: members, level, rest => by
    have first := length_lt_write value level (',' :: writeMembersIn layout level (next :: members) rest)
    have others := length_le_writeMembers (next :: members) level rest
    simp only [writeMembersIn, List.length_append, List.length_cons] at first ⊢
    omega

end

end Lengths

/-! #### Containers -/

theorem writeItems_eq_cons (item : Json) (items : List Json) (rest : List Char) :
    ∃ c tail, writeItems (item :: items) rest = c :: tail ∧ Lead.of? c = some item.lead := by
  cases items with
  | nil => exact writeCompact_eq_cons item rest
  | cons next items => exact writeCompact_eq_cons item _

theorem writeMembers_eq_cons (member : String × Json) (members : List (String × Json))
    (rest : List Char) : ∃ tail, writeMembers (member :: members) rest = '"' :: tail := by
  obtain ⟨key, value⟩ := member
  cases members <;> exact ⟨_, rfl⟩

theorem writeItemsIn_eq_append (layout : Layout) (level : Nat) (item : Json) (items : List Json) (rest : List Char) :
    ∃ c tail, writeItemsIn layout level (item :: items) rest = layout.lineBreak level ++ c :: tail ∧
      Lead.of? c = some item.lead := by
  cases items with
  | nil =>
    obtain ⟨c, tail, written, leads⟩ := write_eq_cons layout level item rest
    exact ⟨c, tail, by rw [writeItemsIn, written], leads⟩
  | cons next items =>
    obtain ⟨c, tail, written, leads⟩ :=
      write_eq_cons layout level item (',' :: writeItemsIn layout level (next :: items) rest)
    refine ⟨c, tail, ?_, leads⟩
    rw [← written]
    rfl

theorem writeMembersIn_eq_append (layout : Layout) (level : Nat) (member : String × Json)
    (members : List (String × Json)) (rest : List Char) :
    ∃ tail, writeMembersIn layout level (member :: members) rest = layout.lineBreak level ++ '"' :: tail := by
  obtain ⟨key, value⟩ := member
  cases members <;> exact ⟨_, rfl⟩

theorem writeItemsIn_cons_cons (layout : Layout) (level : Nat) (item next : Json) (items : List Json)
    (rest : List Char) :
    writeItemsIn layout level (item :: next :: items) rest = layout.lineBreak level ++
      item.write layout level (',' :: writeItemsIn layout level (next :: items) rest) :=
  rfl

theorem writeMembersIn_cons_cons (layout : Layout) (level : Nat) (key : String) (value : Json)
    (next : String × Json) (members : List (String × Json)) (rest : List Char) :
    writeMembersIn layout level ((key, value) :: next :: members) rest = layout.lineBreak level ++
      (quoted key ++ ':' :: (layout.gap ++
        value.write layout level (',' :: writeMembersIn layout level (next :: members) rest))) :=
  rfl

section Reading

variable {layout : Layout} (blank : layout.Blank) (fuel : Nat)

include blank

mutual

theorem readValue_write : (node : Json) → (depth level : Nat) → (rest : List Char) →
    node.WellFormed → node.FloatFree → node.depth ≤ depth → (node.write layout level rest).length ≤ fuel →
    Ends rest → readValue fuel depth (node.write layout level rest) = .ok (node, rest)
  | .null, depth, _, rest, _, _, _, _, _ => by
    rw [readValue_eq]
    rfl
  | .bool value, depth, _, rest, _, _, _, _, _ => by
    rw [readValue_eq]
    cases value <;> rfl
  | .num (.int value), depth, _, rest, wellFormed, _, _, _, ends => by
    rw [readValue_eq]
    exact readStep_integerChars fuel _ wellFormed ends
  | .num (.float x), _, _, _, _, floatFree, _, _, _ => floatFree.elim
  | .str text, depth, _, rest, _, _, _, _, _ => by
    obtain ⟨body, written, read⟩ := readQuoted_quoted text rest
    rw [readValue_eq, write, written]
    show (do
      let (value, rest) ← readQuoted none [] body
      return (Json.str value, rest) : Except ReadError _) = _
    rw [read]
    rfl
  | .arr [], depth, _, rest, _, _, shallow, _, _ => by
    obtain ⟨depth, rfl⟩ : ∃ less, depth = less + 1 :=
      ⟨depth - 1, by simp only [Json.depth] at shallow; omega⟩
    rfl
  | .arr (item :: items), depth, level, rest, wellFormed, floatFree, shallow, short, _ => by
    obtain ⟨depth, rfl⟩ : ∃ less, depth = less + 1 :=
      ⟨depth - 1, by simp only [Json.depth] at shallow; omega⟩
    have within := readItems_writeItems (item :: items) depth (level + 1) fuel []
      (blank.lineBreak level) rest (by simp) wellFormed floatFree
      (by simp only [Json.depth] at shallow; omega)
      (by simp only [write, List.length_cons] at short; omega) (Nat.le_refl fuel)
    obtain ⟨c, tail, text, leads⟩ := writeItemsIn_eq_append layout (level + 1) item items
      (layout.lineBreak level ++ ']' :: rest)
    rw [text, readItems_blanks (readValue_blanks fuel depth (blank.lineBreak _))] at within
    rw [readValue_eq, write, text]
    exact readStep_array (blank.lineBreak _) (not_blank_of_lead leads) within
  | .obj [], depth, _, rest, _, _, shallow, _, _ => by
    obtain ⟨depth, rfl⟩ : ∃ less, depth = less + 1 :=
      ⟨depth - 1, by simp only [Json.depth] at shallow; omega⟩
    rfl
  | .obj (member :: members), depth, level, rest, wellFormed, floatFree, shallow, short, _ => by
    obtain ⟨depth, rfl⟩ : ∃ less, depth = less + 1 :=
      ⟨depth - 1, by simp only [Json.depth] at shallow; omega⟩
    have within := readMembers_writeMembers (member :: members) depth (level + 1) fuel []
      (blank.lineBreak level) rest (by simp) wellFormed.2 floatFree
      (by simp only [Json.depth] at shallow; omega)
      (by simp only [write, List.length_cons] at short; omega) (Nat.le_refl fuel)
    obtain ⟨tail, text⟩ := writeMembersIn_eq_append layout (level + 1) member members
      (layout.lineBreak level ++ '}' :: rest)
    have same : Entries.insertAll [] (member :: members) = member :: members :=
      Entries.ofPairs_of_distinct wellFormed.1
    rw [text, readMembers_blanks (blank.lineBreak _), same] at within
    rw [readValue_eq, write, text]
    exact readStep_object (blank.lineBreak _) within

theorem readItems_writeItems : (items : List Json) → (depth level bound : Nat) → (done : List Json) →
    {blanks : List Char} → (∀ c ∈ blanks, isBlank c) → (rest : List Char) → items ≠ [] →
    WellFormedItems items → FloatFreeItems items → depthOfItems items ≤ depth →
    (writeItemsIn layout level items (blanks ++ ']' :: rest)).length ≤ bound → bound ≤ fuel →
    readItems (readValue fuel depth) done bound (writeItemsIn layout level items (blanks ++ ']' :: rest)) =
      .ok (done.reverse ++ items, rest)
  | [], _, _, _, _, _, _, _, nonempty, _, _, _, _, _ => absurd rfl nonempty
  | [item], depth, level, bound, done, blanks, ended, rest, _, wellFormed, floatFree, shallow, short, enough => by
    rw [writeItemsIn, List.length_append] at short
    rw [writeItemsIn, readItems_blanks (readValue_blanks fuel depth (blank.lineBreak level))]
    have first := length_lt_write layout item level (blanks ++ ']' :: rest)
    obtain ⟨bound, rfl⟩ : ∃ less, bound = less + 1 := ⟨bound - 1, by omega⟩
    have read := readValue_write item depth level (blanks ++ ']' :: rest) wellFormed.1 floatFree.1
      (by simp only [depthOfItems] at shallow; omega) (by omega) (ends_blanks ended rfl rest)
    rw [readItems_last ended read, List.reverse_cons]
  | item :: next :: items, depth, level, bound, done, blanks, ended, rest, _, wellFormed, floatFree, shallow,
      short, enough => by
    rw [writeItemsIn_cons_cons, List.length_append] at short
    rw [writeItemsIn_cons_cons, readItems_blanks (readValue_blanks fuel depth (blank.lineBreak level))]
    have first := length_lt_write layout item level
      (',' :: writeItemsIn layout level (next :: items) (blanks ++ ']' :: rest))
    obtain ⟨bound, rfl⟩ : ∃ less, bound = less + 1 := ⟨bound - 1, by omega⟩
    simp only [depthOfItems] at shallow
    have read := readValue_write item depth level
      (',' :: writeItemsIn layout level (next :: items) (blanks ++ ']' :: rest)) wellFormed.1 floatFree.1
      (by omega) (by omega) (ends_cons rfl)
    have others := readItems_writeItems (next :: items) depth level bound (item :: done) ended rest (by simp)
      wellFormed.2 floatFree.2 (by simp only [depthOfItems]; omega)
      (by simp only [List.length_cons] at first; omega) (by omega)
    rw [readItems_more read, others, List.reverse_cons, List.append_assoc]
    rfl

theorem readMembers_writeMembers : (members : List (String × Json)) → (depth level bound : Nat) →
    (done : Entries Json) → {blanks : List Char} → (∀ c ∈ blanks, isBlank c) → (rest : List Char) →
    members ≠ [] → WellFormedMembers members → FloatFreeMembers members → depthOfMembers members ≤ depth →
    (writeMembersIn layout level members (blanks ++ '}' :: rest)).length ≤ bound → bound ≤ fuel →
    readMembers (readValue fuel depth) done bound (writeMembersIn layout level members (blanks ++ '}' :: rest)) =
      .ok (done.insertAll members, rest)
  | [], _, _, _, _, _, _, _, nonempty, _, _, _, _, _ => absurd rfl nonempty
  | [(key, value)], depth, level, bound, done, blanks, ended, rest, _, wellFormed, floatFree, shallow, short,
      enough => by
    rw [writeMembersIn, List.length_append, List.length_append, List.length_cons, List.length_append] at short
    rw [writeMembersIn, readMembers_blanks (blank.lineBreak level)]
    obtain ⟨bound, rfl⟩ : ∃ less, bound = less + 1 := ⟨bound - 1, by omega⟩
    have read := readValue_write value depth level (blanks ++ '}' :: rest) wellFormed.1 floatFree.1
      (by simp only [depthOfMembers] at shallow; omega) (by omega) (ends_blanks ended rfl rest)
    rw [← readValue_blanks fuel depth blank.gap] at read
    rw [readMembers_last ended read]
    rfl
  | (key, value) :: next :: members, depth, level, bound, done, blanks, ended, rest, _, wellFormed, floatFree,
      shallow, short, enough => by
    rw [writeMembersIn_cons_cons, List.length_append, List.length_append, List.length_cons,
      List.length_append] at short
    rw [writeMembersIn_cons_cons, readMembers_blanks (blank.lineBreak level)]
    obtain ⟨bound, rfl⟩ : ∃ less, bound = less + 1 := ⟨bound - 1, by omega⟩
    have first := length_lt_write layout value level
      (',' :: writeMembersIn layout level (next :: members) (blanks ++ '}' :: rest))
    have shallowValue : value.depth ≤ depth := by
      simp only [depthOfMembers] at shallow
      omega
    have shallowRest : depthOfMembers (next :: members) ≤ depth := by
      simp only [depthOfMembers] at shallow ⊢
      omega
    have read := readValue_write value depth level
      (',' :: writeMembersIn layout level (next :: members) (blanks ++ '}' :: rest)) wellFormed.1 floatFree.1
      shallowValue (by omega) (ends_cons rfl)
    rw [← readValue_blanks fuel depth blank.gap] at read
    have others := readMembers_writeMembers (next :: members) depth level bound (done.insert key value) ended rest
      (by simp) wellFormed.2 floatFree.2 shallowRest (by simp only [List.length_cons] at first; omega) (by omega)
    rw [readMembers_more read, others]
    rfl

end

end Reading

theorem parse_write {layout : Layout} (blank : layout.Blank) {node : Json} (portable : node.Portable) :
    parse (String.ofList (node.write layout 0 [])) = .ok node := by
  have read := readValue_write blank ((node.write layout 0 []).length + 1) node maxDepth 0 []
    portable.wellFormed portable.floatFree portable.shallow (Nat.le_succ _) ends_nil
  unfold parse parseChars
  rw [String.toList_ofList, read]
  rfl

theorem parse_compact {node : Json} (portable : node.Portable) : parse node.compact = .ok node := by
  unfold compact
  rw [← write_compact node 0]
  exact parse_write Layout.blank_compact portable

theorem parse_pretty {node : Json} (portable : node.Portable) : parse node.pretty = .ok node := by
  unfold pretty
  rw [← write_pretty]
  exact parse_write Layout.blank_pretty portable

end Stencil.Json
