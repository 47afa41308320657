import Stencil.Proofs.Toml.Values

/-!
# Documents read back

A document is read back from its text if its paths are short and its values are those that are read back
(`parse?_text`). `ReadAs` tells what is read from a piece of a text however the text goes on, so the pieces of a
document may be looked at one by one.
-/

namespace Stencil.Toml

/-! ### Names and paths -/

/-- The characters that a name starts with. -/
def isNameStart (c : Char) : Bool := isKeyChar c || c = '"'

theorem ne_of_nameStart {c other : Char} (start : isNameStart c) (never : isNameStart other = false) : c ≠ other := by
  rintro rfl
  simp [start] at never

theorem exists_writeName (name : String) : ∃ c chars, writeName name = c :: chars ∧ isNameStart c := by
  unfold writeName
  dsimp only
  split
  · rename_i bare
    obtain ⟨c, chars, same⟩ := List.exists_cons_of_ne_nil bare.1
    rw [same] at bare ⊢
    exact ⟨c, chars, rfl, by simp [isNameStart, List.all_eq_true.1 bare.2 c List.mem_cons_self]⟩
  · exact ⟨'"', _, rfl, rfl⟩

theorem Path.text_cons (first name : String) (outer : List String) :
    Path.text ⟨first :: outer, name⟩ = writeName first ++ '.' :: Path.text ⟨outer, name⟩ := by
  simp [Path.text]

theorem exists_pathText (path : Path) : ∃ c chars, path.text = c :: chars ∧ isNameStart c := by
  obtain ⟨outer, name⟩ := path
  cases outer with
  | nil => exact exists_writeName name
  | cons first outer =>
    obtain ⟨c, chars, same, start⟩ := exists_writeName first
    exact ⟨c, _, by rw [Path.text_cons, same]; rfl, start⟩

theorem skipBlanks_cons {c : Char} (other : isBlank c = false) (rest : List Char) :
    skipBlanks (c :: rest) = c :: rest := by
  simp [skipBlanks, other]

theorem skipBlanks_nameStart {c : Char} (start : isNameStart c) (rest : List Char) :
    skipBlanks (c :: rest) = c :: rest := by
  have space : c ≠ ' ' := ne_of_nameStart start rfl
  have tab : c ≠ '\t' := ne_of_nameStart start rfl
  exact skipBlanks_cons (by simp [isBlank, space, tab]) rest

theorem skipBlanks_pathText (path : Path) (rest : List Char) : skipBlanks (path.text ++ rest) = path.text ++ rest := by
  obtain ⟨c, chars, same, start⟩ := exists_pathText path
  rw [same]
  exact skipBlanks_nameStart start _

theorem readName_writeName (name : String) {rest : List Char} (ends : Stops isKeyChar rest) :
    readName (writeName name ++ rest) = some (name, rest) := by
  unfold writeName
  dsimp only
  split
  · rename_i bare
    obtain ⟨nonempty, chars⟩ := bare
    rw [List.all_eq_true] at chars
    have unquoted : ∀ {quote}, isKeyChar quote = false → ∀ more, name.toList ++ rest ≠ quote :: more := by
      intro quote never more same
      obtain ⟨c, others, split⟩ := List.exists_cons_of_ne_nil nonempty
      rw [split] at same chars
      obtain rfl := (List.cons.inj same).1
      simp [chars c List.mem_cons_self] at never
    unfold readName
    split
    · exact (unquoted rfl _ ‹_›).elim
    · exact (unquoted rfl _ ‹_›).elim
    · rw [ends.takeWhile chars, ends.dropWhile chars]
      simp
  · simp [readName, readBasic, basicBody_encode, decode_encode]

theorem readPath_text {path : Path} {names : Nat} (short : path.outer.length < names) (rest : List Char)
    (ends : Stops isKeyChar rest) (last : (skipBlanks rest).head? ≠ some '.') :
    readPath names (path.text ++ rest) = some (path, skipBlanks rest) := by
  obtain ⟨outer, name⟩ := path
  induction outer generalizing names with
  | nil =>
    cases names with
    | zero => contradiction
    | succ names =>
      rw [readPath, Path.text, List.flatMap_nil, List.nil_append, readName_writeName name ends]
      dsimp only [Option.bind_eq_bind, Option.bind_some]
      split
      · simp_all
      · rfl
  | cons first outer ih =>
    cases names with
    | zero => contradiction
    | succ names =>
      have later := ih (Nat.lt_of_succ_lt_succ short)
      have read := readName_writeName first (stops_cons (c := '.') rfl (Path.text ⟨outer, name⟩ ++ rest))
      have blanks : skipBlanks ('.' :: (Path.text ⟨outer, name⟩ ++ rest)) = '.' :: (Path.text ⟨outer, name⟩ ++ rest) :=
        skipBlanks_cons rfl _
      rw [readPath, Path.text_cons, List.append_assoc, List.cons_append, read]
      simp [blanks, skipBlanks_pathText, later]

/-! ### Lines -/

/-- Whether a path can be read back. -/
def Path.Legible (path : Path) : Prop := path.outer.length < maxNames

def Header.Legible : Header → Prop
  | .table path => path.Legible
  | .element path => path.Legible

def Pair.Legible (pair : Pair) : Prop := pair.1.Legible ∧ pair.2.Legible maxDepth

theorem skipBlanks_write {depth : Nat} {value : Value} (legible : value.Legible depth) (blanks rest : List Char) :
    skipBlanks (value.write blanks ++ rest) = value.write blanks ++ rest := by
  obtain ⟨c, chars, same, solid, _⟩ := legible.startsItem blanks
  simp only [isFiller, Bool.or_eq_false_iff] at solid
  rw [same]
  exact skipBlanks_cons solid.1.1.1 _

theorem exists_writePair (blanks : List Char) (pair : Pair) :
    ∃ c chars, writePair blanks pair = c :: chars ∧ isNameStart c := by
  obtain ⟨c, chars, same, start⟩ := exists_pathText pair.1
  exact ⟨c, _, by rw [writePair, same]; rfl, start⟩

theorem readPair_writePair {pair : Pair} (legible : pair.Legible) {limit : Nat}
    (enough : (writePair [] pair).length ≤ limit) {rest : List Char} (ends : Ends rest) :
    readPair skipBlanks (readValue limit maxDepth) (writePair [] pair ++ rest) = some (pair, rest) := by
  obtain ⟨path, value⟩ := pair
  obtain ⟨short, legible⟩ : path.Legible ∧ value.Legible maxDepth := legible
  have room : (value.write []).length ≤ limit := by
    simp only [writePair, List.length_append] at enough
    omega
  have margin : ∀ c ∈ [], isBlank c := by simp
  have read := readValue_write legible margin room ends
  have text : writePair [] (path, value) ++ rest = path.text ++ ' ' :: '=' :: ' ' :: (value.write [] ++ rest) := by
    simp [writePair]
  have named := readPath_text short (' ' :: '=' :: ' ' :: (value.write [] ++ rest)) (stops_cons rfl _)
    (by simp [skipBlanks, isBlank])
  have equals : skipBlanks (skipBlanks (' ' :: '=' :: ' ' :: (value.write [] ++ rest))) =
      '=' :: ' ' :: (value.write [] ++ rest) := rfl
  have before : skipBlanks (' ' :: (value.write [] ++ rest)) = value.write [] ++ rest :=
    skipBlanks_write legible [] rest
  rw [readPair, text, named]
  simp [equals, before, read]

theorem readHeader_text {header : Header} (legible : header.Legible) :
    ∃ text, header.text = '[' :: text ∧ ∀ rest, readHeader (text ++ '\n' :: rest) = some (header, '\n' :: rest) := by
  cases header with
  | table path =>
    refine ⟨path.text ++ [']'], rfl, fun rest => ?_⟩
    have read := readPath_text legible (']' :: '\n' :: rest) (stops_cons rfl _) (by simp [skipBlanks, isBlank])
    have same : skipBlanks (']' :: '\n' :: rest) = ']' :: '\n' :: rest := rfl
    obtain ⟨c, chars, first, start⟩ := exists_pathText path
    rw [List.append_assoc, List.cons_append, List.nil_append]
    unfold readHeader
    split
    · rename_i more bracket
      rw [first, List.cons_append] at bracket
      exact (ne_of_nameStart start rfl (List.cons.inj bracket).1).elim
    · rw [skipBlanks_pathText, read, same]
      rfl
  | element path =>
    refine ⟨'[' :: path.text ++ [']', ']'], rfl, fun rest => ?_⟩
    have read := readPath_text legible (']' :: ']' :: '\n' :: rest) (stops_cons rfl _)
      (by simp [skipBlanks, isBlank])
    have same : skipBlanks (']' :: ']' :: '\n' :: rest) = ']' :: ']' :: '\n' :: rest := rfl
    simp only [List.cons_append, List.append_assoc, List.nil_append]
    rw [readHeader, skipBlanks_pathText, read, same]
    rfl

theorem readLineEnd_line (lines : List Char → Option (List Line)) (rest : List Char) :
    readLineEnd lines ('\n' :: rest) = lines rest := rfl

section ReadAs

variable {limit : Nat}

theorem readLines_pair {pair : Pair} (legible : pair.Legible) (enough : (writePair [] pair).length ≤ limit)
    (fuel : Nat) (rest : List Char) :
    readLines (readValue limit maxDepth) (fuel + 1) (writePair [] pair ++ '\n' :: rest) =
      (readLines (readValue limit maxDepth) fuel rest).map ([.pair pair] ++ ·) := by
  have read := readPair_writePair legible enough (stops_cons (c := '\n') rfl rest)
  obtain ⟨c, chars, same, start⟩ := exists_writePair [] pair
  have loud : isSilent (writePair [] pair ++ '\n' :: rest) = false := by
    have other : ∀ {d}, isNameStart d = false → c ≠ d := ne_of_nameStart start
    simp [same, isSilent, other (d := '\n') rfl, other (d := '\r') rfl, other (d := '#') rfl]
  have blanks : skipBlanks (writePair [] pair ++ '\n' :: rest) = writePair [] pair ++ '\n' :: rest := by
    rw [same]
    exact skipBlanks_nameStart start _
  rw [readLines, blanks]
  split
  · rename_i bracket
    rw [same] at bracket
    exact (ne_of_nameStart start rfl (List.cons.inj bracket).1).elim
  · rw [loud, read]
    -- Behind the end of the line, only the other lines are left to read.
    show Option.bind (readLines (readValue limit maxDepth) fuel rest) _ = _
    cases readLines (readValue limit maxDepth) fuel rest <;> rfl

theorem readLines_header {header : Header} (legible : header.Legible) (fuel : Nat) (rest : List Char) :
    readLines (readValue limit maxDepth) (fuel + 1) (header.text ++ '\n' :: rest) =
      (readLines (readValue limit maxDepth) fuel rest).map ([.header header] ++ ·) := by
  obtain ⟨text, same, read⟩ := readHeader_text legible
  have blanks : skipBlanks ('[' :: (text ++ '\n' :: rest)) = '[' :: (text ++ '\n' :: rest) := skipBlanks_cons rfl _
  rw [same, List.cons_append, readLines, blanks]
  simp only [read]
  show Option.bind (readLines (readValue limit maxDepth) fuel rest) _ = _
  cases readLines (readValue limit maxDepth) fuel rest <;> rfl

/-- However a text goes on, these lines are read from its beginning. -/
def ReadAs (limit : Nat) (text : List Char) (lines : List Line) : Prop :=
  text.length ≤ limit → ∃ count ≤ text.length, ∀ fuel rest,
    readLines (readValue limit maxDepth) (fuel + count) (text ++ rest) =
      (readLines (readValue limit maxDepth) fuel rest).map (lines ++ ·)

theorem readAs_nil : ReadAs limit [] [] := by
  intro _
  exact ⟨0, Nat.le_refl 0, fun fuel rest => by simp⟩

theorem ReadAs.append {first second : List Char} {before after : List Line} (left : ReadAs limit first before)
    (right : ReadAs limit second after) : ReadAs limit (first ++ second) (before ++ after) := by
  intro room
  rw [List.length_append] at room
  obtain ⟨m, short, read⟩ := left (by omega)
  obtain ⟨n, small, more⟩ := right (by omega)
  refine ⟨n + m, by rw [List.length_append]; omega, fun fuel rest => ?_⟩
  rw [List.append_assoc, ← Nat.add_assoc, read, more, Option.map_map]
  simp [Function.comp_def]

theorem ReadAs.flatMap {α : Type} {text : α → List Char} {lines : α → List Line} {items : List α}
    (each : ∀ item ∈ items, ReadAs limit (text item) (lines item)) :
    ReadAs limit (items.flatMap text) (items.flatMap lines) := by
  induction items with
  | nil => exact readAs_nil
  | cons item items ih =>
    obtain ⟨first, others⟩ := List.forall_mem_cons.1 each
    exact first.append (ih others)

theorem readAs_line {text : List Char} {lines : List Line}
    (read : text.length ≤ limit → ∀ fuel rest, readLines (readValue limit maxDepth) (fuel + 1) (text ++ '\n' :: rest) =
      (readLines (readValue limit maxDepth) fuel rest).map (lines ++ ·)) : ReadAs limit (text ++ ['\n']) lines := by
  intro room
  rw [List.length_append] at room
  refine ⟨1, by simp, fun fuel rest => ?_⟩
  rw [List.append_assoc]
  exact read (by omega) fuel rest

theorem readAs_blank : ReadAs limit ['\n'] [] := by
  have read : ReadAs limit ([] ++ ['\n']) [] := readAs_line fun _ fuel rest => by
    simp [readLines, skipBlanks, isBlank, isSilent, readLineEnd_line]
  exact read

end ReadAs

/-! ### Documents -/

def linesOf (pairs : List Pair) : List Line := pairs.flatMap fun pair => [.pair pair]

def Section.lines (opened : Section) : List Line := .header opened.header :: linesOf opened.pairs

/-- The lines that a document is made up of. -/
def Document.lines (document : Document) : List Line :=
  linesOf document.pairs ++ document.sections.flatMap Section.lines

theorem ofLines_pairs (pairs : List Pair) (lines : List Line) :
    Document.ofLines (linesOf pairs ++ lines) =
      { Document.ofLines lines with pairs := pairs ++ (Document.ofLines lines).pairs } := by
  induction pairs with
  | nil => rfl
  | cons pair pairs ih =>
    show Document.ofLines (.pair pair :: (linesOf pairs ++ lines)) = _
    rw [Document.ofLines, ih]
    rfl

theorem ofLines_sections (sections : List Section) :
    Document.ofLines (sections.flatMap Section.lines) = { pairs := [], sections := sections } := by
  induction sections with
  | nil => rfl
  | cons opened sections ih =>
    show Document.ofLines (.header opened.header :: (linesOf opened.pairs ++ sections.flatMap Section.lines)) = _
    rw [Document.ofLines, ofLines_pairs, ih, List.append_nil]

theorem ofLines_lines (document : Document) : Document.ofLines document.lines = document := by
  rw [Document.lines, ofLines_pairs, ofLines_sections, List.append_nil]

def Section.Legible (opened : Section) : Prop := opened.header.Legible ∧ ∀ pair ∈ opened.pairs, pair.Legible

/-- Whether all that a document is made of can be read back. -/
structure Document.Legible (document : Document) : Prop where
  pairs : ∀ pair ∈ document.pairs, pair.Legible
  sections : ∀ opened ∈ document.sections, opened.Legible

section Read

variable {limit : Nat}

theorem readAs_pairLines {pairs : List Pair} (legible : ∀ pair ∈ pairs, pair.Legible) :
    ReadAs limit (pairLines pairs) (linesOf pairs) :=
  ReadAs.flatMap fun pair member => readAs_line (readLines_pair (legible pair member))

theorem readAs_section {opened : Section} (legible : opened.Legible) : ReadAs limit opened.text opened.lines := by
  have read : ReadAs limit _ _ := (readAs_line fun _ => readLines_header legible.1).append (readAs_pairLines legible.2)
  rw [List.append_assoc] at read
  exact read

theorem intercalate_cons (block : List Char) (blocks : List (List Char)) :
    ['\n'].intercalate (block :: blocks) = block ++ blocks.flatMap fun block => ['\n'] ++ block := by
  induction blocks generalizing block with
  | nil => simp
  | cons next blocks ih => rw [List.intercalate_cons_cons, ih, List.flatMap_cons, List.append_assoc, List.append_assoc]

theorem readAs_sections {sections : List Section} (legible : ∀ opened ∈ sections, opened.Legible) :
    ReadAs limit (sections.flatMap fun opened => ['\n'] ++ opened.text) (sections.flatMap Section.lines) :=
  ReadAs.flatMap fun opened member => readAs_blank.append (readAs_section (legible opened member))

theorem readAs_document {document : Document} (legible : document.Legible) :
    ReadAs limit document.text document.lines := by
  obtain ⟨pairs, sections⟩ := document
  unfold Document.text Document.lines
  dsimp only
  split
  · rename_i empty
    obtain rfl := List.isEmpty_iff.1 empty
    cases sections with
    | nil => exact readAs_nil
    | cons opened sections =>
      obtain ⟨first, others⟩ := List.forall_mem_cons.1 legible.sections
      rw [List.map_cons, intercalate_cons, List.flatMap_map]
      exact (readAs_section first).append (readAs_sections others)
  · rw [intercalate_cons, List.flatMap_map]
    exact (readAs_pairLines legible.pairs).append (readAs_sections legible.sections)

end Read

/-- The text of a document starts with a name, an opening bracket, or not at all. -/
theorem head_text (document : Document) : ∀ c ∈ document.text.head?, isNameStart c ∨ c = '[' := by
  obtain ⟨pairs, sections⟩ := document
  intro c member
  unfold Document.text at member
  dsimp only at member
  split at member
  · cases sections with
    | nil => contradiction
    | cons opened sections =>
      have bracket : ∃ text, opened.text = '[' :: text := by
        obtain ⟨header, pairs⟩ := opened
        cases header with
        | table | element => exact ⟨_, rfl⟩
      obtain ⟨text, same⟩ := bracket
      rw [List.map_cons, intercalate_cons, same] at member
      exact .inr (Option.some.inj member).symm
  · cases pairs with
    | nil => contradiction
    | cons pair pairs =>
      obtain ⟨first, text, same, start⟩ := exists_writePair [] pair
      rw [intercalate_cons, pairLines, List.flatMap_cons, same] at member
      obtain rfl := Option.some.inj member
      exact .inl start

theorem dropMark_text (document : Document) : dropMark document.text = document.text := by
  unfold dropMark
  split
  · rename_i rest same
    have first := head_text document '\uFEFF' (by rw [same]; rfl)
    exact absurd first (by decide)
  · rfl

/-- A legible document is read back from its text. -/
theorem parse?_text {document : Document} (legible : document.Legible) :
    parse? (String.ofList document.text) = some document := by
  have whole : ReadAs (document.text.length + 1) document.text document.lines := readAs_document legible
  obtain ⟨count, few, read⟩ := whole (Nat.le_succ _)
  have lines : readLines (readValue (document.text.length + 1) maxDepth) (document.text.length + 1) document.text =
      some document.lines := by
    -- Every line has a character, so the fuel lasts to the end of the text.
    have fuel : document.text.length - count + 1 + count = document.text.length + 1 := by omega
    have last := read (document.text.length - count + 1) []
    rw [List.append_nil, fuel] at last
    rw [last]
    simp [readLines, skipBlanks, isSilent, readLineEnd, skipComment]
  rw [parse?, String.toList_ofList, dropMark_text, parseChars?]
  simp [lines, ofLines_lines]

end Stencil.Toml
