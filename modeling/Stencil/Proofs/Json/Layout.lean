import Stencil.Json.Reader

/-!
# Layouts

The compact text of a value and the one over several lines differ in the blanks between their parts alone.
Both are written by one function of those blanks (`write_compact`, `write_pretty`), and a reader that starts
with a value skips the blanks in front of it (`readValue_blanks`).
-/

namespace Stencil.Json

/-- The blanks of a text: before a part of a container at some level, and after a colon. -/
structure Layout where
  lineBreak : Nat → List Char
  gap : List Char

namespace Layout

def compact : Layout := ⟨fun _ => [], []⟩

def pretty : Layout := ⟨newline, [' ']⟩

/-- Nothing but blanks stands between the parts. -/
structure Blank (layout : Layout) : Prop where
  lineBreak : ∀ level, ∀ c ∈ layout.lineBreak level, isBlank c
  gap : ∀ c ∈ layout.gap, isBlank c

theorem blank_compact : Blank compact := ⟨fun _ => nofun, nofun⟩

theorem blank_pretty : Blank pretty := by
  refine ⟨fun level c member => ?_, fun c member => ?_⟩
  · rcases List.mem_cons.1 member with rfl | space
    · rfl
    · obtain ⟨-, rfl⟩ := List.mem_replicate.1 space
      rfl
  · obtain rfl := List.mem_singleton.1 member
    rfl

end Layout

section

variable (layout : Layout)

mutual

/-- The text of a value in a layout, its own lines starting at `level`, followed by `rest`. -/
def write (level : Nat) : Json → List Char → List Char
  | .null, rest => Json.null.writeCompact rest
  | .bool value, rest => (Json.bool value).writeCompact rest
  | .num value, rest => value.chars ++ rest
  | .str value, rest => quoted value ++ rest
  | .arr [], rest => '[' :: ']' :: rest
  | .arr (item :: items), rest =>
    '[' :: writeItemsIn (level + 1) (item :: items) (layout.lineBreak level ++ ']' :: rest)
  | .obj [], rest => '{' :: '}' :: rest
  | .obj (member :: members), rest =>
    '{' :: writeMembersIn (level + 1) (member :: members) (layout.lineBreak level ++ '}' :: rest)

def writeItemsIn (level : Nat) : List Json → List Char → List Char
  | [], rest => rest
  | [item], rest => layout.lineBreak level ++ item.write level rest
  | item :: items, rest => layout.lineBreak level ++ item.write level (',' :: writeItemsIn level items rest)

def writeMembersIn (level : Nat) : List (String × Json) → List Char → List Char
  | [], rest => rest
  | [(key, value)], rest =>
    layout.lineBreak level ++ (quoted key ++ ':' :: (layout.gap ++ value.write level rest))
  | (key, value) :: members, rest =>
    layout.lineBreak level ++
      (quoted key ++ ':' :: (layout.gap ++ value.write level (',' :: writeMembersIn level members rest)))

end

end

mutual

theorem write_compact : (node : Json) → (level : Nat) → (rest : List Char) →
    node.write .compact level rest = node.writeCompact rest
  | .null, _, _ => rfl
  | .bool _, _, _ => rfl
  | .num _, _, _ => rfl
  | .str _, _, _ => rfl
  | .arr [], _, _ => rfl
  | .arr (item :: items), level, _ => congrArg ('[' :: ·) (writeItems_compact (item :: items) (level + 1) _)
  | .obj [], _, _ => rfl
  | .obj (member :: members), level, _ =>
    congrArg ('{' :: ·) (writeMembers_compact (member :: members) (level + 1) _)

theorem writeItems_compact : (items : List Json) → (level : Nat) → (rest : List Char) →
    writeItemsIn .compact level items rest = writeItems items rest
  | [], _, _ => rfl
  | [item], level, rest => write_compact item level rest
  | item :: next :: items, level, rest => by
    show item.write .compact level (',' :: writeItemsIn .compact level (next :: items) rest) = _
    rw [write_compact item, writeItems_compact (next :: items)]
    rfl

theorem writeMembers_compact : (members : List (String × Json)) → (level : Nat) → (rest : List Char) →
    writeMembersIn .compact level members rest = writeMembers members rest
  | [], _, _ => rfl
  | [(key, value)], level, rest => congrArg (quoted key ++ ':' :: ·) (write_compact value level rest)
  | (key, value) :: next :: members, level, rest => by
    show quoted key ++ ':' :: value.write .compact level (',' :: writeMembersIn .compact level (next :: members) rest) = _
    rw [write_compact value, writeMembers_compact (next :: members)]
    rfl

end

mutual

theorem write_pretty : (node : Json) → (level : Nat) → (rest : List Char) →
    node.write .pretty level rest = node.writePretty level rest
  | .null, _, _ => rfl
  | .bool true, _, _ => rfl
  | .bool false, _, _ => rfl
  | .num _, _, _ => rfl
  | .str _, _, _ => rfl
  | .arr [], _, _ => rfl
  | .arr (item :: items), level, _ => congrArg ('[' :: ·) (writeItems_pretty (item :: items) (level + 1) _)
  | .obj [], _, _ => rfl
  | .obj (member :: members), level, _ =>
    congrArg ('{' :: ·) (writeMembers_pretty (member :: members) (level + 1) _)

theorem writeItems_pretty : (items : List Json) → (level : Nat) → (rest : List Char) →
    writeItemsIn .pretty level items rest = writePrettyItems level items rest
  | [], _, _ => rfl
  | [item], level, rest => congrArg (newline level ++ ·) (write_pretty item level rest)
  | item :: next :: items, level, rest => by
    show newline level ++ item.write .pretty level (',' :: writeItemsIn .pretty level (next :: items) rest) = _
    rw [write_pretty item, writeItems_pretty (next :: items)]
    rfl

theorem writeMembers_pretty : (members : List (String × Json)) → (level : Nat) → (rest : List Char) →
    writeMembersIn .pretty level members rest = writePrettyMembers level members rest
  | [], _, _ => rfl
  | [(key, value)], level, rest => by
    show newline level ++ (quoted key ++ ':' :: ' ' :: value.write .pretty level rest) = _
    rw [write_pretty value, ← List.append_assoc]
    rfl
  | (key, value) :: next :: members, level, rest => by
    show newline level ++
      (quoted key ++ ':' :: ' ' :: value.write .pretty level (',' :: writeMembersIn .pretty level (next :: members) rest)) = _
    rw [write_pretty value, writeMembers_pretty (next :: members), ← List.append_assoc]
    rfl

end

/-! ### Blanks -/

theorem skipBlanks_append {blanks : List Char} (blank : ∀ c ∈ blanks, isBlank c) (text : List Char) :
    skipBlanks (blanks ++ text) = skipBlanks text := by
  unfold skipBlanks
  rw [List.dropWhile_append_of_pos blank]

theorem readStep_blanks (fuel : Nat) (nested : Option (Reader Json)) {blanks : List Char}
    (blank : ∀ c ∈ blanks, isBlank c) (text : List Char) :
    readStep fuel nested (blanks ++ text) = readStep fuel nested text := by
  unfold readStep
  rw [skipBlanks_append blank]

theorem readValue_blanks (fuel depth : Nat) {blanks : List Char} (blank : ∀ c ∈ blanks, isBlank c)
    (text : List Char) : readValue fuel depth (blanks ++ text) = readValue fuel depth text := by
  cases depth <;> exact readStep_blanks fuel _ blank text

end Stencil.Json
