import Stencil.Key.Format
import Stencil.Proofs.Text.Case

/-!
# The words of a key survive the strategies

`camelize` marks each word but the first with a capital and drops the underscores, `dasherize` turns them into
dashes. If every word goes on after its first letter, `underscore` finds the boundaries again: the character
before a capital is then a small letter or a digit (`underscore_restores`).
-/

namespace Stencil.Key

open Stencil.Text

theorem segments_eq_splitOn (key : List Char) : segments key = key.splitOn '_' := by
  induction key with
  | nil => rfl
  | cons c rest ih =>
    rw [List.splitOn, List.splitOnP_cons_eq_if_modifyHead, ← List.splitOn, ← ih, segments]
    by_cases boundary : c = '_'
    · rw [if_pos boundary, if_pos (beq_iff_eq.2 boundary)]
    · rw [if_neg boundary, if_neg (by simpa using boundary)]
      cases shape : segments rest with
      | nil => exact absurd (ih.symm.trans shape) (List.splitOn_ne_nil '_' rest)
      | cons first others => rfl

/-- A character that `underscore` leaves as it is, whatever stands around it. -/
structure Kept (c : Char) : Prop where
  no_dash : c ≠ '-'
  no_capital : isUppercase c = false
  lowered : lower c = [c]

theorem kept_of_ascii {c : Char} (ascii : isAscii c = true) (no_dash : c ≠ '-') (no_capital : c.isUpper = false) :
    Kept c where
  no_dash := no_dash
  no_capital := (isUppercase_of_ascii ascii).trans no_capital
  lowered := by rw [lower_of_ascii ascii, Char.toLower_eq_of_not_isUpper (by simp [no_capital])]

theorem underscoreAfter_append_of_kept {run : List Char} (kept : ∀ c ∈ run, Kept c) (before : Option Char)
    (tail : List Char) :
    underscoreAfter before (run ++ tail) = run ++ underscoreAfter (run.getLast?.or before) tail := by
  induction run generalizing before with
  | nil => rfl
  | cons c rest ih =>
    obtain ⟨here, later⟩ := List.forall_mem_cons.1 kept
    rw [List.cons_append, underscoreAfter, if_neg here.no_dash, here.no_capital, here.lowered, ih later,
      List.getLast?_cons]
    cases rest.getLast? <;> rfl

/-- A small letter or a digit. -/
def isSmall (c : Char) : Bool := c.isLower || c.isDigit

/-- A word of a key in snake_case: a small letter, and after it at least one small letter or digit. -/
def isWord : List Char → Bool
  | first :: second :: rest => first.isLower && (second :: rest).all isSmall
  | _ => false

section Small

variable {c : Char}

theorem isSmall_of_isLower (letter : c.isLower = true) : isSmall c = true := by
  rw [isSmall, letter, Bool.true_or]

theorem ascii_of_isSmall (small : isSmall c = true) : isAscii c = true ∧ c.isUpper = false := by
  have range : (97 ≤ c.toNat ∧ c.toNat ≤ 122) ∨ (48 ≤ c.toNat ∧ c.toNat ≤ 57) := by
    rwa [isSmall, Bool.or_eq_true, isLower_iff, Char.isDigit_iff_toNat] at small
  rw [isAscii, decide_eq_true_eq, ← Bool.not_eq_true, isUpper_iff]
  omega

theorem kept_of_isSmall (small : isSmall c = true) : Kept c := by
  obtain ⟨ascii, no_capital⟩ := ascii_of_isSmall small
  refine kept_of_ascii ascii ?_ no_capital
  rintro rfl
  exact absurd small (by decide)

theorem startsWord_of_isSmall (small : isSmall c = true) (rest : List Char) : startsWord (some c) rest = true := by
  rw [startsWord, isLowercase, if_pos (ascii_of_isSmall small).1, ← isSmall, small, Bool.true_or]

end Small

section Word

variable {first : Char} {run : List Char}

theorem capitalize_of_small (letter : first.isLower = true) (small : ∀ c ∈ run, isSmall c = true) :
    capitalize (first :: run) = first.toUpper :: run := by
  have ascii : ∀ c ∈ run, isAscii c = true := fun c member => (ascii_of_isSmall (small c member)).1
  have lowered : ∀ c ∈ run, c.toLower = c := fun c member =>
    Char.toLower_eq_of_not_isUpper (by simp [(ascii_of_isSmall (small c member)).2])
  rw [capitalize, upper_of_ascii (ascii_of_isSmall (isSmall_of_isLower letter)).1, lowerText_of_ascii ascii,
    List.map_congr_left lowered, List.map_id']
  rfl

theorem underscoreAfter_capital (letter : first.isLower = true) (small : ∀ c ∈ run, isSmall c = true)
    (before : Option Char) (tail : List Char) :
    underscoreAfter before (first.toUpper :: (run ++ tail)) =
      (if startsWord before (run ++ tail) then ['_'] else []) ++
        (first :: run ++ underscoreAfter (run.getLast?.or (some first.toUpper)) tail) := by
  obtain ⟨ascii, no_capital⟩ := ascii_of_isSmall (isSmall_of_isLower letter)
  have capital : first.toUpper.isUpper = true := by
    rw [Char.isUpper_toUpper_eq_isAlpha, Char.isAlpha, letter, Bool.or_true]
  have no_dash : first.toUpper ≠ '-' := by
    intro dash
    rw [dash] at capital
    exact absurd capital (by decide)
  have lowered : lower first.toUpper = [first] := by
    rw [lower_of_ascii (isAscii_toUpper ascii), Char.toLower_toUpper_eq_toLower,
      Char.toLower_eq_of_not_isUpper (by simp [no_capital])]
  rw [underscoreAfter, if_neg no_dash, isUppercase_of_ascii (isAscii_toUpper ascii), capital, Bool.true_and, lowered,
    underscoreAfter_append_of_kept fun c member => kept_of_isSmall (small c member)]
  simp

/-- How a word begins, goes on and ends. -/
theorem isWord_cases {word : List Char} (whole : isWord word = true) : ∃ first run last, word = first :: run ∧
    first.isLower = true ∧ (∀ c ∈ run, isSmall c = true) ∧ run.getLast? = some last ∧ isSmall last = true := by
  obtain _ | ⟨first, _ | ⟨second, rest⟩⟩ := word
  · exact absurd whole Bool.false_ne_true
  · exact absurd whole Bool.false_ne_true
  · obtain ⟨letter, small⟩ := (Bool.and_eq_true _ _).mp whole
    rw [List.all_eq_true] at small
    exact ⟨first, second :: rest, (second :: rest).getLast (List.cons_ne_nil _ _), rfl, letter, small,
      List.getLast?_eq_some_getLast _, small _ (List.getLast_mem _)⟩

theorem isSmall_of_mem_word {word : List Char} (whole : isWord word = true) {c : Char} (member : c ∈ word) :
    isSmall c = true := by
  obtain ⟨first, run, -, rfl, letter, small, -⟩ := isWord_cases whole
  obtain rfl | later := List.mem_cons.1 member
  · exact isSmall_of_isLower letter
  · exact small c later

end Word

section Words

variable {later : List (List Char)}

/-- The words after the first one begin with a capital each, and each capital comes after a small character. -/
theorem underscoreAfter_later (words : ∀ word ∈ later, isWord word = true) {previous : Char}
    (ended : isSmall previous = true) (word : List Char) :
    word ++ underscoreAfter (some previous) (later.flatMap capitalize) = ['_'].intercalate (word :: later) := by
  induction later generalizing word previous with
  | nil =>
    rw [List.intercalate_singleton]
    exact List.append_nil word
  | cons next others ih =>
    obtain ⟨whole, rest⟩ := List.forall_mem_cons.1 words
    obtain ⟨first, run, last, rfl, letter, small, ends, small_last⟩ := isWord_cases whole
    rw [List.flatMap_cons, capitalize_of_small letter small, List.cons_append, underscoreAfter_capital letter small,
      startsWord_of_isSmall ended, if_pos rfl, ends, Option.some_or, ih rest small_last, List.intercalate_cons_cons,
      List.append_assoc]

theorem underscoreAfter_initialSegment {word : List Char} (whole : isWord word = true) (initial : InitialCase)
    (tail : List Char) : ∃ last, isSmall last = true ∧
      underscoreAfter none (initialSegment initial word ++ tail) = word ++ underscoreAfter (some last) tail := by
  have kept : ∀ c ∈ word, Kept c := fun c member => kept_of_isSmall (isSmall_of_mem_word whole member)
  obtain ⟨first, run, last, rfl, letter, small, ends, small_last⟩ := isWord_cases whole
  refine ⟨last, small_last, ?_⟩
  obtain ⟨ascii, -⟩ := ascii_of_isSmall (isSmall_of_isLower letter)
  cases initial with
  | upper =>
    rw [initialSegment, upper_of_ascii ascii, List.singleton_append, List.cons_append,
      underscoreAfter_capital letter small, ends]
    rfl
  | lower =>
    rw [initialSegment, (kept first List.mem_cons_self).lowered, List.singleton_append,
      underscoreAfter_append_of_kept kept, List.getLast?_cons, ends]
    rfl

variable {words : List (List Char)}

theorem underscore_camelize (whole : ∀ word ∈ words, isWord word = true) (initial : InitialCase) :
    underscore (camelize initial (['_'].intercalate words)) = ['_'].intercalate words := by
  cases words with
  | nil => cases initial <;> rfl
  | cons word later =>
    have no_underscore : ∀ part ∈ word :: later, '_' ∉ part := fun part member inside =>
      absurd (isSmall_of_mem_word (whole part member) inside) (by decide)
    obtain ⟨this, others⟩ := List.forall_mem_cons.1 whole
    obtain ⟨last, small, first_word⟩ := underscoreAfter_initialSegment this initial (later.flatMap capitalize)
    rw [camelize, segments_eq_splitOn, List.splitOn_intercalate '_' no_underscore (List.cons_ne_nil _ _), underscore]
    exact first_word.trans (underscoreAfter_later others small word)

theorem kept_of_mem_intercalate (whole : ∀ word ∈ words, isWord word = true) :
    ∀ c ∈ ['_'].intercalate words, Kept c := by
  have kept_underscore : Kept '_' := kept_of_ascii (by decide) (by decide) (by decide)
  have kept_word : ∀ word ∈ words, ∀ c ∈ word, Kept c := fun word listed c member =>
    kept_of_isSmall (isSmall_of_mem_word (whole word listed) member)
  clear whole
  induction words with
  | nil => exact fun c member => absurd member List.not_mem_nil
  | cons word later ih =>
    obtain ⟨this, others⟩ := List.forall_mem_cons.1 kept_word
    cases later with
    | nil => rwa [List.intercalate_singleton]
    | cons next rest =>
      rw [List.intercalate_cons_cons, List.append_assoc, List.forall_mem_append, List.singleton_append,
        List.forall_mem_cons]
      exact ⟨this, kept_underscore, ih others⟩

theorem underscoreAfter_dasherize {text : List Char} (kept : ∀ c ∈ text, Kept c) (before : Option Char) :
    underscoreAfter before (dasherize text) = text := by
  induction text generalizing before with
  | nil => rfl
  | cons c rest ih =>
    obtain ⟨here, later⟩ := List.forall_mem_cons.1 kept
    rw [dasherize, List.map_cons, ← dasherize]
    by_cases boundary : c = '_'
    · rw [if_pos boundary, underscoreAfter, if_pos rfl, ih later, boundary]
    · rw [if_neg boundary, underscoreAfter, if_neg here.no_dash, here.no_capital, here.lowered, ih later]
      rfl

end Words

end Stencil.Key

namespace Stencil.KeyTransform

open Key

/-- On a key in snake_case, `underscore` undoes `camelize`, with either initial case, and `dasherize`. -/
theorem underscore_restores {words : List String} (whole : ∀ word ∈ words, isWord word.toList = true) :
    (∀ initial, underscore.apply ((camelize initial).apply ("_".intercalate words)) = "_".intercalate words) ∧
    underscore.apply (dasherize.apply ("_".intercalate words)) = "_".intercalate words := by
  have each : ∀ word ∈ words.map String.toList, isWord word = true := by
    rwa [List.forall_mem_map]
  have joined : ("_".intercalate words).toList = ['_'].intercalate (words.map String.toList) :=
    String.toList_intercalate
  refine ⟨fun initial => ?_, ?_⟩
  · rw [← String.toList_inj, apply, apply, String.toList_ofList, String.toList_ofList, joined]
    exact underscore_camelize each initial
  · rw [← String.toList_inj, apply, apply, String.toList_ofList, String.toList_ofList, joined]
    exact underscoreAfter_dasherize (kept_of_mem_intercalate each) none

/-- A word may end in digits: `street_line2_de` is `streetLine2De` in camelCase. -/
theorem underscore_restores_address :
    (∀ word ∈ ["street", "line2", "de"], isWord word.toList = true) ∧
      (camelize .lower).apply "street_line2_de" = "streetLine2De" ∧
      underscore.apply "streetLine2De" = "street_line2_de" ∧
      underscore.apply (dasherize.apply "street_line2_de") = "street_line2_de" := by
  have whole : ∀ word ∈ ["street", "line2", "de"], isWord word.toList = true := by decide +kernel
  have joined : "_".intercalate ["street", "line2", "de"] = "street_line2_de" := by decide +kernel
  have camel : (camelize .lower).apply "street_line2_de" = "streetLine2De" := by decide +kernel
  obtain ⟨restored, undashed⟩ := underscore_restores whole
  rw [joined] at restored undashed
  exact ⟨whole, camel, camel ▸ restored .lower, undashed⟩

-- A word of one letter leaves a boundary between two capitals, which are one word to `underscore`.
example : underscore.apply ((camelize .upper).apply "plan_b_c") = "plan_bc" := by decide +kernel

end Stencil.KeyTransform
