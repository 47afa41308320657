import Mathlib
import Stencil.Text.Case

/-!
# What the case mappings make of a text

On ASCII texts the mappings act on each character alone and need no second pass (`upperText_upperText`,
`lowerText_lowerText`). On any text they make no separator out of anything else (`eq_of_separator_mem_upper`,
`eq_of_separator_mem_lower`), and nothing in lower case is an ASCII capital (`isUpper_of_mem_lower`).
-/

namespace Stencil.Text

section Ascii

variable {c : Char} {text : List Char}

theorem isUpper_iff : c.isUpper = true ↔ 65 ≤ c.toNat ∧ c.toNat ≤ 90 := by
  simp only [Char.isUpper, ge_iff_le, UInt32.le_iff_toNat_le, Char.toNat_val, decide_eq_true_eq]
  exact Iff.rfl

theorem isLower_iff : c.isLower = true ↔ 97 ≤ c.toNat ∧ c.toNat ≤ 122 := by
  simp only [Char.isLower, ge_iff_le, UInt32.le_iff_toNat_le, Char.toNat_val, Bool.and_eq_true, decide_eq_true_eq]
  exact Iff.rfl

theorem isAscii_toUpper (ascii : isAscii c = true) : isAscii c.toUpper = true := by
  by_cases small : c.isLower = true
  · rw [Char.toUpper_eq_of_isLower small]
    simp only [isAscii, decide_eq_true_eq, Char.toNat_ofNat] at ascii ⊢
    split <;> omega
  · rwa [Char.toUpper_eq_of_not_isLower small]

theorem isAscii_toLower (ascii : isAscii c = true) : isAscii c.toLower = true := by
  by_cases capital : c.isUpper = true
  · rw [Char.toLower_eq_of_isUpper capital]
    rw [isUpper_iff] at capital
    simp only [isAscii, decide_eq_true_eq, Char.toNat_ofNat]
    split <;> omega
  · rwa [Char.toLower_eq_of_not_isUpper capital]

theorem isUppercase_of_ascii (ascii : isAscii c = true) : isUppercase c = c.isUpper := by
  rw [isUppercase, if_pos ascii]

theorem upperText_of_ascii (ascii : ∀ c ∈ text, isAscii c = true) : upperText text = text.map Char.toUpper := by
  rw [upperText, List.map_eq_flatMap]
  exact List.flatMap_congr fun c member => upper_of_ascii (ascii c member)

theorem lowerText_of_ascii (ascii : ∀ c ∈ text, isAscii c = true) : lowerText text = text.map Char.toLower := by
  -- A sigma looks back at what stands before it; there is none in ASCII, so any `before` will do.
  have after : ∀ before, lowerAfter before text = text.map Char.toLower := by
    induction text with
    | nil => exact fun _ => rfl
    | cons c rest ih =>
      intro before
      rw [List.forall_mem_cons] at ascii
      have no_sigma : c ≠ 'Σ' := by
        rintro rfl
        exact absurd ascii.1 (by decide)
      rw [lowerAfter, if_neg no_sigma, lower_of_ascii ascii.1, ih ascii.2]
      rfl
  exact after []

theorem upperText_upperText (ascii : ∀ c ∈ text, isAscii c = true) :
    upperText (upperText text) = upperText text := by
  have still : ∀ c ∈ upperText text, isAscii c = true := by
    rw [upperText_of_ascii ascii, List.forall_mem_map]
    exact fun c member => isAscii_toUpper (ascii c member)
  rw [upperText_of_ascii still, upperText_of_ascii ascii, List.map_map]
  exact List.map_congr_left fun c _ => c.toUpper_toUpper_eq_toUpper

theorem lowerText_lowerText (ascii : ∀ c ∈ text, isAscii c = true) :
    lowerText (lowerText text) = lowerText text := by
  have still : ∀ c ∈ lowerText text, isAscii c = true := by
    rw [lowerText_of_ascii ascii, List.forall_mem_map]
    exact fun c member => isAscii_toLower (ascii c member)
  rw [lowerText_of_ascii still, lowerText_of_ascii ascii, List.map_map]
  exact List.map_congr_left fun c _ => c.toLower_toLower_eq_toLower

end Ascii

/-! ### What the tables reach -/

/-- Whether the shift moves some character to the code point. -/
def Shift.reaches (shift : Shift) (point : Nat) : Bool :=
  shift.stride.contains ((point : Int) - shift.distance).toNat

def reachesNone (table : List Shift) (points : List Nat) : Bool :=
  table.all fun shift => points.all fun point => !shift.reaches point

section Tables

variable {table : List Shift} {c d : Char}

/-- The zero character also stands for a code point that is none. -/
theorem reaches_of_shifted? (found : shifted? table c = some d) (real : d.toNat ≠ 0) :
    ∃ shift ∈ table, shift.reaches d.toNat = true := by
  obtain ⟨shift, first, rfl⟩ := Option.map_eq_some_iff.1 found
  refine ⟨shift, List.mem_of_find?_eq_some first, ?_⟩
  have holds := List.find?_some first
  rw [Char.toNat_ofNat] at real ⊢
  split at real
  · have back : ((((c.toNat : Int) + shift.distance).toNat : Int) - shift.distance).toNat = c.toNat := by omega
    rwa [Shift.reaches, if_pos ‹_›, back]
  · exact absurd rfl real

theorem not_mem_of_shifted? {points : List Nat} (unreached : reachesNone table points = true)
    (found : shifted? table c = some d) (real : d.toNat ≠ 0) : d.toNat ∉ points := by
  intro member
  obtain ⟨shift, listed, reached⟩ := reaches_of_shifted? found real
  have missed := List.all_eq_true.1 (List.all_eq_true.1 unreached shift listed) _ member
  rw [reached] at missed
  exact absurd missed Bool.false_ne_true

theorem eq_or_shifted? (same : d = (shifted? table c).getD c) : d = c ∨ shifted? table c = some d := by
  cases moved : shifted? table c with
  | none =>
    rw [moved] at same
    exact .inl same
  | some e =>
    rw [moved] at same
    exact .inr (congrArg some same.symm)

end Tables

/-- What stands between the words of a key. -/
def separators : List Char := ['_', '-']

section Separators

variable {c d : Char}

theorem isAscii_of_separator (separator : d ∈ separators) :
    isAscii d = true ∧ d.isAlpha = false ∧ d.toNat ≠ 0 ∧ d.toNat ∈ [0x2D, 0x5F] := by
  obtain rfl | rfl := List.mem_pair.1 separator <;> decide

theorem separator_not_mem_expansion (separator : d ∈ separators) {entry : Nat × List Nat}
    (listed : entry ∈ upperExpansions) : d ∉ entry.2.map Char.ofNat := by
  have apart : (upperExpansions.all fun entry =>
      (entry.2.map Char.ofNat).all fun c => !separators.contains c) = true := by
    decide +kernel
  intro member
  have other := List.all_eq_true.1 (List.all_eq_true.1 apart entry listed) d member
  simp [separator] at other

theorem eq_of_separator_mem_upper (separator : d ∈ separators) (member : d ∈ upper c) : c = d := by
  obtain ⟨low, plain, real, point⟩ := isAscii_of_separator separator
  rw [upper] at member
  split at member
  · rw [List.mem_singleton.1 member, Char.isAlpha_toUpper_eq_isAlpha, Char.isAlpha, Bool.or_eq_false_iff] at plain
    rw [List.mem_singleton.1 member, Char.toUpper_eq_of_not_isLower (by simp [plain.2])]
  · split at member
    · rename_i points found
      exact absurd member (separator_not_mem_expansion separator (List.mem_of_find?_eq_some found))
    · obtain same | moved := eq_or_shifted? (List.mem_singleton.1 member)
      · exact same.symm
      · exact absurd point (not_mem_of_shifted? (by decide +kernel) moved real)

/-- Where a character in lower case comes from, if it is below U+0080. -/
theorem mem_lower_cases (low : isAscii d = true) (member : d ∈ lower c) :
    d = c.toLower ∨ d = 'i' ∨ shifted? lowerShifts c = some d := by
  rw [lower] at member
  split at member
  · exact .inl (List.mem_singleton.1 member)
  · rename_i high
    split at member
    · obtain small | mark := List.mem_pair.1 member
      · exact .inr (.inl small)
      · subst mark
        exact absurd low (by decide)
    · obtain same | moved := eq_or_shifted? (List.mem_singleton.1 member)
      · exact absurd (same ▸ low) high
      · exact .inr (.inr moved)

theorem eq_of_separator_mem_lower (separator : d ∈ separators) (member : d ∈ lower c) : c = d := by
  obtain ⟨low, plain, real, point⟩ := isAscii_of_separator separator
  obtain same | small | moved := mem_lower_cases low member
  · rw [same, Char.isAlpha_toLower_eq_isAlpha, Char.isAlpha, Bool.or_eq_false_iff] at plain
    rw [same, Char.toLower_eq_of_not_isUpper (by simp [plain.1])]
  · subst small
    exact absurd plain (by decide)
  · exact absurd point (not_mem_of_shifted? (by decide +kernel) moved real)

theorem isUpper_of_mem_lower (member : d ∈ lower c) : d.isUpper = false := by
  by_contra capital
  rw [Bool.not_eq_false] at capital
  have range := isUpper_iff.1 capital
  obtain same | small | moved := mem_lower_cases (decide_eq_true (by omega)) member
  · rw [same, Char.isUpper_toLower_eq_false] at capital
    exact Bool.false_ne_true capital
  · subst small
    exact absurd capital (by decide)
  · have outside : d.toNat ∉ List.range' 65 26 := not_mem_of_shifted? (by decide +kernel) moved (by omega)
    exact outside (List.mem_range'_1.2 (by omega))

theorem mem_of_separator_mem_lowerText {text : List Char} (separator : d ∈ separators)
    (member : d ∈ lowerText text) : d ∈ text := by
  have after : ∀ before, d ∈ lowerAfter before text → d ∈ text := by
    clear member
    induction text with
    | nil => exact fun _ member => absurd member List.not_mem_nil
    | cons c rest ih =>
      intro before member
      rw [lowerAfter] at member
      obtain here | later := List.mem_append.1 member
      · split at here
        · obtain ⟨low, -⟩ := isAscii_of_separator separator
          rw [List.mem_singleton] at here
          split at here <;> subst here <;> exact absurd low (by decide)
        · rw [eq_of_separator_mem_lower separator here]
          exact List.mem_cons_self
      · exact List.mem_cons_of_mem c (ih _ later)
  exact after [] member

end Separators

end Stencil.Text
