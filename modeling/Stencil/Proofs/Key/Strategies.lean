import Stencil.Proofs.Key.Words

/-!
# Strategies applied twice

On an ASCII key every strategy but `camelize` has nothing left to do when it is applied again, and `camelize` has
nothing left either unless the key starts with an underscore (`strategies_settle`). No key has an underscore after
`camelize`, and none has a dash or an ASCII capital after `underscore`.
-/

namespace Stencil.Key

open Stencil.Text

/-! ### camelize -/

theorem no_underscore_of_mem_segments {key segment : List Char} (listed : segment ∈ segments key) :
    '_' ∉ segment := by
  induction key generalizing segment with
  | nil =>
    rw [List.mem_singleton.1 listed]
    exact List.not_mem_nil
  | cons c rest ih =>
    rw [segments] at listed
    split at listed
    · obtain rfl | later := List.mem_cons.1 listed
      · exact List.not_mem_nil
      · exact ih later
    · rename_i within
      split at listed
      · rename_i first others shape
        rw [shape] at ih
        obtain rfl | later := List.mem_cons.1 listed
        · rw [List.mem_cons, not_or]
          exact ⟨Ne.symm within, ih List.mem_cons_self⟩
        · exact ih (List.mem_cons_of_mem _ later)
      · rw [List.mem_singleton.1 listed, List.mem_singleton]
        exact Ne.symm within

theorem no_underscore_initialSegment {first : List Char} (plain : '_' ∉ first) (initial : InitialCase) :
    '_' ∉ initialSegment initial first := by
  cases first with
  | nil => exact List.not_mem_nil
  | cons c rest =>
    rw [List.mem_cons, not_or] at plain
    intro member
    obtain head | tail := List.mem_append.1 member
    · cases initial with
      | upper => exact plain.1 (eq_of_separator_mem_upper (by decide) head).symm
      | lower => exact plain.1 (eq_of_separator_mem_lower (by decide) head).symm
    · exact plain.2 tail

theorem no_underscore_capitalize {segment : List Char} (plain : '_' ∉ segment) : '_' ∉ capitalize segment := by
  cases segment with
  | nil => exact List.not_mem_nil
  | cons c rest =>
    rw [List.mem_cons, not_or] at plain
    intro member
    obtain head | tail := List.mem_append.1 member
    · exact plain.1 (eq_of_separator_mem_upper (by decide) head).symm
    · exact plain.2 (mem_of_separator_mem_lowerText (by decide) tail)

theorem no_underscore_camelize (initial : InitialCase) (key : List Char) : '_' ∉ camelize initial key := by
  rw [camelize]
  split
  · rename_i first later shape
    have plain : ∀ segment ∈ first :: later, '_' ∉ segment := fun segment listed =>
      no_underscore_of_mem_segments (shape ▸ listed)
    obtain ⟨first_plain, later_plain⟩ := List.forall_mem_cons.1 plain
    intro member
    obtain head | tail := List.mem_append.1 member
    · exact no_underscore_initialSegment first_plain initial head
    · obtain ⟨segment, listed, inside⟩ := List.mem_flatMap.1 tail
      exact no_underscore_capitalize (later_plain segment listed) inside
  · exact List.not_mem_nil

theorem camelize_of_no_underscore {key : List Char} (plain : '_' ∉ key) (initial : InitialCase) :
    camelize initial key = initialSegment initial key := by
  have single : key.splitOn '_' = [key] := by
    have joined := List.splitOn_intercalate '_' (List.forall_mem_singleton.2 plain) (List.cons_ne_nil key [])
    rwa [List.intercalate_singleton] at joined
  rw [camelize, segments_eq_splitOn, single]
  exact List.append_nil _

/-- The first segment is not empty, so that the first character again is one whose case is chosen. -/
theorem camelize_camelize {key : List Char} (ascii : ∀ c ∈ key, isAscii c = true) (starts : key.head? ≠ some '_')
    (initial : InitialCase) : camelize initial (camelize initial key) = camelize initial key := by
  rw [camelize_of_no_underscore (no_underscore_camelize initial key)]
  cases key with
  | nil => cases initial <;> rfl
  | cons c rest =>
    have within : c ≠ '_' := fun same => starts (congrArg some same)
    have low : isAscii c = true := ascii c List.mem_cons_self
    obtain ⟨first, later, shape⟩ : ∃ first later, segments (c :: rest) = (c :: first) :: later := by
      rw [segments, if_neg within]
      split
      · exact ⟨_, _, rfl⟩
      · exact ⟨_, _, rfl⟩
    rw [camelize, shape]
    cases initial with
    | upper =>
      simp [initialSegment, upper_of_ascii low, upper_of_ascii (isAscii_toUpper low)]
    | lower =>
      simp [initialSegment, lower_of_ascii low, lower_of_ascii (isAscii_toLower low)]

/-! ### underscore and dasherize -/

theorem mem_underscoreAfter {d : Char} {before : Option Char} {key : List Char}
    (member : d ∈ underscoreAfter before key) : d = '_' ∨ ∃ c ∈ key, c ≠ '-' ∧ d ∈ lower c := by
  induction key generalizing before with
  | nil => exact absurd member List.not_mem_nil
  | cons c rest ih =>
    have further : d ∈ underscoreAfter (some c) rest → d = '_' ∨ ∃ e ∈ c :: rest, e ≠ '-' ∧ d ∈ lower e := by
      intro later
      obtain boundary | ⟨e, listed, facts⟩ := ih later
      · exact .inl boundary
      · exact .inr ⟨e, List.mem_cons_of_mem c listed, facts⟩
    rw [underscoreAfter] at member
    split at member
    · obtain boundary | later := List.mem_cons.1 member
      · exact .inl boundary
      · exact further later
    · rename_i no_dash
      obtain here | later := List.mem_append.1 member
      · obtain boundary | lowered := List.mem_append.1 here
        · split at boundary
          · exact .inl (List.mem_singleton.1 boundary)
          · exact absurd boundary List.not_mem_nil
        · exact .inr ⟨c, List.mem_cons_self, no_dash, lowered⟩
      · exact further later

theorem plain_of_mem_underscore {d : Char} {key : List Char} (member : d ∈ underscore key) :
    d ≠ '-' ∧ d.isUpper = false := by
  obtain rfl | ⟨c, -, no_dash, lowered⟩ := mem_underscoreAfter member
  · exact ⟨by decide, by decide⟩
  · refine ⟨?_, isUpper_of_mem_lower lowered⟩
    rintro rfl
    exact no_dash (eq_of_separator_mem_lower (by decide) lowered)

theorem kept_of_mem_underscore {key : List Char} (ascii : ∀ c ∈ key, isAscii c = true) :
    ∀ d ∈ underscore key, Kept d := by
  intro d member
  obtain ⟨no_dash, no_capital⟩ := plain_of_mem_underscore member
  refine kept_of_ascii ?_ no_dash no_capital
  obtain rfl | ⟨c, listed, -, lowered⟩ := mem_underscoreAfter member
  · decide
  · rw [lower_of_ascii (ascii c listed), List.mem_singleton] at lowered
    rw [lowered]
    exact isAscii_toLower (ascii c listed)

theorem underscore_of_kept {key : List Char} (kept : ∀ c ∈ key, Kept c) : underscore key = key := by
  have whole := underscoreAfter_append_of_kept kept none []
  rwa [List.append_nil, underscoreAfter, List.append_nil] at whole

theorem dasherize_dasherize (key : List Char) : dasherize (dasherize key) = dasherize key := by
  rw [dasherize, dasherize, List.map_map]
  refine List.map_congr_left fun c _ => ?_
  by_cases boundary : c = '_' <;> simp [boundary]

end Stencil.Key

namespace Stencil.KeyTransform

open Key

theorem applyChars_applyChars {key : List Char} (ascii : ∀ c ∈ key, Text.isAscii c = true)
    (transform : KeyTransform) (starts : ∀ initial, transform = camelize initial → key.head? ≠ some '_') :
    transform.applyChars (transform.applyChars key) = transform.applyChars key := by
  cases transform with
  | identity => rfl
  | upcase => exact Text.upperText_upperText ascii
  | downcase => exact Text.lowerText_lowerText ascii
  | camelize initial => exact camelize_camelize ascii (starts initial rfl) initial
  | underscore => exact underscore_of_kept (kept_of_mem_underscore ascii)
  | dasherize => exact dasherize_dasherize key

/--
On an ASCII key a strategy changes nothing when it is applied again, `camelize` only if the key does not start with
an underscore. Whatever the key, no underscore is left by `camelize`, and no dash and no ASCII capital by
`underscore`.
-/
theorem strategies_settle (key : String) :
    ((∀ c ∈ key.toList, Text.isAscii c = true) →
      (∀ transform : KeyTransform, (∀ initial, transform = camelize initial → key.toList.head? ≠ some '_') →
        transform.apply (transform.apply key) = transform.apply key) ∧
      ∀ c ∈ (underscore.apply key).toList, Text.isUppercase c = false) ∧
    (∀ initial, '_' ∉ ((camelize initial).apply key).toList) ∧
    ∀ c ∈ (underscore.apply key).toList, c ≠ '-' ∧ c.isUpper = false := by
  simp only [apply, String.toList_ofList]
  refine ⟨fun ascii => ⟨fun transform starts => ?_, ?_⟩, fun initial => no_underscore_camelize initial key.toList, ?_⟩
  · rw [applyChars_applyChars ascii transform starts]
  · exact fun c member => (kept_of_mem_underscore ascii c member).no_capital
  · exact fun c member => plain_of_mem_underscore member

/-- Capitals, a dash and an underscore in one key. -/
theorem strategies_settle_mixed :
    underscore.apply "fooBar-baz_QUX9" = "foo_bar_baz_qux9" ∧
      (camelize .upper).apply "fooBar-baz_QUX9" = "FooBar-bazQux9" ∧
      ∀ transform : KeyTransform,
        transform.apply (transform.apply "fooBar-baz_QUX9") = transform.apply "fooBar-baz_QUX9" := by
  obtain ⟨on_ascii, -⟩ := strategies_settle "fooBar-baz_QUX9"
  obtain ⟨again, -⟩ := on_ascii (List.all_eq_true.1 (by decide +kernel))
  exact ⟨by decide +kernel, by decide +kernel, fun transform => again transform fun _ _ => by decide +kernel⟩

-- After a leading underscore the first segment is empty, so that `Id` is a first segment only the second time.
example : (camelize .lower).apply "_id" = "Id" ∧ (camelize .lower).apply "Id" = "id" := by decide +kernel

end Stencil.KeyTransform
