import Stencil.Json.Reader

/-!
# Numbers and strings read back

An integer of 64 bits is read back from its digits if no character of a number follows
(`readNumber_integerChars`), and a string from its quoted form before any text (`readQuoted_quoted`).
-/

namespace Stencil.Json

def isNumberChar (c : Char) : Bool :=
  c.isDigit || c = '-' || c = '+' || c = '.' || c = 'e' || c = 'E'

/-- No number goes on with this text. -/
def Ends (rest : List Char) : Prop := ∀ c ∈ rest.head?, isNumberChar c = false

theorem ends_nil : Ends [] := by
  intro c member
  contradiction

theorem ends_cons {c : Char} {rest : List Char} (other : isNumberChar c = false) : Ends (c :: rest) := by
  intro first member
  obtain rfl := Option.some.inj member
  exact other

theorem isDigit_toDigits (n : Nat) : ∀ c ∈ Nat.toDigits 10 n, c.isDigit :=
  fun _ member => Nat.isDigit_of_mem_toDigits (by omega) (by omega) member

theorem eq_zero_of_leading_zero {n : Nat} (leading : (Nat.toDigits 10 n).head? = some '0') : n = 0 := by
  induction n using Nat.strongRecOn with
  | _ n ih =>
    by_cases small : n < 10
    · rw [Nat.toDigits_of_lt_base small] at leading
      have zero : ∀ digit < 10, digit.digitChar = '0' → digit = 0 := by decide
      exact zero n small (Option.some.inj leading)
    · rw [Nat.toDigits_of_base_le (by omega) (by omega), List.head?_append] at leading
      have nonempty := Nat.toDigits_ne_nil (n := n / 10) (b := 10)
      cases digits : Nat.toDigits 10 (n / 10) with
      | nil => contradiction
      | cons first rest =>
        rw [digits] at leading
        have zero := ih (n / 10) (by omega) (by rw [digits]; exact leading)
        omega

/-! ### Characters of numbers -/

theorem isNumberChar_of_isDigit {c : Char} (digit : c.isDigit) : isNumberChar c := by
  simp [isNumberChar, digit]

theorem sign_or_digit_of_mem {value : Int} {c : Char} (member : c ∈ Number.integerChars value) :
    c = '-' ∨ c.isDigit := by
  have digits := isDigit_toDigits value.natAbs
  unfold Number.integerChars at member
  split at member
  · exact (List.mem_cons.1 member).imp_right (digits c)
  · exact .inr (digits c member)

theorem isNumberChar_integerChars (value : Int) : ∀ c ∈ Number.integerChars value, isNumberChar c := by
  intro c member
  rcases sign_or_digit_of_mem member with rfl | digit
  · rfl
  · exact isNumberChar_of_isDigit digit

theorem integerChars_ne_nil (value : Int) : Number.integerChars value ≠ [] := by
  unfold Number.integerChars
  split
  · exact List.cons_ne_nil _ _
  · exact Nat.toDigits_ne_nil

theorem isDigit_significantDigits (n : Nat) :
    ∀ c ∈ Number.Binary64.significantDigits n, c.isDigit := by
  intro c member
  unfold Number.Binary64.significantDigits at member
  have kept := List.dropWhile_subset _ (List.mem_reverse.1 member)
  exact isDigit_toDigits n c (List.mem_reverse.1 kept)

theorem isNumberChar_layOut {digits : List Char} (all : ∀ c ∈ digits, c.isDigit) (exponent : Int) :
    ∀ c ∈ Number.Binary64.layOut digits exponent, isNumberChar c := by
  have number : ∀ c ∈ digits, isNumberChar c := fun c member => isNumberChar_of_isDigit (all c member)
  have power : ∀ c ∈ Nat.toDigits 10 exponent.natAbs, isNumberChar c := fun c member =>
    isNumberChar_of_isDigit (isDigit_toDigits _ c member)
  have zero : isNumberChar '0' := rfl
  have point : isNumberChar '.' := rfl
  intro c member
  unfold Number.Binary64.layOut at member
  split at member
  · dsimp only at member
    rcases List.mem_append.1 member with mantissa | marked
    · split at mantissa
      · simp only [List.mem_cons] at mantissa number
        grind
      · exact number c mantissa
    · have plus : isNumberChar '+' := rfl
      have minus : isNumberChar '-' := rfl
      have letter : isNumberChar 'e' := rfl
      simp only [List.mem_cons] at marked
      grind
  · split at member
    · simp only [List.mem_cons, List.cons_append, List.mem_append, List.mem_replicate] at member
      grind
    · dsimp only at member
      split at member
      · simp only [List.mem_cons, List.mem_append, List.mem_replicate, List.not_mem_nil, or_false] at member
        grind
      · rcases List.mem_append.1 member with whole | later
        · exact number c (List.mem_of_mem_take whole)
        · rcases List.mem_cons.1 later with rfl | part
          · rfl
          · exact number c (List.mem_of_mem_drop part)

theorem point_or_exponent_mem_layOut (digits : List Char) (exponent : Int) :
    '.' ∈ Number.Binary64.layOut digits exponent ∨ 'e' ∈ Number.Binary64.layOut digits exponent := by
  unfold Number.Binary64.layOut
  split
  · exact .inr (by simp)
  · refine .inl ?_
    split
    · simp
    · dsimp only
      split <;> simp

theorem isNumberChar_text (x : Number.Binary64) : ∀ c ∈ x.text, isNumberChar c := by
  have minus : isNumberChar '-' := rfl
  have signed : ∀ c ∈ (if x.isNegative then ['-'] else []), isNumberChar c := by
    intro c member
    split at member
    · rw [List.mem_singleton.1 member]
      rfl
    · contradiction
  intro c member
  unfold Number.Binary64.text at member
  dsimp only at member
  split at member
  · rcases List.mem_append.1 member with sign | zero
    · exact signed c sign
    · simp only [List.mem_cons, List.not_mem_nil, or_false] at zero
      rcases zero with rfl | rfl | rfl <;> rfl
  · rcases List.mem_append.1 member with sign | laidOut
    · exact signed c sign
    · exact isNumberChar_layOut (isDigit_significantDigits _) _ c laidOut

theorem point_or_exponent_mem_text (x : Number.Binary64) : '.' ∈ x.text ∨ 'e' ∈ x.text := by
  unfold Number.Binary64.text
  dsimp only
  split
  · exact .inl (by simp)
  · rcases point_or_exponent_mem_layOut (Number.Binary64.significantDigits x.shortest.1)
      (x.shortest.2 + ((Nat.toDigits 10 x.shortest.1).length : Int) - 1) with point | letter
    · exact .inl (List.mem_append_right _ point)
    · exact .inr (List.mem_append_right _ letter)

theorem isNumberChar_chars (number : Number) : ∀ c ∈ number.chars, isNumberChar c := by
  cases number with
  | int value => exact isNumberChar_integerChars value
  | float x => exact isNumberChar_text x

theorem chars_ne_nil (number : Number) : number.chars ≠ [] := by
  cases number with
  | int value => exact integerChars_ne_nil value
  | float x =>
    intro empty
    have text : x.text = [] := empty
    have marked := point_or_exponent_mem_text x
    rw [text] at marked
    rcases marked with point | letter <;> contradiction

theorem exists_chars_eq_cons (number : Number) :
    ∃ c tail, number.chars = c :: tail ∧ isNumberChar c = true := by
  obtain ⟨c, tail, written⟩ := List.exists_cons_of_ne_nil (chars_ne_nil number)
  exact ⟨c, tail, written, isNumberChar_chars number c (by rw [written]; exact List.mem_cons_self)⟩

/-! ### Numbers -/

section Numbers

variable {rest : List Char} (ends : Ends rest)

include ends

theorem takeWhile_digits {digits : List Char} (all : ∀ c ∈ digits, c.isDigit) :
    (digits ++ rest).takeWhile Char.isDigit = digits := by
  rw [List.takeWhile_append_of_pos all]
  cases rest with
  | nil => simp
  | cons c rest =>
    have other := ends c rfl
    have digit : c.isDigit = false := by simp_all [isNumberChar]
    simp [digit]

theorem dropWhile_digits {digits : List Char} (all : ∀ c ∈ digits, c.isDigit) :
    (digits ++ rest).dropWhile Char.isDigit = rest := by
  rw [List.dropWhile_append_of_pos all]
  cases rest with
  | nil => rfl
  | cons c rest =>
    have other := ends c rfl
    have digit : c.isDigit = false := by simp_all [isNumberChar]
    simp [digit]

theorem wholeDigits_toDigits (n : Nat) :
    wholeDigits (Nat.toDigits 10 n ++ rest) = .ok (Nat.toDigits 10 n) := by
  unfold wholeDigits
  rw [takeWhile_digits ends (isDigit_toDigits n)]
  split
  · rename_i empty
    exact absurd empty Nat.toDigits_ne_nil
  · rename_i second tail digits
    have zero := eq_zero_of_leading_zero (n := n) (by rw [digits]; rfl)
    rw [zero] at digits
    simp at digits
  · rfl

theorem readFraction_of_ends : readFraction rest = .ok (none, rest) := by
  unfold readFraction
  split
  · have other := ends '.' rfl
    simp [isNumberChar] at other
  · rfl

theorem readExponent_of_ends : readExponent rest = .ok (none, rest) := by
  cases rest with
  | nil => rfl
  | cons c rest =>
    have other := ends c rfl
    have letter : ¬(c = 'e' ∨ c = 'E') := by
      rintro (rfl | rfl) <;> simp [isNumberChar] at other
    simp [readExponent, letter]

theorem readUnsigned_toDigits {negative : Bool} {n : Nat} {number : Number}
    (integer : readInteger negative (Nat.toDigits 10 n) = .ok number) :
    readUnsigned negative (Nat.toDigits 10 n ++ rest) = .ok (number, rest) := by
  unfold readUnsigned
  rw [wholeDigits_toDigits ends, dropWhile_digits ends (isDigit_toDigits n)]
  simp [bind, Except.bind, readFraction_of_ends ends, readExponent_of_ends ends, integer]
  rfl

theorem readNumber_integerChars {value : Int} (inRange : (Number.int value).InRange) :
    readNumber (Number.integerChars value ++ rest) = .ok (.int value, rest) := by
  obtain ⟨low, high⟩ := inRange
  unfold Number.integerChars
  split
  · rename_i negative
    refine readUnsigned_toDigits ends ?_
    unfold readInteger
    rw [Nat.ofDigitChars_ten_toDigits]
    simp only [if_true]
    rw [if_pos ⟨by omega, by omega⟩]
    congr
    omega
  · rename_i nonnegative
    have positive : readInteger false (Nat.toDigits 10 value.natAbs) = .ok (.int value) := by
      unfold readInteger
      rw [Nat.ofDigitChars_ten_toDigits]
      simp only [Bool.false_eq_true, if_false]
      rw [if_pos (by omega)]
      congr
      omega
    have digits := isDigit_toDigits value.natAbs
    unfold readNumber
    split
    · rename_i tail same
      cases written : Nat.toDigits 10 value.natAbs with
      | nil => exact absurd written Nat.toDigits_ne_nil
      | cons first others =>
        rw [written] at same digits
        have sign : first = '-' := (List.cons.inj same).1
        have digit := digits first List.mem_cons_self
        rw [sign] at digit
        contradiction
    · exact readUnsigned_toDigits ends positive

/-! #### What is left of a number -/

omit ends in
theorem ok_of_bind {ε α β : Type} {first : Except ε α} {next : α → Except ε β} {result : β}
    (ran : (first >>= next) = .ok result) : ∃ value, first = .ok value ∧ next value = .ok result := by
  cases first with
  | error fault => contradiction
  | ok value => exact ⟨value, rfl, ran⟩

/-- Before the rest, the text has characters of a number at most. -/
def Leaves (rest text : List Char) : Prop := ∃ left, text = left ++ rest ∧ ∀ c ∈ left, isNumberChar c

omit ends in
theorem leaves_self : Leaves rest rest := ⟨[], rfl, nofun⟩

theorem Leaves.tail {c : Char} {text : List Char} (leaves : Leaves rest (c :: text)) (number : isNumberChar c) :
    Leaves rest text := by
  obtain ⟨left, same, all⟩ := leaves
  cases left with
  | nil =>
    have head : rest.head? = some c := congrArg List.head? same.symm
    exact Bool.noConfusion (number.symm.trans (ends c head))
  | cons first left =>
    obtain ⟨rfl, rfl⟩ := List.cons.inj same
    exact ⟨left, rfl, fun c member => all c (List.mem_cons_of_mem _ member)⟩

theorem Leaves.dropWhile {text : List Char} (leaves : Leaves rest text) :
    Leaves rest (text.dropWhile Char.isDigit) := by
  induction text with
  | nil => exact leaves
  | cons c text ih =>
    rw [List.dropWhile_cons]
    split
    · rename_i digit
      exact ih (leaves.tail ends (isNumberChar_of_isDigit digit))
    · exact leaves

theorem leaves_readFraction {text after : List Char} {part : Option (List Char)} (leaves : Leaves rest text)
    (read : readFraction text = .ok (part, after)) : Leaves rest after := by
  unfold readFraction at read
  split at read
  · split at read
    · contradiction
    · obtain ⟨-, rfl⟩ := Prod.mk.inj (Except.ok.inj read)
      exact (leaves.tail ends rfl).dropWhile ends
  · obtain ⟨-, rfl⟩ := Prod.mk.inj (Except.ok.inj read)
    exact leaves

theorem leaves_exponentSign {text : List Char} (leaves : Leaves rest text) :
    Leaves rest (exponentSign text).2 := by
  unfold exponentSign
  split
  · exact leaves.tail ends rfl
  · exact leaves.tail ends rfl
  · exact leaves

theorem leaves_readExponent {text after : List Char} {exponent : Option Int} (leaves : Leaves rest text)
    (read : readExponent text = .ok (exponent, after)) : Leaves rest after := by
  unfold readExponent at read
  split at read
  · rename_i c behind
    split at read
    · rename_i letter
      have number : isNumberChar c := by
        rcases letter with rfl | rfl <;> rfl
      dsimp only at read
      split at read
      · contradiction
      · obtain ⟨-, rfl⟩ := Prod.mk.inj (Except.ok.inj read)
        exact (leaves_exponentSign ends (leaves.tail ends number)).dropWhile ends
    · obtain ⟨-, rfl⟩ := Prod.mk.inj (Except.ok.inj read)
      exact leaves
  · obtain ⟨-, rfl⟩ := Prod.mk.inj (Except.ok.inj read)
    exact leaves

theorem leaves_readUnsigned {negative : Bool} {text after : List Char} {number : Number}
    (leaves : Leaves rest text) (read : readUnsigned negative text = .ok (number, after)) :
    Leaves rest after := by
  unfold readUnsigned at read
  obtain ⟨whole, -, read⟩ := ok_of_bind read
  obtain ⟨⟨part, behindPoint⟩, fraction, read⟩ := ok_of_bind read
  obtain ⟨⟨power, behindPower⟩, exponent, read⟩ := ok_of_bind read
  have behind : behindPower = after := by
    dsimp only at read
    split at read
    all_goals
      obtain ⟨value, -, read⟩ := ok_of_bind read
      exact (Prod.mk.inj (Except.ok.inj read)).2
  rw [← behind]
  exact leaves_readExponent ends (leaves_readFraction ends (leaves.dropWhile ends) fraction) exponent

/-- Whatever a number's text is read as, nothing that is behind the number is read with it. -/
theorem leaves_readNumber {text after : List Char} {number : Number} (leaves : Leaves rest text)
    (read : readNumber text = .ok (number, after)) : Leaves rest after := by
  unfold readNumber at read
  split at read
  · exact leaves_readUnsigned ends (leaves.tail ends rfl) read
  · exact leaves_readUnsigned ends leaves read

end Numbers

theorem chars_inj {one other : Number} {rest rest' : List Char} (ends : Ends rest) (ends' : Ends rest')
    (same : one.chars ++ rest = other.chars ++ rest') : one.chars = other.chars ∧ rest = rest' := by
  have stops : ∀ {text : List Char}, Ends text → text.takeWhile isNumberChar = [] := by
    intro text ends
    cases text with
    | nil => rfl
    | cons c text => rw [List.takeWhile_cons_of_neg (by simp [ends c rfl])]
  have taken := congrArg (List.takeWhile isNumberChar) same
  rw [List.takeWhile_append_of_pos (isNumberChar_chars one), stops ends, List.append_nil,
    List.takeWhile_append_of_pos (isNumberChar_chars other), stops ends', List.append_nil] at taken
  rw [taken] at same
  exact ⟨taken, List.append_cancel_left same⟩

theorem integerChars_inj {one other : Int}
    (same : Number.integerChars one = Number.integerChars other) : one = other := by
  have digits : ∀ {n m : Nat}, Nat.toDigits 10 n = Nat.toDigits 10 m → n = m := by
    intro n m same
    rw [← Nat.ofDigitChars_ten_toDigits (n := n), same, Nat.ofDigitChars_ten_toDigits]
  have sign : ∀ {n : Nat} {tail : List Char}, Nat.toDigits 10 n ≠ '-' :: tail := by
    intro n tail same
    have digit := isDigit_toDigits n '-' (by rw [same]; exact List.mem_cons_self)
    contradiction
  unfold Number.integerChars at same
  split at same <;> split at same
  · have size := digits (List.cons.inj same).2
    omega
  · exact absurd same.symm sign
  · exact absurd same sign
  · have size := digits same
    omega

theorem number_inj {number : Number} {value : Int} (same : number.chars = Number.integerChars value) :
    number = .int value := by
  cases number with
  | int other => rw [integerChars_inj same]
  | float x =>
    have digits : ∀ c ∈ x.text, c = '-' ∨ c.isDigit := by
      intro c member
      have text : x.text = Number.integerChars value := same
      rw [text] at member
      exact sign_or_digit_of_mem member
    rcases point_or_exponent_mem_text x with point | letter
    · exact absurd (digits _ point) (by decide)
    · exact absurd (digits _ letter) (by decide)

/-! ### Strings -/

theorem hexNumber?_hexDigits :
    ∀ n < 32, Text.hexNumber? ['0', '0', hexDigit (n / 16), hexDigit n] = some n := by
  decide

theorem readQuoted_escapeChar (c : Char) (done rest : List Char) :
    readQuoted none done (escapeChar c ++ rest) = readQuoted none (c :: done) rest := by
  unfold escapeChar
  split
  · subst c
    rfl
  split
  · subst c
    rfl
  split
  · subst c
    rfl
  split
  · subst c
    rfl
  split
  · subst c
    rfl
  split
  · subst c
    rfl
  split
  · subst c
    rfl
  split
  · rename_i control
    have number := hexNumber?_hexDigits c.toNat control
    have high : isHighSurrogate c.toNat = false := by
      simp [isHighSurrogate]
      omega
    have low : isLowSurrogate c.toNat = false := by
      simp [isLowSurrogate]
      omega
    rw [List.cons_append, List.cons_append, List.cons_append, List.cons_append, List.cons_append,
      List.singleton_append, readQuoted.eq_def]
    simp [number, high, low]
  · rename_i quote backslash _ _ _ _ _ printable
    rw [List.singleton_append, readQuoted.eq_def]
    split
    · contradiction
    · rename_i same
      exact absurd (List.cons.inj same).1 backslash
    · rename_i same
      obtain ⟨rfl, rfl⟩ := List.cons.inj same
      rw [if_neg (by simp), if_neg quote, if_neg backslash, if_neg printable]

theorem readQuoted_escaped (text done rest : List Char) :
    readQuoted none done (text.flatMap escapeChar ++ '"' :: rest) =
      .ok (String.ofList (done.reverse ++ text), rest) := by
  induction text generalizing done with
  | nil =>
    rw [List.flatMap_nil, List.nil_append, readQuoted.eq_def]
    simp
  | cons c text ih =>
    rw [List.flatMap_cons, List.append_assoc, readQuoted_escapeChar, ih, List.reverse_cons,
      List.append_assoc, List.singleton_append]

theorem readQuoted_quoted (text : String) (rest : List Char) :
    ∃ body, quoted text ++ rest = '"' :: body ∧ readQuoted none [] body = .ok (text, rest) := by
  refine ⟨text.toList.flatMap escapeChar ++ '"' :: rest, ?_, ?_⟩
  · simp [quoted]
  · rw [readQuoted_escaped]
    simp

theorem quoted_inj {one other : String} {rest rest' : List Char}
    (same : quoted one ++ rest = quoted other ++ rest') : one = other ∧ rest = rest' := by
  obtain ⟨body, written, read⟩ := readQuoted_quoted one rest
  obtain ⟨body', written', read'⟩ := readQuoted_quoted other rest'
  rw [written, written'] at same
  rw [(List.cons.inj same).2, read'] at read
  exact ⟨(Prod.mk.inj (Except.ok.inj read)).1.symm, (Prod.mk.inj (Except.ok.inj read)).2.symm⟩

end Stencil.Json
