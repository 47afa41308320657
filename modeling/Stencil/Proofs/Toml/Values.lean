import Mathlib.Data.List.TakeWhile
import Stencil.Proofs.Json.Tokens
import Stencil.Proofs.Toml.Strings

/-!
# Values read back

Flags, integers of 128 bits, texts, and arrays of such values that are not nested too deep are read back before the end
of a line, a comma or a bracket (`readValue_write`).
-/

namespace Stencil.Toml

/-! ### Integers -/

theorem hasLeadingZero_toDigits (n : Nat) : hasLeadingZero (Nat.toDigits 10 n) = false := by
  unfold hasLeadingZero
  split
  · rename_i second rest same
    obtain rfl : n = 0 := Json.eq_zero_of_leading_zero (by rw [same]; rfl)
    cases same
  · rfl

theorem dropUnderscores?_of_notMem {isDigit : Char → Bool} {text : List Char} (none : '_' ∉ text) (after : Bool) :
    dropUnderscores? isDigit after text = some text := by
  induction text generalizing after with
  | nil => rfl
  | cons c text ih =>
    rw [List.mem_cons, not_or] at none
    rw [dropUnderscores?.eq_3 isDigit after c text (by rintro _ _ rfl; exact (none.1 rfl).elim), ih none.2]
    simp [Ne.symm none.1]

theorem mem_of_splitSign {text : List Char} {c : Char} (member : c ∈ text) :
    c ∈ (splitSign text).2 ∨ c = '-' ∨ c = '+' := by
  unfold splitSign
  split <;> simp_all <;> grind

theorem scalar?_of_digits {text digits : List Char} (sign : (splitSign text).2 = digits) (nonempty : digits ≠ [])
    (all : ∀ c ∈ digits, c.isDigit) (leading : hasLeadingZero digits = false) : scalar? text = decimal? text := by
  have number : number? text digits = decimal? text := by
    have whole : digits.dropWhile Char.isDigit = [] := List.dropWhile_eq_nil_iff.2 all
    simp [number?, whole, nonempty, leading]
  have letter : ∀ c ∈ text, c.isDigit ∨ c = '-' ∨ c = '+' := by
    intro c member
    exact (mem_of_splitSign member).imp_left (by rw [sign]; exact all c)
  unfold scalar?
  rw [sign]
  split
  · simp_all
  · split
    · simp_all
    · split
      · simp at all
      · simp at all
      · split
        · simp at letter
        · simp at letter
        · simp at letter
        · exact number

theorem decimal?_of_signed {text digits : List Char} {negative : Bool} (sign : splitSign text = (negative, digits))
    (nonempty : digits ≠ []) (all : ∀ c ∈ digits, c.isDigit) :
    decimal? text = some (.ofInteger text
      (some (if negative then -(Nat.ofDigitChars 10 digits 0 : Int) else Nat.ofDigitChars 10 digits 0))) := by
  have joined : '_' ∉ text := by
    intro member
    obtain digit | sign | sign := mem_of_splitSign member
    · rw [sign] at digit
      exact absurd (all _ digit) (by decide)
    · contradiction
    · contradiction
  have number : signedNumber? text =
      some (if negative then -(Nat.ofDigitChars 10 digits 0 : Int) else Nat.ofDigitChars 10 digits 0) := by
    simp only [signedNumber?, sign]
    rw [if_pos ⟨nonempty, List.all_eq_true.2 all⟩]
  rw [decimal?, joinDigits?, dropUnderscores?_of_notMem joined]
  simp [number]

theorem splitSign_toDigits (n : Nat) : splitSign (Nat.toDigits 10 n) = (false, Nat.toDigits 10 n) := by
  have digits := Json.isDigit_toDigits n
  unfold splitSign
  split
  · simp_all
  · simp_all
  · rfl

theorem splitSign_writeInteger (n : Int) :
    splitSign (writeInteger n) = (decide (n < 0), Nat.toDigits 10 n.natAbs) := by
  cases n with
  | ofNat n => simp [writeInteger, splitSign_toDigits]
  | negSucc n => simp [writeInteger, splitSign, Int.negSucc_lt_zero]

theorem scalar?_writeInteger {n : Int} (low : -Int.pow 2 127 ≤ n) (high : n < Int.pow 2 128) :
    scalar? (writeInteger n) = some (.integer n) := by
  have sign := splitSign_writeInteger n
  have digits := Json.isDigit_toDigits n.natAbs
  have nonempty : Nat.toDigits 10 n.natAbs ≠ [] := Nat.toDigits_ne_nil
  have value : (if decide (n < 0) = true then -(n.natAbs : Int) else n.natAbs) = n := by
    split
    · rename_i negative
      have := of_decide_eq_true negative
      omega
    · rename_i other
      have : ¬n < 0 := fun negative => other (decide_eq_true negative)
      omega
  rw [scalar?_of_digits (congrArg Prod.snd sign) nonempty digits (hasLeadingZero_toDigits _),
    decimal?_of_signed sign nonempty digits, Nat.ofDigitChars_ten_toDigits, value, Value.ofInteger, if_pos ⟨low, high⟩]

/-! ### Scalars -/

/-- A text does not go on with such a character. -/
def Stops (inside : Char → Bool) (rest : List Char) : Prop := ∀ c ∈ rest.head?, inside c = false

section Stops

variable {inside : Char → Bool}

theorem stops_cons {c : Char} (other : inside c = false) (rest : List Char) : Stops inside (c :: rest) := by
  intro first member
  obtain rfl := Option.some.inj member
  exact other

variable {rest : List Char} (stops : Stops inside rest)

include stops

theorem Stops.head_ne {c : Char} (goes : inside c) : rest.head? ≠ some c := by
  intro same
  rw [stops c same] at goes
  contradiction

theorem Stops.takeWhile {run : List Char} (all : ∀ c ∈ run, inside c) : (run ++ rest).takeWhile inside = run := by
  rw [List.takeWhile_append_of_pos all]
  cases rest with
  | nil => exact List.append_nil run
  | cons c rest => simp [stops c rfl]

theorem Stops.dropWhile {run : List Char} (all : ∀ c ∈ run, inside c) : (run ++ rest).dropWhile inside = rest := by
  rw [List.dropWhile_append_of_pos all]
  cases rest with
  | nil => rfl
  | cons c rest => simp [stops c rfl]

end Stops

/-- The characters that a value may go on with, a time behind its date included. -/
def isInValue (c : Char) : Bool := isScalarChar c || c = ' '

/-- A value may end before this text. -/
abbrev Ends (rest : List Char) : Prop := Stops isInValue rest

theorem splitScalar_run {run rest : List Char} (chars : ∀ c ∈ run, isScalarChar c) (ends : Ends rest) :
    splitScalar (run ++ rest) = (run, rest) := by
  have stops : Stops isScalarChar rest := fun c member => (Bool.or_eq_false_iff.1 (ends c member)).1
  unfold splitScalar
  dsimp only
  rw [stops.takeWhile chars, stops.dropWhile chars]
  split
  · exact (ends.head_ne (c := ' ') rfl rfl).elim
  · rfl

theorem readStep_scalar {run rest : List Char} {value : Value} (nonempty : run ≠ [])
    (chars : ∀ c ∈ run, isScalarChar c ∧ c ≠ '"' ∧ c ≠ '\x27') (known : scalar? run = some value) (ends : Ends rest)
    (fuel : Nat) (nested : Option (Reader Value)) : readStep fuel nested (run ++ rest) = some (value, rest) := by
  have scalar := splitScalar_run (fun c member => (chars c member).1) ends
  obtain ⟨c, others, rfl⟩ := List.exists_cons_of_ne_nil nonempty
  obtain ⟨first, double, single⟩ := chars c List.mem_cons_self
  have table : c ≠ '\x7b' := by rintro rfl; contradiction
  have array : c ≠ '[' := by rintro rfl; contradiction
  rw [List.cons_append] at scalar ⊢
  unfold readStep
  split
  · simp_all
  · simp_all
  · simp_all
  · simp_all
  · rw [scalar]
    simp [known]

theorem readStep_writeFlag (flag : Bool) {rest : List Char} (ends : Ends rest) (fuel : Nat)
    (nested : Option (Reader Value)) : readStep fuel nested (writeFlag flag ++ rest) = some (.flag flag, rest) := by
  cases flag <;> exact readStep_scalar (by decide) (by simp [writeFlag, isScalarChar]) rfl ends fuel nested

theorem readStep_writeInteger {n : Int} (low : -Int.pow 2 127 ≤ n) (high : n < Int.pow 2 128) {rest : List Char}
    (ends : Ends rest) (fuel : Nat) (nested : Option (Reader Value)) :
    readStep fuel nested (writeInteger n ++ rest) = some (.integer n, rest) := by
  have digits : (splitSign (writeInteger n)).2 = Nat.toDigits 10 n.natAbs :=
    congrArg Prod.snd (splitSign_writeInteger n)
  refine readStep_scalar (fun empty => ?_) (fun c member => ?_) (scalar?_writeInteger low high) ends fuel nested
  · rw [empty] at digits
    exact Nat.toDigits_ne_nil digits.symm
  · obtain digit | rfl | rfl := mem_of_splitSign member
    · rw [digits] at digit
      have char := Json.isDigit_toDigits _ c digit
      have other : ∀ d, d.isDigit = false → c ≠ d := by
        rintro d none rfl
        simp [char] at none
      simp [isScalarChar, other]
    · decide
    · decide

/-! ### Arrays -/

/-- What stands between the items of an array, or starts a comment there. -/
def isFiller (c : Char) : Bool := isBlank c || c = '\n' || c = '\r' || c = '#'

theorem skipFiller_cons {c : Char} (other : isFiller c = false) (rest : List Char) :
    skipFiller false (c :: rest) = c :: rest := by
  simp only [isFiller, Bool.or_eq_false_iff, decide_eq_false_iff_not] at other
  rw [skipFiller.eq_def]
  split <;> simp_all

theorem skipFiller_blanks {blanks : List Char} (all : ∀ c ∈ blanks, isBlank c) (rest : List Char) :
    skipFiller false (blanks ++ rest) = skipFiller false rest := by
  induction blanks with
  | nil => rfl
  | cons c blanks ih =>
    obtain ⟨first, others⟩ := List.forall_mem_cons.1 all
    have line : c ≠ '\n' ∧ c ≠ '\r' := by
      refine ⟨?_, ?_⟩ <;> (rintro rfl; contradiction)
    rw [List.cons_append, skipFiller.eq_def]
    split <;> simp_all

theorem skipFiller_line {blanks : List Char} (all : ∀ c ∈ blanks, isBlank c) (rest : List Char) :
    skipFiller false ('\n' :: (blanks ++ rest)) = skipFiller false rest := by
  rw [skipFiller, skipFiller_blanks all]

/-- What an item of an array has to be: not empty, and not a closing bracket at first sight. -/
def StartsItem (text : List Char) : Prop := ∃ c rest, text = c :: rest ∧ isFiller c = false ∧ c ≠ ']'

section Items

variable {item : Reader Value} {value : Value} {text rest : List Char} {fuel : Nat}

/-- An item is read, and what comes behind it decides how the array goes on. -/
theorem readItems_item (starts : StartsItem text) {c : Char}
    (reads : item (text ++ c :: rest) = some (value, c :: rest))
    (other : isFiller c = false) :
    readItems item ']' (fuel + 1) (text ++ c :: rest) =
      if c = ']' then some ([value], rest)
      else if c = ',' then do
        let (items, rest) ← readItems item ']' fuel rest
        return (value :: items, rest)
      else none := by
  obtain ⟨first, more, rfl, solid, open'⟩ := starts
  rw [readItems, List.cons_append, skipFiller_cons solid]
  rw [List.cons_append] at reads
  simp [open', reads, skipFiller_cons other]

theorem readItems_close (fuel : Nat) (closes : skipFiller false text = ']' :: rest) :
    readItems item ']' (fuel + 1) text = some ([], rest) := by
  simp [readItems, closes]

theorem readItems_congr {other : List Char} (same : skipFiller false text = skipFiller false other) (fuel : Nat) :
    readItems item ']' fuel text = readItems item ']' fuel other := by
  cases fuel with
  | zero => rfl
  | succ fuel => rw [readItems, readItems, same]

/-- Items in lines of their own are read one after the other, up to the bracket in the line after them. -/
theorem readItems_writeItems {blanks : List Char} (all : ∀ c ∈ blanks, isBlank c) {items : List Value}
    (starts : ∀ value ∈ items, StartsItem (value.write blanks))
    (reads : ∀ value ∈ items, ∀ rest, Ends rest → item (value.write blanks ++ rest) = some (value, rest))
    {after : List Char} (closes : skipFiller false after = ']' :: rest) (enough : items.length < fuel) :
    readItems item ']' fuel (writeItems blanks items ++ after) = some (items, rest) := by
  induction items generalizing fuel with
  | nil =>
    -- Behind the last comma the bracket is met, which takes one step more than there are items.
    cases fuel with
    | zero => contradiction
    | succ fuel =>
      rw [writeItems]
      exact readItems_close fuel closes
  | cons value items ih =>
    obtain ⟨startsFirst, startsOthers⟩ := List.forall_mem_cons.1 starts
    obtain ⟨readsFirst, readsOthers⟩ := List.forall_mem_cons.1 reads
    cases fuel with
    | zero => contradiction
    | succ fuel =>
      have later := ih startsOthers readsOthers (Nat.lt_of_succ_lt_succ enough)
      have line : skipFiller false (writeItems blanks (value :: items) ++ after) =
          skipFiller false (value.write blanks ++ ',' :: (writeItems blanks items ++ after)) := by
        simp only [writeItems, List.append_assoc, List.cons_append]
        exact skipFiller_line all _
      rw [readItems_congr line, readItems_item startsFirst (readsFirst _ (stops_cons rfl _)) rfl]
      simp [later]

end Items

/-! ### Values -/

/-- Whether a value can be read back from where at most `depth` arrays may be nested. -/
def Value.Legible : Nat → Value → Prop
  | _, .flag _ => True
  | _, .text _ => True
  | _, .integer n => -Int.pow 2 127 ≤ n ∧ n < Int.pow 2 128
  | depth + 1, .array items => ∀ item ∈ items, item.Legible depth
  | _, _ => False

theorem write_lines (blanks : List Char) (first second : Value) (others : List Value) :
    (Value.array (first :: second :: others)).write blanks =
      '[' :: (writeItems (blanks ++ indentation) (first :: second :: others) ++ '\n' :: (blanks ++ [']'])) := by
  rw [Value.write]
  · simp
  · simp
  · simp

theorem exists_write_array (blanks : List Char) (items : List Value) :
    ∃ text, (Value.array items).write blanks = '[' :: text := by
  match items with
  | [] | [_] =>
    rw [Value.write]
    exact ⟨_, rfl⟩
  | _ :: _ :: _ => exact ⟨_, write_lines ..⟩

theorem startsItem_writeInteger (n : Int) : StartsItem (writeInteger n) := by
  cases n with
  | ofNat n =>
    obtain ⟨c, rest, same⟩ := List.exists_cons_of_ne_nil (Nat.toDigits_ne_nil (b := 10) (n := n))
    have digit : c.isDigit := Json.isDigit_toDigits n c (by simp [same])
    have other : ∀ d, d.isDigit = false → c ≠ d := by
      rintro d none rfl
      simp [digit] at none
    exact ⟨c, rest, same, by simp [isFiller, isBlank, other], by simp [other]⟩
  | negSucc n => exact ⟨'-', _, rfl, rfl, by decide⟩

theorem Quoting.startsItem_write (text : List Char) (quoting : Quoting) : StartsItem (quoting.write text) := by
  cases quoting with
  | basic | basicLines => exact ⟨'"', _, rfl, rfl, by decide⟩
  | literal | literalLines => exact ⟨'\x27', _, rfl, rfl, by decide⟩

theorem Value.Legible.startsItem {depth : Nat} {value : Value} (legible : value.Legible depth) (blanks : List Char) :
    StartsItem (value.write blanks) := by
  cases value with
  | flag flag =>
    rw [Value.write]
    cases flag with
    | true => exact ⟨'t', _, rfl, rfl, by decide⟩
    | false => exact ⟨'f', _, rfl, rfl, by decide⟩
  | integer n =>
    rw [Value.write]
    exact startsItem_writeInteger n
  | text text =>
    rw [Value.write]
    exact Quoting.startsItem_write ..
  | array items =>
    obtain ⟨text, same⟩ := exists_write_array blanks items
    exact ⟨'[', text, same, rfl, by decide⟩
  | other | badNumber | inline => cases depth <;> cases legible

theorem length_le_writeItems (blanks : List Char) (items : List Value) :
    items.length ≤ (writeItems blanks items).length := by
  induction items with
  | nil => exact Nat.zero_le _
  | cons item items ih =>
    simp only [writeItems, List.length_cons, List.length_append]
    omega

theorem length_write_le_writeItems (blanks : List Char) {items : List Value} {item : Value} (member : item ∈ items) :
    (item.write blanks).length ≤ (writeItems blanks items).length := by
  induction items with
  | nil => contradiction
  | cons first items ih =>
    simp only [writeItems, List.length_cons, List.length_append]
    obtain rfl | later := List.mem_cons.1 member
    · omega
    · have := ih later
      omega

theorem Value.Legible.scalar_or_array {depth : Nat} {value : Value} (legible : value.Legible (depth + 1)) :
    value.Legible 0 ∨ ∃ items, value = .array items ∧ ∀ item ∈ items, item.Legible depth := by
  cases value with
  | flag | text | integer => exact .inl legible
  | array items => exact .inr ⟨items, rfl, legible⟩
  | other | badNumber | inline => cases legible

theorem readStep_write {value : Value} (legible : value.Legible 0) (blanks : List Char) {rest : List Char}
    (ends : Ends rest) (fuel : Nat) (nested : Option (Reader Value)) :
    readStep fuel nested (value.write blanks ++ rest) = some (value, rest) := by
  cases value with
  | flag flag =>
    rw [Value.write]
    exact readStep_writeFlag flag ends fuel nested
  | integer n =>
    rw [Value.write]
    exact readStep_writeInteger legible.1 legible.2 ends fuel nested
  | text text =>
    rw [Value.write]
    exact readStep_writeString text fuel nested (ends.head_ne rfl) (ends.head_ne rfl)
  | array | other | badNumber | inline => cases legible

theorem readStep_array {items : List Value} (starts : ∀ item ∈ items, ∀ blanks, StartsItem (item.write blanks))
    {fuel : Nat} {nested : Reader Value}
    (reads : ∀ item ∈ items, ∀ {blanks}, (∀ c ∈ blanks, isBlank c) → (item.write blanks).length ≤ fuel →
      ∀ rest, Ends rest → nested (item.write blanks ++ rest) = some (item, rest))
    {blanks : List Char} (all : ∀ c ∈ blanks, isBlank c) (enough : ((Value.array items).write blanks).length ≤ fuel)
    (rest : List Char) :
    readStep fuel (some nested) ((Value.array items).write blanks ++ rest) = some (.array items, rest) := by
  have opened : ∀ {text : List Char}, readItems nested ']' fuel text = some (items, rest) →
      readStep fuel (some nested) ('[' :: text) = some (.array items, rest) := by
    intro text read
    simp [readStep, read]
  obtain ⟨fuel, rfl⟩ : ∃ more, fuel = more + 1 := by
    obtain ⟨text, same⟩ := exists_write_array blanks items
    rw [same, List.length_cons] at enough
    exact ⟨fuel - 1, by omega⟩
  obtain _ | ⟨item, _ | ⟨second, others⟩⟩ := items
  · rw [Value.write]
    exact opened (readItems_close fuel rfl)
  · rw [Value.write, List.length_append, List.length_cons] at enough
    have read := reads item List.mem_cons_self all (by omega) (']' :: rest) (stops_cons rfl rest)
    rw [Value.write, List.append_assoc]
    exact opened ((readItems_item (starts item List.mem_cons_self blanks) read rfl).trans rfl)
  · have more : ∀ c ∈ blanks ++ indentation, isBlank c :=
      List.forall_mem_append.2 ⟨all, by simp [indentation, isBlank]⟩
    have number := length_le_writeItems (blanks ++ indentation) (item :: second :: others)
    rw [write_lines, List.length_cons, List.length_append] at enough
    rw [write_lines, List.cons_append, List.append_assoc]
    refine opened (readItems_writeItems more (fun item member => starts item member _)
      (fun item member => reads item member more ?_) ?_ (by omega))
    · have := length_write_le_writeItems (blanks ++ indentation) member
      omega
    · rw [List.cons_append, List.append_assoc]
      exact skipFiller_line all _

/-- A value is read back before whatever may come behind a value. -/
theorem readValue_write {depth : Nat} {value : Value} (legible : value.Legible depth) {blanks : List Char}
    (all : ∀ c ∈ blanks, isBlank c) {fuel : Nat} (enough : (value.write blanks).length ≤ fuel) {rest : List Char}
    (ends : Ends rest) : readValue fuel depth (value.write blanks ++ rest) = some (value, rest) := by
  induction depth generalizing value blanks rest with
  | zero => exact readStep_write legible blanks ends fuel none
  | succ depth ih =>
    rw [readValue]
    obtain scalar | ⟨items, rfl, legible⟩ := legible.scalar_or_array
    · exact readStep_write scalar blanks ends fuel _
    · exact readStep_array (fun item member => (legible item member).startsItem)
        (fun item member _ blank short _ behind => ih (legible item member) blank short behind) all enough rest

end Stencil.Toml
