import Stencil.Toml.Reader
import Stencil.Toml.Text

/-!
# Strings read back

Whatever quotes the writer chooses for a text, the text is read back from them before anything that does not go on
with a quote (`Quoting.readStep_write`).
-/

namespace Stencil.Toml

/-! ### Characters between double quotes -/

/-- What stands for a character, other than a quote for itself. -/
inductive Stands (multiline : Bool) (c : Char) : List Char → Prop where
  | itself (quote : c ≠ '"') (slash : c ≠ '\\') (line : c ≠ '\r') (fits : isTextChar c ∨ multiline ∧ c = '\n') :
    Stands multiline c [c]
  | letter {e : Char} (known : escaped? e = some c) : Stands multiline c ['\\', e]
  | digits {high low : Char} (known : charOf? ['0', '0', high, low] = some c)
      (first : high ≠ '"' ∧ high ≠ '\\') (last : low ≠ '"' ∧ low ≠ '\\') :
    Stands multiline c ['\\', 'u', '0', '0', high, low]

theorem charOf?_digits : ∀ n < 128,
    let high := (Nat.digitChar (n / 16)).toUpper
    let low := (Nat.digitChar (n % 16)).toUpper
    charOf? ['0', '0', high, low] = some (Char.ofNat n) ∧
      (high ≠ '"' ∧ high ≠ '\\') ∧ low ≠ '"' ∧ low ≠ '\\' := by
  decide

theorem stands_of_escape? {multiline : Bool} {c : Char} {code : List Char} (escapes : escape? multiline c = some code) :
    Stands multiline c code := by
  unfold escape? at escapes
  repeat' split at escapes
  all_goals first | contradiction | obtain rfl := Option.some.inj escapes
  any_goals (subst_vars; exact .letter (by decide))
  -- Left are the characters that are written by their number, which is low.
  rename_i low
  obtain ⟨known, first, last⟩ := charOf?_digits c.toNat (by omega)
  rw [Char.ofNat_toNat] at known
  exact .digits known first last

theorem stands_for_itself {multiline : Bool} {c : Char} (quote : c ≠ '"') (plain : escape? multiline c = none) :
    Stands multiline c [c] := by
  have char : isTextChar c ∨ c.toNat < 32 ∨ c.toNat = 127 := by
    simp only [isTextChar, Bool.or_eq_true, Bool.and_eq_true, decide_eq_true_eq]
    omega
  unfold escape? at plain
  exact .itself quote (by grind) (by grind) (by grind)

/-- A quote stands for itself where few come before it, and every other character is coded. -/
theorem encode_cons (multiline : Bool) (quotes : Nat) (c : Char) (text : List Char) :
    (c = '"' ∧ multiline = true ∧ quotes < 2 ∧
      encode multiline quotes (c :: text) = '"' :: encode multiline (quotes + 1) text) ∨
    ∃ code, Stands multiline c code ∧ encode multiline quotes (c :: text) = code ++ encode multiline 0 text := by
  by_cases quote : c = '"'
  · by_cases few : multiline = true ∧ quotes < 2
    · exact .inl ⟨quote, few.1, few.2, by simp [encode, quote, few]⟩
    · exact .inr ⟨['\\', c], .letter (by subst quote; rfl), by rw [encode, if_pos quote, if_neg few]; rfl⟩
  · cases escapes : escape? multiline c with
    | none => exact .inr ⟨[c], stands_for_itself quote escapes, by simp [encode, quote, escapes]⟩
    | some code => exact .inr ⟨code, stands_of_escape? escapes, by simp [encode, quote, escapes]⟩

/-! ### What a body stands for -/

theorem decode_plain {multiline : Bool} {c : Char} (slash : c ≠ '\\') (line : c ≠ '\r')
    (fits : isTextChar c ∨ multiline ∧ c = '\n') {rest text : List Char}
    (later : decode multiline false rest = some text) :
    decode multiline false (c :: rest) = some (c :: text) := by
  rw [decode.eq_def]
  split <;> simp_all

theorem Stands.decode {multiline : Bool} {c : Char} {code : List Char} (stands : Stands multiline c code)
    {rest text : List Char} (later : decode multiline false rest = some text) :
    decode multiline false (code ++ rest) = some (c :: text) := by
  cases stands with
  | itself quote slash line fits => exact decode_plain slash line fits later
  | @letter e known =>
    have other : e ≠ 'x' ∧ e ≠ 'u' ∧ e ≠ 'U' := by
      refine ⟨?_, ?_, ?_⟩ <;> (rintro rfl; contradiction)
    show Toml.decode multiline false ('\\' :: e :: rest) = _
    rw [decode.eq_5 multiline false e rest (by simp_all) (by simp_all) (by simp_all)]
    simp [known, later]
  | digits known => simp [Toml.decode, known, later]

theorem decode_encode (multiline : Bool) (quotes : Nat) (text : List Char) :
    decode multiline false (encode multiline quotes text) = some text := by
  induction text generalizing quotes with
  | nil => rfl
  | cons c text ih =>
    obtain ⟨rfl, _, _, same⟩ | ⟨code, stands, same⟩ := encode_cons multiline quotes c text
    · rw [same]
      exact decode_plain (by decide) (by decide) (.inl rfl) (ih _)
    · rw [same]
      exact stands.decode (ih 0)

/-! ### Where a string ends -/

theorem basicBody_plain {c : Char} (quote : c ≠ '"') (slash : c ≠ '\\') {rest body after : List Char}
    (later : basicBody rest = some (body, after)) : basicBody (c :: rest) = some (c :: body, after) := by
  rw [basicBody.eq_def]
  split <;> simp_all

theorem Stands.basicBody {multiline : Bool} {c : Char} {code : List Char} (stands : Stands multiline c code)
    {rest body after : List Char} (later : basicBody rest = some (body, after)) :
    basicBody (code ++ rest) = some (code ++ body, after) := by
  cases stands with
  | itself quote slash => exact basicBody_plain quote slash later
  | letter => simp [Toml.basicBody, later]
  | @digits high low known first last =>
    have digits : Toml.basicBody ('0' :: '0' :: high :: low :: rest) =
        some ('0' :: '0' :: high :: low :: body, after) :=
      basicBody_plain (by decide) (by decide) (basicBody_plain (by decide) (by decide)
        (basicBody_plain first.1 first.2 (basicBody_plain last.1 last.2 later)))
    simp [Toml.basicBody, digits]

theorem basicBody_encode (text rest : List Char) :
    basicBody (encode false 0 text ++ '"' :: rest) = some (encode false 0 text, rest) := by
  induction text with
  | nil => rfl
  | cons c text ih =>
    obtain ⟨_, _, _, _⟩ | ⟨code, stands, same⟩ := encode_cons false 0 c text
    · contradiction
    · rw [same, List.append_assoc]
      exact stands.basicBody ih

section Lines

variable {quote : Char} {escapes : Bool} {quotes : Nat}

/-- No three quotes stand here if few quotes come before something else. -/
theorem multilineBody_quotes (few : quotes ≤ 2) {c : Char} (other : c ≠ quote) (slash : quote ≠ '\\')
    {rest body after : List Char} (later : multilineBody quote escapes (c :: rest) = some (body, after)) :
    multilineBody quote escapes (List.replicate quotes quote ++ c :: rest) =
      some (List.replicate quotes quote ++ body, after) := by
  obtain rfl | rfl | rfl : quotes = 0 ∨ quotes = 1 ∨ quotes = 2 := by omega
  · exact later
  · simp [multilineBody, List.isPrefixOf, slash, other.symm, later]
  · simp [multilineBody, List.isPrefixOf, slash, other.symm, later]

/-- Few quotes before the closing ones belong to the string. -/
theorem multilineBody_close (few : quotes ≤ 2) {rest : List Char} (ends : rest.head? ≠ some quote) :
    multilineBody quote escapes (List.replicate quotes quote ++ quote :: quote :: quote :: rest) =
      some (List.replicate quotes quote, rest) := by
  have last : ∀ n, (rest.take n).takeWhile (· = quote) = [] := by
    intro n
    cases n <;> cases rest <;> simp_all
  obtain rfl | rfl | rfl : quotes = 0 ∨ quotes = 1 ∨ quotes = 2 := by omega
  · simp [multilineBody, List.isPrefixOf, last]
  · simp [multilineBody, List.isPrefixOf, last]
  · simp [multilineBody, List.isPrefixOf]

theorem multilineBody_plain {c : Char} (other : c ≠ quote) (slash : escapes → c ≠ '\\') {rest body after : List Char}
    (later : multilineBody quote escapes rest = some (body, after)) :
    multilineBody quote escapes (c :: rest) = some (c :: body, after) := by
  rw [multilineBody.eq_def]
  cases escapes <;> simp_all [List.isPrefixOf, Ne.symm]

end Lines

theorem Stands.multilineBody {c : Char} {code : List Char} (stands : Stands true c code) {quotes : Nat}
    (few : quotes ≤ 2) {rest body after : List Char} (later : multilineBody '"' true rest = some (body, after)) :
    multilineBody '"' true (List.replicate quotes '"' ++ (code ++ rest)) =
      some (List.replicate quotes '"' ++ (code ++ body), after) := by
  have escaped : ∀ {e : Char} {rest body : List Char}, Toml.multilineBody '"' true rest = some (body, after) →
      Toml.multilineBody '"' true ('\\' :: e :: rest) = some ('\\' :: e :: body, after) := by
    intro e rest body later
    simp [Toml.multilineBody, List.isPrefixOf, later]
  cases stands with
  | itself quote slash =>
    exact multilineBody_quotes few quote (by decide) (multilineBody_plain quote (fun _ => slash) later)
  | letter => exact multilineBody_quotes few (by decide) (by decide) (escaped later)
  | @digits high low known first last =>
    refine multilineBody_quotes few (by decide) (by decide) (escaped ?_)
    exact multilineBody_plain (by decide) (by decide) (multilineBody_plain (by decide) (by decide)
      (multilineBody_plain first.1 (fun _ => first.2) (multilineBody_plain last.1 (fun _ => last.2) later)))

/-- The quotes just before come along, since only what follows tells whether they close the string. -/
theorem multilineBody_encode {quotes : Nat} (few : quotes ≤ 2) (text : List Char) {rest : List Char}
    (ends : rest.head? ≠ some '"') :
    multilineBody '"' true (List.replicate quotes '"' ++ (encode true quotes text ++ '"' :: '"' :: '"' :: rest)) =
      some (List.replicate quotes '"' ++ encode true quotes text, rest) := by
  induction text generalizing quotes with
  | nil =>
    rw [encode, List.append_nil]
    exact multilineBody_close few ends
  | cons c text ih =>
    obtain ⟨rfl, _, fewer, same⟩ | ⟨code, stands, same⟩ := encode_cons true quotes c text
    -- This quote may yet turn out to be one of those that close the string, so it joins those before it.
    · have more := @ih (quotes + 1) (by omega)
      rw [List.replicate_succ', List.append_assoc, List.append_assoc] at more
      rw [same]
      exact more
    · rw [same, List.append_assoc]
      exact stands.multilineBody few (@ih 0 (by omega))

/-! ### Runs of quotes -/

theorem le_longestRun (quote : Char) (run : Nat) (text : List Char) : run ≤ longestRun quote run text := by
  induction text generalizing run with
  | nil => exact Nat.le_refl run
  | cons c text ih =>
    unfold longestRun
    split
    · exact Nat.le_of_succ_le (ih (run + 1))
    · exact Nat.le_max_left ..

theorem notMem_of_longestRun {quote : Char} {text : List Char} (none : longestRun quote 0 text = 0) : quote ∉ text := by
  induction text with
  | nil => exact List.not_mem_nil
  | cons c text ih =>
    unfold longestRun at none
    split at none
    · have := le_longestRun quote (0 + 1) text
      omega
    · rename_i other
      rw [List.mem_cons, not_or]
      exact ⟨Ne.symm other, ih (by omega)⟩

/-- Without escapes, few quotes in a row do not close the string. -/
theorem multilineBody_raw {quote : Char} (slash : quote ≠ '\\') {quotes : Nat} {text : List Char}
    (few : longestRun quote quotes text ≤ 2) {rest : List Char} (ends : rest.head? ≠ some quote) :
    multilineBody quote false (List.replicate quotes quote ++ (text ++ quote :: quote :: quote :: rest)) =
      some (List.replicate quotes quote ++ text, rest) := by
  have before := le_longestRun quote quotes text
  induction text generalizing quotes with
  | nil =>
    rw [List.append_nil]
    exact multilineBody_close (by omega) ends
  | cons c text ih =>
    unfold longestRun at few
    split at few
    · rename_i same
      have more := ih few (le_longestRun ..)
      rw [List.replicate_succ', List.append_assoc, List.append_assoc] at more
      rw [same]
      exact more
    · rename_i other
      have later := @ih 0 (by omega) (Nat.zero_le _)
      exact multilineBody_quotes (by omega) other slash (multilineBody_plain other (by simp) later)

/-! ### The four ways -/

/-- Whether a text can be read back from between these quotes. -/
def Quoting.Fits (text : List Char) : Quoting → Prop
  | .basic | .basicLines => True
  | .literal => ∀ c ∈ text, isTextChar c ∧ c ≠ '\x27'
  | .literalLines => (∀ c ∈ text, isTextChar c ∨ c = '\n') ∧ longestRun '\x27' 0 text ≤ 2

theorem textChar_of_plain {c : Char} (plain : isControl c = false) : isTextChar c ∨ c = '\n' := by
  unfold isControl at plain
  unfold isTextChar
  grind

theorem Quoting.fits_ofText (text : List Char) : (ofText text).Fits text := by
  have plain : text.any isControl = false → ∀ c ∈ text, isTextChar c ∨ c = '\n' := fun none c member =>
    textChar_of_plain (by simpa using List.any_eq_false.1 none c member)
  unfold ofText
  dsimp only
  split
  · trivial
  · split
    · rename_i literal
      obtain ⟨none, single, lines⟩ := literal
      intro c member
      have line : c ≠ '\n' := by rintro rfl; simp_all
      have quote : c ≠ '\x27' := by rintro rfl; exact notMem_of_longestRun single member
      exact ⟨(plain (by simpa using none) c member).resolve_right line, quote⟩
    · split
      · trivial
      · split
        · rename_i literal
          exact ⟨plain (by simpa using literal.1), literal.2⟩
        · split <;> trivial

theorem Stands.head {multiline : Bool} {c : Char} {code : List Char} (stands : Stands multiline c code) :
    ∃ first rest, code = first :: rest ∧ (first = c ∨ first = '\\') ∧ first ≠ '"' ∧ first ≠ '\r' := by
  cases stands with
  | itself quote slash line => exact ⟨c, _, rfl, .inl rfl, quote, line⟩
  | letter | digits => exact ⟨'\\', _, rfl, .inr rfl, by decide, by decide⟩

theorem readDouble_encode (text : List Char) {rest : List Char} (ends : rest.head? ≠ some '"') :
    readDouble (encode false 0 text ++ '"' :: rest) = some (String.ofList text, rest) := by
  have single : readDouble (encode false 0 text ++ '"' :: rest) = readBasic (encode false 0 text ++ '"' :: rest) := by
    unfold readDouble
    split
    · rename_i more same
      cases text with
      | nil => simp_all [encode]
      | cons c text =>
        obtain ⟨_, _, _, _⟩ | ⟨code, stands, coded⟩ := encode_cons false 0 c text
        · contradiction
        · obtain ⟨first, others, rfl, _, quote, _⟩ := stands.head
          rw [coded] at same
          exact (quote (List.cons.inj same).1).elim
    · rfl
  rw [single, readBasic, basicBody_encode]
  simp [decode_encode]

theorem dropLineEnd_openingLine {text body : List Char}
    (same : '\n' ∉ text → body.head? ≠ some '\n' ∧ body.head? ≠ some '\r') :
    dropLineEnd (openingLine text ++ body) = body := by
  unfold openingLine
  split
  · rfl
  · rename_i line
    obtain ⟨first, second⟩ := same (by simpa using line)
    unfold dropLineEnd
    split <;> simp_all

theorem readDouble_lines (text : List Char) {rest : List Char} (ends : rest.head? ≠ some '"') :
    readDouble ('"' :: '"' :: (openingLine text ++ (encode true 0 text ++ '"' :: '"' :: '"' :: rest))) =
      some (String.ofList text, rest) := by
  have body : multilineBody '"' true (openingLine text ++ (encode true 0 text ++ '"' :: '"' :: '"' :: rest)) =
      some (openingLine text ++ encode true 0 text, rest) := by
    have later := multilineBody_encode (Nat.zero_le 2) text ends
    rw [List.replicate_zero, List.nil_append, List.nil_append] at later
    unfold openingLine
    split
    · exact multilineBody_plain (by decide) (by decide) later
    · exact later
  have dropped : dropLineEnd (openingLine text ++ encode true 0 text) = encode true 0 text := by
    refine dropLineEnd_openingLine fun line => ?_
    cases text with
    | nil => simp [encode]
    | cons c text =>
      obtain ⟨rfl, _, _, same⟩ | ⟨code, stands, same⟩ := encode_cons true 0 c text
      · simp [same]
      · obtain ⟨first, others, rfl, char, _, other⟩ := stands.head
        have next : first ≠ '\n' := by
          rintro rfl
          obtain rfl | _ := char
          · exact line List.mem_cons_self
          · contradiction
        simp [same, next, other]
  rw [readDouble, readBasicLines, body]
  simp [dropped, decode_encode]

theorem readSingle_literal {text : List Char} (fits : ∀ c ∈ text, isTextChar c ∧ c ≠ '\x27') {rest : List Char}
    (ends : rest.head? ≠ some '\x27') :
    readSingle (text ++ '\x27' :: rest) = some (String.ofList text, rest) := by
  have chars : ∀ c ∈ text, (isTextChar c && decide (c ≠ '\x27')) = true := fun c member => by simp [fits c member]
  have single : readSingle (text ++ '\x27' :: rest) = readLiteral (text ++ '\x27' :: rest) := by
    unfold readSingle
    split
    · rename_i more same
      cases text with
      | nil => simp_all
      | cons c text => exact ((fits c List.mem_cons_self).2 (List.cons.inj same).1).elim
    · rfl
  rw [single, readLiteral, List.dropWhile_append_of_pos chars, List.takeWhile_append_of_pos chars]
  simp

theorem isLiteralLines_of_chars {text : List Char} (fits : ∀ c ∈ text, isTextChar c ∨ c = '\n') :
    isLiteralLines text = true := by
  induction text with
  | nil => rfl
  | cons c text ih =>
    obtain ⟨first, others⟩ := List.forall_mem_cons.1 fits
    unfold isLiteralLines
    split
    · rfl
    · obtain ⟨rfl, rfl⟩ := List.cons.inj ‹_ :: _ = _›
      simp [isTextChar] at first
    · obtain ⟨rfl, rfl⟩ := List.cons.inj ‹_ :: _ = _›
      simp [first, ih others]

theorem readSingle_lines {text : List Char} (fits : ∀ c ∈ text, isTextChar c ∨ c = '\n')
    (few : longestRun '\x27' 0 text ≤ 2) {rest : List Char} (ends : rest.head? ≠ some '\x27') :
    readSingle ('\x27' :: '\x27' :: (openingLine text ++ (text ++ '\x27' :: '\x27' :: '\x27' :: rest))) =
      some (String.ofList text, rest) := by
  have body : multilineBody '\x27' false (openingLine text ++ (text ++ '\x27' :: '\x27' :: '\x27' :: rest)) =
      some (openingLine text ++ text, rest) := by
    have later := multilineBody_raw (by decide) few ends
    rw [List.replicate_zero, List.nil_append, List.nil_append] at later
    unfold openingLine
    split
    · exact multilineBody_plain (by decide) (by decide) later
    · exact later
  have lines : isLiteralLines (openingLine text ++ text) = true := by
    refine isLiteralLines_of_chars fun c member => ?_
    unfold openingLine at member
    split at member
    · obtain rfl | later := List.mem_cons.1 member
      · exact .inr rfl
      · exact fits c later
    · exact fits c member
  have dropped : dropLineEnd (openingLine text ++ text) = text := by
    refine dropLineEnd_openingLine fun line => ?_
    cases text with
    | nil => simp
    | cons c text =>
      have next : c ≠ '\n' := by
        rintro rfl
        exact line List.mem_cons_self
      have other : c ≠ '\r' := by
        rintro rfl
        simpa [isTextChar] using fits '\r' List.mem_cons_self
      simp [next, other]
  rw [readSingle, readLiteralLines, body]
  simp [lines, dropped]

/-- A text is read back from whichever quotes fit. -/
theorem Quoting.readStep_write {text : List Char} (quoting : Quoting) (fits : quoting.Fits text) (fuel : Nat)
    (nested : Option (Reader Value)) {rest : List Char} (double : rest.head? ≠ some '"')
    (single : rest.head? ≠ some '\x27') :
    readStep fuel nested (quoting.write text ++ rest) = some (.text (String.ofList text), rest) := by
  cases quoting with
  | basic =>
    have read := readDouble_encode text double
    simp [write, readStep, read]
  | literal =>
    have read := readSingle_literal fits single
    simp [write, readStep, read]
  | basicLines =>
    have read := readDouble_lines text double
    simp [write, readStep, read]
  | literalLines =>
    have read := readSingle_lines fits.1 fits.2 single
    simp [write, readStep, read]

theorem readStep_writeString (text : String) (fuel : Nat) (nested : Option (Reader Value)) {rest : List Char}
    (double : rest.head? ≠ some '"') (single : rest.head? ≠ some '\x27') :
    readStep fuel nested (writeString text ++ rest) = some (.text text, rest) := by
  rw [writeString, (Quoting.ofText text.toList).readStep_write (Quoting.fits_ofText _) fuel nested double single,
    String.ofList_toList]

end Stencil.Toml
