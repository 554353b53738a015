import Mathlib.Data.List.TakeDrop
import Cabinet.Json.Node
import Cabinet.Json.Printer

/-!
# Numbers and strings in a text

A natural number in decimal digits and a string in quotes are scanned as what they
stand for, up to where they end. A number ends before any character that it could not
go on with, a string at its closing quote.
-/

namespace Cabinet.Json

namespace NumberText

/-- A number cannot go on with what follows. -/
def Stops (rest : List Char) : Prop :=
  ∀ c ∈ rest.head?, c.isDigit = false ∧ c ≠ '.' ∧ c ≠ 'e' ∧ c ≠ 'E'

theorem digitsValue_toDigits (size : Nat) : digitsValue (Nat.toDigits 10 size) = size :=
  Nat.ofDigitChars_toDigits (by decide) (by decide)

theorem isDigit_of_mem {size : Nat} {c : Char} (digit : c ∈ Nat.toDigits 10 size) :
    c.isDigit = true :=
  Nat.isDigit_of_mem_toDigits (by decide) (by decide) digit

/-- Every number begins with a digit. -/
theorem exists_digit (size : Nat) :
    ∃ digit others, Nat.toDigits 10 size = digit :: others ∧ digit.isDigit = true := by
  cases digits : Nat.toDigits 10 size with
  | nil => exact absurd digits Nat.toDigits_ne_nil
  | cons digit others => exact ⟨digit, others, rfl, isDigit_of_mem (digits ▸ List.mem_cons_self)⟩

/-- The digits of a number do not begin with zero, unless it is zero. -/
theorem eq_zero_of_head {size : Nat} (zero : (Nat.toDigits 10 size).head? = some '0') :
    size = 0 := by
  have digit : ∀ size < 10, [size.digitChar].head? = some '0' → size = 0 := by decide
  induction size using Nat.strongRecOn with
  | ind size ih =>
      by_cases small : size < 10
      · rw [Nat.toDigits_of_lt_base small] at zero
        exact digit size small zero
      · rw [Nat.toDigits_of_base_le (by decide) (Nat.le_of_not_lt small),
          List.head?_append, Option.or_of_isSome (by simp)] at zero
        have front : size / 10 = 0 := ih (size / 10) (by omega) zero
        omega

theorem scanDigits_append {digits rest : List Char} (some : digits ≠ [])
    (all : ∀ c ∈ digits, c.isDigit = true) (stops : Stops rest) :
    scanDigits (digits ++ rest) = .done digits rest := by
  have behind : rest.takeWhile Char.isDigit = [] ∧ rest.dropWhile Char.isDigit = rest := by
    cases rest with
    | nil => exact ⟨rfl, rfl⟩
    | cons c rest =>
        obtain ⟨other, -⟩ := stops c rfl
        rw [List.takeWhile_cons, List.dropWhile_cons, other]
        exact ⟨rfl, rfl⟩
  have cut : (digits ++ rest).span Char.isDigit = (digits, rest) := by
    rw [List.span_eq_takeWhile_dropWhile, List.takeWhile_append_of_pos all,
      List.dropWhile_append_of_pos all, behind.1, behind.2, List.append_nil]
  rw [scanDigits, cut]
  cases digits with
  | nil => exact absurd rfl some
  | cons digit digits => rfl

theorem scanWhole_toDigits (size : Nat) {rest : List Char} (stops : Stops rest) :
    scanWhole (Nat.toDigits 10 size ++ rest) = .done (Nat.toDigits 10 size) rest := by
  rw [scanWhole, scanDigits_append Nat.toDigits_ne_nil (fun _ => isDigit_of_mem) stops]
  split
  · rename_i second others _ zero
    injection zero with zero _
    have head : (Nat.toDigits 10 size).head? = some '0' := by rw [zero]; rfl
    rw [eq_zero_of_head head] at zero
    cases zero
  · rfl

theorem scanFraction_of_stops {rest : List Char} (stops : Stops rest) :
    scanFraction rest = .done none rest := by
  unfold scanFraction
  split
  · exact absurd rfl (stops '.' rfl).2.1
  · rfl

theorem scanExponent_of_stops {rest : List Char} (stops : Stops rest) :
    scanExponent rest = .done none rest := by
  unfold scanExponent
  split
  · rename_i mark rest
    obtain ⟨-, -, small, large⟩ := stops mark rfl
    exact if_neg (not_or.mpr ⟨small, large⟩)
  · rfl

/-- The digits of a number are scanned as this number. -/
theorem scan_toDigits (size : Nat) {rest : List Char} (stops : Stops rest) :
    scan (Nat.toDigits 10 size ++ rest) = .done ⟨false, Nat.toDigits 10 size, none, none⟩ rest := by
  have unsigned : ∀ others, Nat.toDigits 10 size ++ rest ≠ '-' :: others := by
    intro others signed
    obtain ⟨digit, _, digits, isDigit⟩ := exists_digit size
    rw [digits] at signed
    cases signed
    cases isDigit
  rw [scan]
  · simp only [scanWhole_toDigits size stops, scanFraction_of_stops stops,
      scanExponent_of_stops stops]
  · exact unsigned

theorem value_digits {size : Nat} (fits : size < wordBound) :
    value ⟨false, Nat.toDigits 10 size, none, none⟩ = .ok (.integer size) := by
  simp [value, digitsValue_toDigits, fits]

end NumberText

namespace StringText

/-- The digits of an escaped control character give it back. -/
theorem hexValue?_lowerDigits {code : Nat} (control : code < 32) :
    hexValue? ['0', '0', lowerDigit (code / 16), lowerDigit (code % 16)] = some code := by
  revert code
  decide

theorem not_surrogate {code : Nat} (control : code < 32) :
    isTrailing code = false ∧ isLeading code = false := by
  revert code
  decide

/-- How a character is written: with a letter that stands for it, by its code, or as it is. -/
inductive Escaped (c : Char) : List Char → Prop where
  | letter {letter : Char} (known : simpleEscape? letter = some c) (other : letter ≠ 'u') :
      Escaped c ['\x5c', letter]
  | code (control : c.toNat < 32) :
      Escaped c ['\x5c', 'u', '0', '0', lowerDigit (c.toNat / 16), lowerDigit (c.toNat % 16)]
  | plain (inner : c ≠ '\x22') (shown : c ≠ '\x5c') (high : ¬ c < ' ') : Escaped c [c]

theorem escaped (c : Char) : Escaped c (escapeChar c) := by
  unfold escapeChar
  -- Seven characters have a letter of their own.
  iterate 7
    split
    · rename_i same
      subst same
      exact .letter rfl (by decide)
  split
  · rename_i control
    exact .code control
  · rename_i inner shown _ _ _ _ _ high
    exact .plain inner shown high

/-- A character is read as it was written. -/
theorem read_escapeChar (done : List Char) (c : Char) (rest : List Char) :
    read done (escapeChar c ++ rest) = read (c :: done) rest := by
  have form := escaped c
  generalize escapeChar c = written at form
  cases form with
  | letter known other => simp [read, known, other]
  | code control =>
      obtain ⟨trailing, leading⟩ := not_surrogate control
      simp [read, hexValue?_lowerDigits control, trailing, leading]
  | plain inner shown high => simp [read, shown, high]

theorem skip_escapeChar (c : Char) (rest : List Char) :
    skip (escapeChar c ++ rest) = skip rest := by
  have form := escaped c
  generalize escapeChar c = written at form
  cases form with
  | letter known other => simp [skip, known, other]
  | code control => simp [skip, hexValue?_lowerDigits control]
  | plain inner shown high => simp [skip, shown, high]

/-- A string from behind its opening quote on, with what follows it. -/
def body (text : String) (rest : List Char) : List Char :=
  text.toList.flatMap escapeChar ++ '\x22' :: rest

theorem quoted_append (text : String) (rest : List Char) :
    quoted text ++ rest = '\x22' :: body text rest := by
  rw [quoted, body, List.cons_append, List.cons_append, List.append_assoc, List.singleton_append]

/-- A string in quotes is read as what it stands for, up to its closing quote. -/
theorem read_quoted (done text rest : List Char) :
    read done (text.flatMap escapeChar ++ '\x22' :: rest) = .ok (done.reverse ++ text) := by
  induction text generalizing done with
  | nil => rw [List.flatMap_nil, List.nil_append, List.append_nil, read]
  | cons c text ih =>
      rw [List.flatMap_cons, List.append_assoc, read_escapeChar, ih, List.reverse_cons,
        List.append_assoc, List.singleton_append]

theorem skip_quoted (text rest : List Char) :
    skip (text.flatMap escapeChar ++ '\x22' :: rest) = .ok rest := by
  induction text with
  | nil => rw [List.flatMap_nil, List.nil_append, skip]
  | cons c text ih => rw [List.flatMap_cons, List.append_assoc, skip_escapeChar, ih]

theorem value_body (text : String) (rest : List Char) : value (body text rest) = .ok text := by
  rw [value, body, read_quoted]
  exact congrArg Except.ok text.ofList_toList

theorem skip_body (text : String) (rest : List Char) : skip (body text rest) = .ok rest :=
  skip_quoted text.toList rest

/-- A digit stands for itself. -/
theorem escapeChar_digit {c : Char} (digit : c.isDigit = true) : escapeChar c = [c] := by
  have form := escaped c
  generalize escapeChar c = written at form
  cases form with
  | letter known other =>
      unfold simpleEscape? at known
      split at known <;> cases known <;> cases digit
  | code control =>
      have low : 48 ≤ c.toNat := by
        simp only [Char.isDigit, Bool.and_eq_true, decide_eq_true_eq] at digit
        exact digit.1
      omega
  | plain inner shown high => rfl

theorem flatMap_escapeChar {digits : List Char} (all : ∀ c ∈ digits, c.isDigit = true) :
    digits.flatMap escapeChar = digits := by
  induction digits with
  | nil => rfl
  | cons digit digits ih =>
      obtain ⟨first, others⟩ := List.forall_mem_cons.mp all
      rw [List.flatMap_cons, escapeChar_digit first, ih others, List.singleton_append]

end StringText

namespace Key

theorem scanNumber_toDigits {size : Nat} (fits : size < NumberText.wordBound) (rest : List Char) :
    scanNumber (Nat.toDigits 10 size ++ '\x22' :: rest) = .ok (.integer size, true) := by
  have stops : NumberText.Stops ('\x22' :: rest) := by simp [NumberText.Stops]
  have scanned := NumberText.scan_toDigits size stops
  have value := NumberText.value_digits fits
  obtain ⟨digit, others, digits, isDigit⟩ := NumberText.exists_digit size
  rw [digits] at scanned value
  rw [digits, List.cons_append]
  rw [List.cons_append] at scanned
  rw [scanNumber, if_pos (Or.inl isDigit), scanned]
  simp only [value]
  rfl

end Key

end Cabinet.Json
