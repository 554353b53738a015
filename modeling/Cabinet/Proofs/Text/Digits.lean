import Cabinet.Text.Ascii
import Mathlib.Data.List.Induction

/-!
# Numbers in digits

A text stands for a number if it is the number in decimal digits, with any zeros in
front. A byte is read from such a text if the number is small enough, and a plus sign
in front of all that makes no difference.
-/

namespace Cabinet.Text

theorem isDigit_of_digitsFrom {value number : Nat} {text : List Char}
    (read : digitsFrom value text = some number) : ∀ c ∈ text, c.isDigit = true := by
  induction text generalizing value with
  | nil => exact List.forall_mem_nil _
  | cons c rest ih =>
      rw [digitsFrom] at read
      cases digit : c.isDigit with
      | false =>
          rw [digit] at read
          cases read
      | true =>
          rw [digit] at read
          exact List.forall_mem_cons.mpr ⟨digit, ih read⟩

/-- Digits are read as what they add to the value so far. -/
theorem digitsFrom_of_isDigit {text : List Char} (digits : ∀ c ∈ text, c.isDigit = true)
    (value : Nat) : digitsFrom value text = some (Nat.ofDigitChars 10 text value) := by
  induction text generalizing value with
  | nil => rfl
  | cons c rest ih =>
      obtain ⟨digit, digits⟩ := List.forall_mem_cons.mp digits
      rw [digitsFrom, if_pos digit, ih digits, Nat.ofDigitChars_cons]
      rfl

theorem digitChar_of_isDigit {c : Char} (digit : c.isDigit = true) :
    c.toNat - 48 < 10 ∧ Nat.digitChar (c.toNat - 48) = c := by
  obtain ⟨above, below⟩ := Char.isDigit_iff_toNat.mp digit
  have low : 48 ≤ c.toNat := above
  have high : c.toNat ≤ 57 := below
  have small : c.toNat - 48 < 10 := by omega
  refine ⟨small, Char.toNat_inj.mp ?_⟩
  rw [Nat.toNat_digitChar_of_lt_ten small]
  omega

/-- One more digit behind a number; the digit of zero becomes one more zero in front. -/
theorem exists_zeros_concat (zeros value : Nat) {digit : Nat} (small : digit < 10) :
    ∃ more, List.replicate zeros '0' ++ Nat.toDigits 10 value ++ Nat.toDigits 10 digit =
      List.replicate more '0' ++ Nat.toDigits 10 (10 * value + digit) := by
  cases value with
  | zero =>
      refine ⟨zeros + 1, ?_⟩
      rw [Nat.toDigits_zero, List.replicate_succ', Nat.mul_zero, Nat.zero_add]
  | succ less =>
      refine ⟨zeros, ?_⟩
      rw [List.append_assoc,
        Nat.toDigits_append_toDigits (by decide) (Nat.succ_pos less) small]

/-- Digits are those of the number that they stand for, behind zeros. -/
theorem exists_zeros {text : List Char} (some : text ≠ [])
    (digits : ∀ c ∈ text, c.isDigit = true) :
    ∃ zeros, text = List.replicate zeros '0' ++ Nat.toDigits 10 (Nat.ofDigitChars 10 text 0) := by
  induction text using List.reverseRecOn with
  | nil => exact absurd rfl some
  | append_singleton front c ih =>
      obtain ⟨frontDigits, last⟩ := List.forall_mem_append.mp digits
      obtain ⟨small, char⟩ := digitChar_of_isDigit (last c List.mem_cons_self)
      have single : Nat.toDigits 10 (c.toNat - 48) = [c] := by
        rw [Nat.toDigits_of_lt_base small, char]
      have value : Nat.ofDigitChars 10 (front ++ [c]) 0 =
          10 * Nat.ofDigitChars 10 front 0 + (c.toNat - 48) :=
        List.foldl_append
      rw [value]
      cases front with
      | nil =>
          refine ⟨0, ?_⟩
          exact single.symm.trans (congrArg (Nat.toDigits 10) (Nat.zero_add _).symm)
      | cons first others =>
          obtain ⟨zeros, read⟩ := ih (List.cons_ne_nil _ _) frontDigits
          obtain ⟨more, longer⟩ :=
            exists_zeros_concat zeros (Nat.ofDigitChars 10 (first :: others) 0) small
          rw [← read, single] at longer
          exact ⟨more, longer⟩

theorem isDigit_behind_zeros (zeros number : Nat) :
    ∀ c ∈ List.replicate zeros '0' ++ Nat.toDigits 10 number, c.isDigit = true := by
  intro c inside
  rcases List.mem_append.mp inside with zero | digit
  · rw [List.eq_of_mem_replicate zero]
    rfl
  · exact Nat.isDigit_of_mem_toDigits (by decide) (by decide) digit

theorem ofDigitChars_zeros (zeros : Nat) (text : List Char) :
    Nat.ofDigitChars 10 (List.replicate zeros '0' ++ text) 0 = Nat.ofDigitChars 10 text 0 := by
  induction zeros with
  | zero => rfl
  | succ zeros ih => exact ih

/-- A number is read from its digits with any zeros in front, and from nothing else. -/
theorem natural?_eq_some_iff {text : List Char} {number : Nat} :
    natural? text = some number ↔
      ∃ zeros, text = List.replicate zeros '0' ++ Nat.toDigits 10 number := by
  constructor
  · intro read
    cases text with
    | nil => cases read
    | cons c rest =>
        have digits := isDigit_of_digitsFrom read
        obtain ⟨zeros, written⟩ := exists_zeros (List.cons_ne_nil c rest) digits
        have value := (digitsFrom_of_isDigit digits 0).symm.trans read
        rw [Option.some_inj.mp value] at written
        exact ⟨zeros, written⟩
  · rintro ⟨zeros, rfl⟩
    have some : (List.replicate zeros '0' ++ Nat.toDigits 10 number).isEmpty = false := by
      rw [List.isEmpty_eq_false_iff]
      exact List.append_ne_nil_of_right_ne_nil _ Nat.toDigits_ne_nil
    rw [natural?, some, if_neg Bool.false_ne_true,
      digitsFrom_of_isDigit (isDigit_behind_zeros zeros number), ofDigitChars_zeros,
      Nat.ofDigitChars_toDigits (by decide) (by decide)]

/-- A plus sign in front is dropped, and nothing else is. -/
theorem dropPlus_eq_iff {text digits : List Char} (plain : digits.head? ≠ some '+') :
    dropPlus text = digits ↔ text = digits ∨ text = '+' :: digits := by
  unfold dropPlus
  split
  · rename_i rest
    constructor
    · rintro rfl
      exact Or.inr rfl
    · rintro (rfl | same)
      · exact absurd rfl plain
      · exact List.tail_eq_of_cons_eq same
  · rename_i signless
    constructor
    · exact Or.inl
    · rintro (same | rfl)
      · exact same
      · exact absurd rfl (signless digits)

theorem head?_ne_plus (zeros number : Nat) :
    (List.replicate zeros '0' ++ Nat.toDigits 10 number).head? ≠ some '+' := by
  intro plus
  have inside := List.mem_of_mem_head? (Option.mem_def.mpr plus)
  exact absurd (isDigit_behind_zeros zeros number _ inside) (by decide)

/-- A byte is read from its digits, with any zeros and at most one plus sign in front. -/
theorem byte?_eq_some_iff {text : List Char} {value : UInt8} :
    byte? text = some value ↔ ∃ sign zeros, (sign = [] ∨ sign = ['+']) ∧
      text = sign ++ List.replicate zeros '0' ++ Nat.toDigits 10 value.toNat := by
  have number : byte? text = some value ↔ natural? (dropPlus text) = some value.toNat := by
    unfold byte?
    cases natural? (dropPlus text) with
    | none => exact iff_of_false nofun nofun
    | some number =>
        dsimp only
        rw [Option.some_inj]
        by_cases small : number < UInt8.size
        · rw [if_pos small, Option.some_inj, ← UInt8.toNat_inj, UInt8.toNat_ofNat_of_lt' small]
        · have large : number ≠ value.toNat := fun same => small (same ▸ value.toNat_lt)
          rw [if_neg small]
          exact iff_of_false nofun large
  rw [number, natural?_eq_some_iff]
  constructor
  · rintro ⟨zeros, written⟩
    rcases (dropPlus_eq_iff (head?_ne_plus zeros _)).mp written with unsigned | signed
    · exact ⟨[], zeros, Or.inl rfl, unsigned⟩
    · exact ⟨['+'], zeros, Or.inr rfl, signed⟩
  · rintro ⟨sign, zeros, rfl | rfl, rfl⟩
    · exact ⟨zeros, (dropPlus_eq_iff (head?_ne_plus zeros _)).mpr (Or.inl rfl)⟩
    · exact ⟨zeros, (dropPlus_eq_iff (head?_ne_plus zeros _)).mpr (Or.inr rfl)⟩

end Cabinet.Text
