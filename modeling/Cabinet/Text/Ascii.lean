/-!
# ASCII letters and digits

Names of files and of mount points are compared without regard to the case of
the letters A to Z; other characters have to be the same. A row of decimal digits
stands for a natural number.
-/

namespace Cabinet.Text

/-! ## Letters -/

/-- Replace the letters A to Z by small ones. -/
def lower (text : String) : List Char :=
  text.toList.map Char.toLower

/-- Whether two texts differ at most in the case of ASCII letters. -/
def sameLetters (first second : String) : Bool :=
  lower first == lower second

/-- Whether a list of characters occurs in another one without gaps. -/
def occursIn (part : List Char) : List Char → Bool
  | [] => part.isEmpty
  | c :: rest => part.isPrefixOf (c :: rest) || occursIn part rest

theorem occursIn_iff {part whole : List Char} :
    occursIn part whole = true ↔ ∃ before after, whole = before ++ part ++ after := by
  induction whole with
  | nil =>
      constructor
      · intro found
        exact ⟨[], [], by simpa [occursIn] using found⟩
      · rintro ⟨before, after, split⟩
        simp_all [occursIn]
  | cons c rest ih =>
      simp only [occursIn, Bool.or_eq_true, List.isPrefixOf_iff_prefix, ih]
      constructor
      · rintro (⟨after, split⟩ | ⟨before, after, split⟩)
        · exact ⟨[], after, by simpa using split.symm⟩
        · exact ⟨c :: before, after, by simp [split]⟩
      · rintro ⟨before, after, split⟩
        cases before with
        | nil => exact .inl ⟨after, by simpa using split.symm⟩
        | cons first before =>
            simp only [List.cons_append, List.cons.injEq] at split
            exact .inr ⟨before, after, by simpa using split.2⟩

/-! ## Digits -/

/-- Read digits behind those that were read as `value`. -/
def digitsFrom (value : Nat) : List Char → Option Nat
  | [] => some value
  | c :: rest => if c.isDigit then digitsFrom (10 * value + (c.toNat - 48)) rest else none

/-- The number that a text of one or more digits stands for; leading zeros are allowed. -/
def natural? (text : List Char) : Option Nat :=
  if text.isEmpty then none else digitsFrom 0 text

/-- The text without a plus sign in front. -/
def dropPlus : List Char → List Char
  | '+' :: rest => rest
  | text => text

/-- The byte that a text stands for, with a plus sign in front or not; 255 is the largest. -/
def byte? (text : List Char) : Option UInt8 :=
  match natural? (dropPlus text) with
  | some number => if number < UInt8.size then some (UInt8.ofNat number) else none
  | none => none

end Cabinet.Text
