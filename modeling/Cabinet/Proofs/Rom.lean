import Cabinet.Rom

/-!
# Regions by name

A region is found by a token that occurs in the name of a file, or by the token
itself; the case of letters does not count. Of several regions the first one is
taken. So two searches that would take each other's results have found the same
region, and two regions that are found have different tokens.
-/

namespace Cabinet

/-- A value of a list that has a property, none before it having it. -/
structure First {α : Type} (Has : α → Prop) (values : List α) (value : α) : Prop where
  has : Has value
  before : ∃ earlier later, values = earlier ++ value :: later ∧ ∀ other ∈ earlier, ¬ Has other

theorem First.mem {α : Type} {Has : α → Prop} {values : List α} {value : α}
    (first : First Has values value) : value ∈ values := by
  obtain ⟨-, earlier, later, rfl, -⟩ := first
  exact List.mem_append_right _ List.mem_cons_self

/-- A search finds the first value that it accepts. -/
theorem find?_eq_some_iff_first {α : Type} {Has : α → Prop} {accepts : α → Bool}
    (tests : ∀ value, accepts value = true ↔ Has value) {values : List α} {value : α} :
    values.find? accepts = some value ↔ First Has values value := by
  have refused (other : α) : (!accepts other) = true ↔ ¬ Has other := by
    rw [Bool.not_eq_true', ← Bool.not_eq_true, tests]
  simp only [List.find?_eq_some_iff_append, refused, tests]
  constructor
  · rintro ⟨has, before⟩
    exact ⟨has, before⟩
  · rintro ⟨has, before⟩
    exact ⟨has, before⟩

/-- A search finds nothing if no value has the property. -/
theorem find?_eq_none_iff_forall {α : Type} {Has : α → Prop} {accepts : α → Bool}
    (tests : ∀ value, accepts value = true ↔ Has value) {values : List α} :
    values.find? accepts = none ↔ ∀ value ∈ values, ¬ Has value := by
  simp only [List.find?_eq_none, tests]

/-- Two searches for the first value that would each accept the other's result. -/
theorem find?_unique {α : Type} {first second : α → Bool} {values : List α} {value other : α}
    (found : values.find? first = some value) (otherFound : values.find? second = some other)
    (accepted : second value = true) (otherAccepted : first other = true) : value = other := by
  induction values with
  | nil => cases found
  | cons head values ih =>
      rw [List.find?_cons] at found otherFound
      cases here : first head with
      | true =>
          rw [here] at found
          cases found
          rw [accepted] at otherFound
          exact Option.some.inj otherFound
      | false =>
          cases there : second head with
          | true =>
              rw [there] at otherFound
              cases otherFound
              rw [here] at otherAccepted
              cases otherAccepted
          | false =>
              rw [here] at found
              rw [there] at otherFound
              exact ih found otherFound

namespace RomRegion

theorem isNamed_iff {region : RomRegion} {id : String} :
    region.isNamed id = true ↔ Text.lower region.fileMatch = Text.lower id :=
  beq_iff_eq

theorem isNamed_token (region : RomRegion) : region.isNamed region.fileMatch = true :=
  isNamed_iff.mpr rfl

/-- Two identifiers of one region are identifiers of the same regions. -/
theorem isNamed_congr {region : RomRegion} {id name : String} (named : region.isNamed id = true)
    (renamed : region.isNamed name = true) (other : RomRegion) :
    other.isNamed name = other.isNamed id := by
  have same : Text.lower name = Text.lower id :=
    (isNamed_iff.mp renamed).symm.trans (isNamed_iff.mp named)
  rw [isNamed, isNamed, Text.sameLetters, Text.sameLetters, same]

/-- The first region of an identifier is the only one with its token that any search finds. -/
theorem eq_of_token {regions : List RomRegion} {id : String} {region other : RomRegion}
    {chooses : String → Bool}
    (named : regions.find? (fun region => region.isNamed id) = some region)
    (found : regions.find? (fun region => chooses region.fileMatch) = some other)
    (token : other.fileMatch = region.fileMatch) : other = region := by
  have chosen := List.find?_some found
  have named' := List.find?_some named
  refine find?_unique found named ?_ ?_
  · rw [isNamed, token]
    exact named'
  · rw [← token]
    exact chosen

end RomRegion

namespace RomFile

/-- The token of a region occurs in the name of a file, the case of letters aside. -/
def Mentions (file : RomFile) (region : RomRegion) : Prop :=
  ∃ before after, Text.lower file.name = before ++ Text.lower region.fileMatch ++ after

theorem accepts_iff_mentions (file : RomFile) (region : RomRegion) :
    region.accepts file.name = true ↔ file.Mentions region :=
  Text.occursIn_iff

/-- A file belongs to the first region whose token occurs in its name. -/
theorem region?_eq_some_iff {file : RomFile} {regions : List RomRegion} {region : RomRegion} :
    file.region? regions = some region ↔ First file.Mentions regions region :=
  find?_eq_some_iff_first file.accepts_iff_mentions

theorem region?_eq_none_iff {file : RomFile} {regions : List RomRegion} :
    file.region? regions = none ↔ ∀ region ∈ regions, ¬ file.Mentions region :=
  find?_eq_none_iff_forall file.accepts_iff_mentions

end RomFile

end Cabinet
