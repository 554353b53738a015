import Cabinet.Proofs.Effect
import Cabinet.Proofs.Frame

/-!
# Places and their values

The places of a frame are counted in words, and a place with a larger number cannot be
looked for. So every place has a value if and only if the places are no more than there
are words and there are as many values as places. Whatever is stored is shown at its
place from then on, and nothing else changes.
-/

namespace Cabinet.Frame

open Outcome

/-- The number of places. -/
def placeCount (frame : Frame) : Nat :=
  frame.width.toNat * frame.height.toNat

/-- There is one value for each place. -/
def Whole (frame : Frame) : Prop :=
  frame.pixels.size = frame.placeCount

instance (frame : Frame) : Decidable frame.Whole :=
  inferInstanceAs (Decidable (_ = _))

/-- A column and a row of the picture. -/
def Inside (frame : Frame) (x y : UInt32) : Prop :=
  x < frame.width ∧ y < frame.height

instance (frame : Frame) (x y : UInt32) : Decidable (frame.Inside x y) :=
  inferInstanceAs (Decidable (_ ∧ _))

/-! ## Slots -/

section Slots

variable {frame : Frame} {x y column row : UInt32}

/-- A place has a number if words count up to it. -/
theorem slot_eq (frame : Frame) (x y : UInt32) :
    frame.slot x y =
      if y.toNat * frame.width.toNat < UInt32.size then
        if frame.index x.toNat y.toNat < UInt32.size then .ok (frame.index x.toNat y.toNat)
        else .error .addition
      else .error .multiplication := by
  rw [slot, Checked.mul_eq]
  split
  · rename_i row
    have product : (y * frame.width).toNat = y.toNat * frame.width.toNat :=
      (UInt32.toNat_mul _ _).trans (Nat.mod_eq_of_lt row)
    rw [ok_bind, Checked.add_eq, product, ← index]
    split
    · rename_i fits
      have sum : (y * frame.width + x).toNat = frame.index x.toNat y.toNat := by
        rw [UInt32.toNat_add, product]
        exact Nat.mod_eq_of_lt fits
      rw [ok_bind, sum]
      rfl
    · rfl
  · rfl

theorem slot_of_lt (fits : frame.index x.toNat y.toNat < UInt32.size) :
    frame.slot x y = .ok (frame.index x.toNat y.toNat) := by
  rw [slot_eq, if_pos (Nat.lt_of_le_of_lt (Nat.le_add_right _ _) fits), if_pos fits]

theorem exists_slot_error (large : UInt32.size ≤ frame.index x.toNat y.toNat) :
    ∃ panic, frame.slot x y = .error panic := by
  rw [slot_eq, if_neg (Nat.not_lt.mpr large)]
  split
  · exact ⟨_, rfl⟩
  · exact ⟨_, rfl⟩

theorem Inside.index_lt (inside : frame.Inside x y) :
    frame.index x.toNat y.toNat < frame.placeCount :=
  Frame.index_lt (UInt32.lt_iff_toNat_lt.mp inside.1) (UInt32.lt_iff_toNat_lt.mp inside.2)

theorem exists_word {bound : UInt32} {count : Nat} (small : count < bound.toNat) :
    ∃ word < bound, word.toNat = count := by
  have same : (UInt32.ofNat count).toNat = count :=
    UInt32.toNat_ofNat_of_lt (Nat.lt_trans small bound.toNat_lt)
  exact ⟨.ofNat count, UInt32.lt_iff_toNat_lt.mpr (same.symm ▸ small), same⟩

/-- Every number below the number of places is the number of a place. -/
theorem exists_place {place : Nat} (small : place < frame.placeCount) :
    ∃ x y, frame.Inside x y ∧ frame.index x.toNat y.toNat = place := by
  obtain ⟨x, inRow, column⟩ := exists_word (Nat.mod_lt place (Nat.pos_of_lt_mul_right small))
  obtain ⟨y, inColumn, row⟩ := exists_word (Nat.div_lt_of_lt_mul small)
  refine ⟨x, y, ⟨inRow, inColumn⟩, ?_⟩
  rw [index, column, row, Nat.div_add_mod']

/-- Different places have different numbers. -/
theorem Inside.index_inj (inside : frame.Inside x y) (other : frame.Inside column row) :
    frame.index column.toNat row.toNat = frame.index x.toNat y.toNat ↔ column = x ∧ row = y := by
  rw [Frame.index_inj (UInt32.lt_iff_toNat_lt.mp other.1) (UInt32.lt_iff_toNat_lt.mp inside.1),
    UInt32.toNat_inj, UInt32.toNat_inj]

end Slots

/-! ## Accesses -/

/-- As many columns, rows and values. -/
structure SameSize (frame other : Frame) : Prop where
  width : frame.width = other.width
  height : frame.height = other.height
  count : frame.pixels.size = other.pixels.size

namespace SameSize

variable {first second third : Frame}

theorem refl (frame : Frame) : frame.SameSize frame :=
  ⟨rfl, rfl, rfl⟩

theorem trans (same : first.SameSize second) (later : second.SameSize third) :
    first.SameSize third :=
  ⟨same.width.trans later.width, same.height.trans later.height, same.count.trans later.count⟩

theorem placeCount (same : first.SameSize second) : first.placeCount = second.placeCount := by
  rw [Frame.placeCount, Frame.placeCount, same.width, same.height]

theorem whole_iff (same : first.SameSize second) : first.Whole ↔ second.Whole := by
  rw [Whole, Whole, same.count, same.placeCount]

end SameSize

section Accesses

variable {frame next : Frame} {x y value : UInt32}

/-- Words count up to a place, and it has a value. -/
structure Held (frame : Frame) (x y : UInt32) : Prop where
  word : frame.index x.toNat y.toNat < UInt32.size
  there : frame.index x.toNat y.toNat < frame.pixels.size

theorem fetch_inside (inside : frame.Inside x y) :
    frame.fetch x y = frame.slot x y >>= fun place =>
      frame.pixels[place]?.elim (.error (.index frame.pixels.size place))
        fun value => .ok (some value) := by
  refine (if_pos inside).trans (congrArg (frame.slot x y >>= ·) (funext fun place => ?_))
  by_cases there : place < frame.pixels.size
  · rw [Array.getElem?_eq_getElem there]
    exact dif_pos there
  · rw [Array.getElem?_eq_none (Nat.not_lt.mp there)]
    exact dif_neg there

theorem exists_fetch (inside : frame.Inside x y) (held : frame.Held x y) :
    ∃ value, frame.fetch x y = .ok (some value) := by
  rw [fetch_inside inside, slot_of_lt held.word, ok_bind, Array.getElem?_eq_getElem held.there]
  exact ⟨_, rfl⟩

theorem fetch_missing (inside : frame.Inside x y) (missing : ¬ frame.Held x y) :
    ∃ panic, frame.fetch x y = .error panic := by
  rw [fetch_inside inside]
  by_cases word : frame.index x.toNat y.toNat < UInt32.size
  · have none := Array.getElem?_eq_none (Nat.not_lt.mp (mt (Held.mk word) missing))
    rw [slot_of_lt word, ok_bind, none]
    exact ⟨_, rfl⟩
  · obtain ⟨panic, overflow⟩ := exists_slot_error (Nat.not_lt.mp word)
    rw [overflow]
    exact ⟨panic, rfl⟩

theorem fetch_outside (outside : ¬ frame.Inside x y) : frame.fetch x y = .ok none :=
  if_neg outside

theorem store_inside (value : UInt32) (inside : frame.Inside x y) :
    frame.store x y value = frame.slot x y >>= fun place =>
      if there : place < frame.pixels.size then
        .ok { frame with pixels := frame.pixels.set place value there }
      else .error (.index frame.pixels.size place) :=
  if_pos inside

theorem store_held (value : UInt32) (inside : frame.Inside x y) (held : frame.Held x y) :
    frame.store x y value = .ok { frame with
      pixels := frame.pixels.set (frame.index x.toNat y.toNat) value held.there } := by
  rw [store_inside value inside, slot_of_lt held.word, ok_bind, dif_pos held.there]

theorem store_missing (value : UInt32) (inside : frame.Inside x y) (missing : ¬ frame.Held x y) :
    ∃ panic, frame.store x y value = .error panic := by
  rw [store_inside value inside]
  by_cases word : frame.index x.toNat y.toNat < UInt32.size
  · rw [slot_of_lt word, ok_bind, dif_neg (mt (Held.mk word) missing)]
    exact ⟨_, rfl⟩
  · obtain ⟨panic, overflow⟩ := exists_slot_error (Nat.not_lt.mp word)
    rw [overflow]
    exact ⟨panic, rfl⟩

theorem store_outside (value : UInt32) (outside : ¬ frame.Inside x y) :
    frame.store x y value = .ok frame :=
  if_neg outside

/-- Everything that storing a value can do. -/
theorem store_cases (stored : frame.store x y value = .ok next) :
    (¬ frame.Inside x y ∧ next = frame) ∨
      frame.Inside x y ∧ ∃ held : frame.Held x y, next = { frame with
        pixels := frame.pixels.set (frame.index x.toNat y.toNat) value held.there } := by
  by_cases inside : frame.Inside x y
  · by_cases held : frame.Held x y
    · rw [store_held value inside held] at stored
      cases stored
      exact .inr ⟨inside, held, rfl⟩
    · obtain ⟨panic, fault⟩ := store_missing value inside held
      rw [fault] at stored
      cases stored
  · rw [store_outside value inside] at stored
    cases stored
    exact .inl ⟨inside, rfl⟩

theorem sameSize_of_store (stored : frame.store x y value = .ok next) : next.SameSize frame := by
  rcases store_cases stored with ⟨-, rfl⟩ | ⟨-, held, rfl⟩
  · exact .refl _
  · exact ⟨rfl, rfl, Array.size_set held.there⟩

/-- After a value is stored its place shows it, and the others what they did before. -/
theorem fetch_of_store (stored : frame.store x y value = .ok next) (inside : frame.Inside x y)
    (column row : UInt32) :
    next.fetch column row =
      if column = x ∧ row = y then .ok (some value) else frame.fetch column row := by
  rcases store_cases stored with ⟨outside, -⟩ | ⟨-, held, changed⟩
  · exact absurd inside outside
  have sameSlot : next.slot column row = frame.slot column row := by
    rw [changed]
    rfl
  have sameInside : next.Inside column row ↔ frame.Inside column row := by
    rw [changed]
    rfl
  by_cases here : column = x ∧ row = y
  · obtain ⟨rfl, rfl⟩ := here
    rw [if_pos ⟨rfl, rfl⟩, fetch_inside (sameInside.mpr inside), sameSlot, slot_of_lt held.word,
      ok_bind, changed, Array.getElem?_set_self held.there]
    rfl
  · rw [if_neg here]
    by_cases other : frame.Inside column row
    · have apart : frame.index x.toNat y.toNat ≠ frame.index column.toNat row.toNat :=
        fun same => here ((inside.index_inj other).mp same.symm)
      rw [fetch_inside (sameInside.mpr other), fetch_inside other, sameSlot]
      by_cases word : frame.index column.toNat row.toNat < UInt32.size
      · rw [slot_of_lt word, ok_bind, ok_bind, changed, Array.getElem?_set_ne held.there apart,
          Array.size_set]
      · obtain ⟨panic, overflow⟩ := exists_slot_error (Nat.not_lt.mp word)
        rw [overflow]
        rfl
    · rw [fetch_outside other, fetch_outside (mt sameInside.mp other)]

end Accesses

/-! ## Frames that keep their values -/

/-- No place of the frame is without a value. -/
structure Safe (frame : Frame) : Prop where
  fetched : ∀ x y, frame.Inside x y → ∃ value, frame.fetch x y = .ok (some value)
  stored : ∀ x y value, frame.Inside x y → ∃ next, frame.store x y value = .ok next

/--
What a user of a frame expects of it. A place shows what was stored there, and the others
what they did before.
-/
structure Faithful (frame : Frame) : Prop where
  whole : frame.Whole
  safe : frame.Safe
  kept : ∀ x y value next, frame.Inside x y → frame.store x y value = .ok next →
    next.fetch x y = .ok (some value) ∧
      ∀ column row, ¬ (column = x ∧ row = y) → next.fetch column row = frame.fetch column row

section Faithful

variable {frame : Frame}

theorem safe_iff :
    frame.Safe ↔ frame.placeCount ≤ UInt32.size ∧ frame.placeCount ≤ frame.pixels.size := by
  constructor
  · intro safe
    have held {place : Nat} (small : place < frame.placeCount) :
        place < UInt32.size ∧ place < frame.pixels.size := by
      obtain ⟨x, y, inside, rfl⟩ := exists_place small
      obtain ⟨value, fetched⟩ := safe.fetched x y inside
      by_cases held : frame.Held x y
      · exact ⟨held.word, held.there⟩
      · obtain ⟨panic, fault⟩ := fetch_missing inside held
        cases fault.symm.trans fetched
    -- Otherwise the place with the first number too large would have to be held.
    exact ⟨Nat.not_lt.mp fun many => Nat.lt_irrefl _ (held many).1,
      Nat.not_lt.mp fun many => Nat.lt_irrefl _ (held many).2⟩
  · rintro ⟨few, enough⟩
    have held {x y : UInt32} (inside : frame.Inside x y) : frame.Held x y :=
      ⟨Nat.lt_of_lt_of_le inside.index_lt few, Nat.lt_of_lt_of_le inside.index_lt enough⟩
    exact
      { fetched := fun _ _ inside => exists_fetch inside (held inside)
        stored := fun _ _ value inside => ⟨_, store_held value inside (held inside)⟩ }

theorem SameSize.safe_iff {other : Frame} (same : frame.SameSize other) :
    frame.Safe ↔ other.Safe := by
  rw [Frame.safe_iff, Frame.safe_iff, same.placeCount, same.count]

/-- A value can be stored at any place, inside or outside. -/
theorem Safe.exists_store (safe : frame.Safe) (x y value : UInt32) :
    ∃ next, frame.store x y value = .ok next := by
  by_cases inside : frame.Inside x y
  · exact safe.stored x y value inside
  · exact ⟨frame, store_outside value inside⟩

theorem faithful_iff : frame.Faithful ↔ frame.Whole ∧ frame.placeCount ≤ UInt32.size := by
  constructor
  · exact fun faithful => ⟨faithful.whole, (safe_iff.mp faithful.safe).1⟩
  · rintro ⟨whole, few⟩
    have safe : frame.Safe := safe_iff.mpr ⟨few, Nat.le_of_eq whole.symm⟩
    refine ⟨whole, safe, fun x y value next inside stored => ⟨?_, fun column row apart => ?_⟩⟩
    · rw [fetch_of_store stored inside, if_pos ⟨rfl, rfl⟩]
    · rw [fetch_of_store stored inside, if_neg apart]

end Faithful

end Cabinet.Frame
