import Cabinet.Frame

/-!
# Places of a picture

What a frame shows at its places, with places as numbers without a bound. A picture
fills its size if it holds one value for each place. Then every place shows a value,
and two pictures that fill the same size are equal if all their places show the same.
Flipped a picture shows at every place what was shown at the place across.
-/

namespace Cabinet.Frame

/-- A frame of zeros. -/
def blank (width height : UInt32) : Frame :=
  ⟨width, height, Array.replicate (width.toNat * height.toNat) 0⟩

/-- Where the value at column `x` of row `y` is stored. -/
def index (frame : Frame) (x y : Nat) : Nat :=
  y * frame.width.toNat + x

/-- Whether column `x` of row `y` is inside the picture. -/
def inside (frame : Frame) (x y : Nat) : Bool :=
  x < frame.width.toNat && y < frame.height.toNat

def set (frame : Frame) (x y : Nat) (value : UInt32) : Frame :=
  if frame.inside x y then
    { frame with pixels := frame.pixels.setIfInBounds (frame.index x y) value }
  else frame

def get? (frame : Frame) (x y : Nat) : Option UInt32 :=
  if frame.inside x y then frame.pixels[frame.index x y]? else none

/-- A picture of a size with one value for each place. -/
structure Fills (frame : Frame) (width height : UInt32) : Prop where
  width : frame.width = width
  height : frame.height = height
  size : frame.pixels.size = frame.width.toNat * frame.height.toNat

/-- Every place shows what another picture shows at a place of its own. -/
def Moved (frame other : Frame) (place : Nat → Nat → Nat × Nat) : Prop :=
  ∀ x < frame.width.toNat, ∀ y < frame.height.toNat, ∃ value,
    frame.get? x y = some value ∧ other.get? (place x y).1 (place x y).2 = some value

/-- The place that is as far from the last one as a place from the first one. -/
def across (width height : UInt32) (x y : Nat) : Nat × Nat :=
  (width.toNat - 1 - x, height.toNat - 1 - y)

section Places

variable {frame : Frame} {x y : Nat}

theorem index_lt (inRow : x < frame.width.toNat) (inColumn : y < frame.height.toNat) :
    frame.index x y < frame.width.toNat * frame.height.toNat :=
  calc frame.index x y
      < y * frame.width.toNat + frame.width.toNat := Nat.add_lt_add_left inRow _
    _ = (y + 1) * frame.width.toNat := (Nat.succ_mul _ _).symm
    _ ≤ frame.height.toNat * frame.width.toNat := Nat.mul_le_mul_right _ inColumn
    _ = frame.width.toNat * frame.height.toNat := Nat.mul_comm _ _

theorem index_mod (inRow : x < frame.width.toNat) : frame.index x y % frame.width.toNat = x := by
  rw [index, Nat.mul_add_mod_self_right, Nat.mod_eq_of_lt inRow]

theorem index_div (inRow : x < frame.width.toNat) : frame.index x y / frame.width.toNat = y := by
  rw [index, Nat.mul_comm, Nat.mul_add_div (Nat.zero_lt_of_lt inRow), Nat.div_eq_of_lt inRow,
    Nat.add_zero]

/-- Different places are stored apart. -/
theorem index_inj {column row : Nat} (inRow : x < frame.width.toNat)
    (inOtherRow : column < frame.width.toNat) :
    frame.index x y = frame.index column row ↔ x = column ∧ y = row := by
  constructor
  · intro same
    have columns := congrArg (· % frame.width.toNat) same
    have rows := congrArg (· / frame.width.toNat) same
    simp only [index_mod inRow, index_mod inOtherRow] at columns
    simp only [index_div inRow, index_div inOtherRow] at rows
    exact ⟨columns, rows⟩
  · rintro ⟨rfl, rfl⟩
    rfl

theorem get?_of_inside (inRow : x < frame.width.toNat) (inColumn : y < frame.height.toNat) :
    frame.get? x y = frame.pixels[frame.index x y]? := by
  rw [get?, inside, decide_eq_true inRow, decide_eq_true inColumn]
  rfl

end Places

namespace Fills

variable {frame : Frame} {width height : UInt32}

theorem blank (width height : UInt32) : (Frame.blank width height).Fills width height :=
  ⟨rfl, rfl, Array.size_replicate⟩

theorem get?_blank {x y : Nat} (inRow : x < width.toNat) (inColumn : y < height.toNat) :
    (Frame.blank width height).get? x y = some 0 := by
  have bound : (Frame.blank width height).index x y < width.toNat * height.toNat :=
    index_lt inRow inColumn
  rw [get?_of_inside inRow inColumn]
  exact Array.getElem?_replicate.trans (if_pos bound)

theorem set (fills : frame.Fills width height) (x y : Nat) (value : UInt32) :
    (frame.set x y value).Fills width height := by
  unfold Frame.set
  split
  · exact ⟨fills.width, fills.height, Array.size_setIfInBounds.trans fills.size⟩
  · exact fills

theorem flip (fills : frame.Fills width height) : frame.flip.Fills width height :=
  ⟨fills.width, fills.height, Array.size_reverse.trans fills.size⟩

theorem index_lt_size (fills : frame.Fills width height) {x y : Nat} (inRow : x < width.toNat)
    (inColumn : y < height.toNat) : frame.index x y < frame.pixels.size := by
  obtain ⟨rfl, rfl, size⟩ := fills
  exact size ▸ index_lt inRow inColumn

theorem exists_get? (fills : frame.Fills width height) {x y : Nat} (inRow : x < width.toNat)
    (inColumn : y < height.toNat) : ∃ value, frame.get? x y = some value := by
  have bound := fills.index_lt_size inRow inColumn
  obtain ⟨rfl, rfl, -⟩ := fills
  exact ⟨_, (get?_of_inside inRow inColumn).trans (Array.getElem?_eq_getElem bound)⟩

/-- A place shows what was set there last. -/
theorem get?_set (fills : frame.Fills width height) (x y : Nat) (value : UInt32) {column row : Nat}
    (inRow : column < width.toNat) (inColumn : row < height.toNat) :
    (frame.set x y value).get? column row =
      if x = column ∧ y = row then some value else frame.get? column row := by
  have bound := fills.index_lt_size inRow inColumn
  obtain ⟨rfl, rfl, -⟩ := fills
  by_cases inside : frame.inside x y = true
  · have stored : (frame.set x y value).get? column row =
        (frame.pixels.setIfInBounds (frame.index x y) value)[frame.index column row]? := by
      rw [Frame.set, if_pos inside]
      exact get?_of_inside inRow inColumn
    rw [Frame.inside, Bool.and_eq_true, decide_eq_true_eq, decide_eq_true_eq] at inside
    rw [stored, Array.getElem?_setIfInBounds, get?_of_inside inRow inColumn]
    by_cases here : x = column ∧ y = row
    · obtain ⟨rfl, rfl⟩ := here
      rw [if_pos rfl, if_pos bound, if_pos ⟨rfl, rfl⟩]
    · rw [if_neg (mt (index_inj inside.1 inRow).mp here), if_neg here]
  · have elsewhere : ¬ (x = column ∧ y = row) := by
      rintro ⟨rfl, rfl⟩
      exact inside (by rw [Frame.inside, decide_eq_true inRow, decide_eq_true inColumn]; rfl)
    rw [Frame.set, if_neg inside, if_neg elsewhere]

theorem get?_flip (fills : frame.Fills width height) {x y : Nat} (inRow : x < width.toNat)
    (inColumn : y < height.toNat) :
    frame.flip.get? x y = frame.get? (across width height x y).1 (across width height x y).2 := by
  have bound := fills.index_lt_size inRow inColumn
  obtain ⟨rfl, rfl, size⟩ := fills
  -- The rows below and the places to the right are those above and to the left of the place across.
  have mirrored : frame.pixels.size - 1 - frame.index x y =
      frame.index (frame.width.toNat - 1 - x) (frame.height.toNat - 1 - y) := by
    obtain ⟨below, rows⟩ := Nat.exists_eq_add_of_lt inColumn
    have rest : frame.height.toNat - 1 - y = below := by omega
    have all : frame.width.toNat * frame.height.toNat =
        y * frame.width.toNat + below * frame.width.toNat + frame.width.toNat := by
      rw [rows, Nat.mul_comm, Nat.succ_mul, Nat.add_mul]
    rw [size, all, index, index, rest]
    omega
  have turned : frame.flip.get? x y = frame.pixels.reverse[frame.index x y]? :=
    get?_of_inside inRow inColumn
  rw [turned, Array.getElem?_reverse bound, mirrored]
  exact (get?_of_inside (Nat.sub_one_sub_lt_of_lt inRow)
    (Nat.sub_one_sub_lt_of_lt inColumn)).symm

theorem moved_flip (fills : frame.Fills width height) :
    frame.flip.Moved frame (across width height) := by
  intro x inRow y inColumn
  rw [fills.flip.width] at inRow
  rw [fills.flip.height] at inColumn
  obtain ⟨value, seen⟩ := fills.flip.exists_get? inRow inColumn
  exact ⟨value, seen, (fills.get?_flip inRow inColumn).symm.trans seen⟩

theorem ext_getElem? {other : Frame} (fills : frame.Fills width height)
    (otherFills : other.Fills width height)
    (same : ∀ place < width.toNat * height.toNat, frame.pixels[place]? = other.pixels[place]?) :
    frame = other := by
  obtain ⟨rfl, rfl, size⟩ := fills
  obtain ⟨sameWidth, sameHeight, otherSize⟩ := otherFills
  rw [sameWidth, sameHeight] at otherSize
  have pixels : frame.pixels = other.pixels := by
    apply Array.ext (size.trans otherSize.symm)
    intro place inside inOther
    have seen := same place (size ▸ inside)
    rw [Array.getElem?_eq_getElem inside, Array.getElem?_eq_getElem inOther] at seen
    exact Option.some_inj.mp seen
  cases frame
  cases other
  cases sameWidth
  cases sameHeight
  cases pixels
  rfl

theorem ext_get? {other : Frame} (fills : frame.Fills width height)
    (otherFills : other.Fills width height)
    (same : ∀ x < width.toNat, ∀ y < height.toNat, frame.get? x y = other.get? x y) :
    frame = other := by
  refine fills.ext_getElem? otherFills fun place inside => ?_
  have inRow : place % width.toNat < width.toNat :=
    Nat.mod_lt _ (Nat.pos_of_lt_mul_right inside)
  have inColumn : place / width.toNat < height.toNat := Nat.div_lt_of_lt_mul inside
  have seen := same _ inRow _ inColumn
  obtain ⟨rfl, rfl, -⟩ := fills
  obtain ⟨sameWidth, sameHeight, -⟩ := otherFills
  rw [get?_of_inside inRow inColumn,
    get?_of_inside (sameWidth.symm ▸ inRow) (sameHeight.symm ▸ inColumn), index, index, sameWidth,
    Nat.div_add_mod'] at seen
  exact seen

/-- A picture that shows everything at the place across is the other one, flipped. -/
theorem eq_flip_of_moved {other : Frame} (fills : frame.Fills width height)
    (otherFills : other.Fills width height) (moved : frame.Moved other (across width height)) :
    frame = other.flip := by
  refine fills.ext_get? otherFills.flip fun x inRow y inColumn => ?_
  obtain ⟨value, here, there⟩ := moved x (fills.width ▸ inRow) y (fills.height ▸ inColumn)
  rw [otherFills.get?_flip inRow inColumn, here, there]

end Fills

end Cabinet.Frame
