import Cabinet.Proofs.Config.RoundTrip
import Cabinet.Proofs.Picture.Drawing

/-!
# Where frames come from

A frame is made new, drawn, or read from a text or a value, and then values are stored in
it. Storing keeps the number of values, so the source alone decides whether a frame has a
value for each place. Every new frame and every drawn one does, and there is one as long as
words count the places. Whatever was written of a frame is read back, also if it has too few
values or too many.
-/

namespace Cabinet.Frame

open Json Outcome Json.Fields

/-! ## Frames as texts -/

theorem reads_toJson (frame : Frame) : Reads reader frame.toJson frame := by
  intro node shows
  have pixels := reads_list fun value (_ : value ∈ frame.pixels.toList) => reads_uint32 value
  obtain ⟨given, read, holds⟩ := read_object "Frame" fields shows (by simp) <|
    admitted_cons (reads_uint32 frame.height) rfl <|
    admitted_cons pixels rfl <|
    admitted_cons (reads_uint32 frame.width) rfl admitted_nil
  simp only [reader, read, ok_bind,
    holds.required "width" rfl (reads_uint32 frame.width),
    holds.required "height" rfl (reads_uint32 frame.height),
    holds.required "pixels" rfl pixels]
  rfl

theorem plain_toJson (frame : Frame) : Plain frame.toJson := by
  refine .object ?_
  simp only [List.forall_mem_cons]
  exact ⟨plain_uint32 _, plain_list fun value _ => plain_uint32 value, plain_uint32 _, nofun⟩

/--
A frame is read back from what is written of it, in whatever order its members are written
and with whatever space between them.
-/
structure ReadBack (frame : Frame) : Prop where
  value : readValue reader frame.toJson = .ok frame
  compact : readText reader frame.toJson.compact = .ok frame
  indented : readText reader frame.toJson.indented = .ok frame
  writes : ∀ text, Writes frame.toJson text → readText reader text = .ok frame

theorem readBack (frame : Frame) : frame.ReadBack where
  value := frame.reads_toJson.readValue
  compact := frame.reads_toJson.readText frame.plain_toJson.writes_compact
  indented := frame.reads_toJson.readText frame.plain_toJson.writes_indented
  writes := fun _ => frame.reads_toJson.readText

/-! ## Sources -/

/-- What a frame can be made from. -/
inductive Source where
  | size (width height : UInt32)
  | screen (config : Config) (memory : Memory) (devices : Devices)
  | document (text : String)
  | parsed (json : Json)

namespace Source

/-- A frame is made from a source. -/
def Makes : Source → Frame → Prop
  | .size width height, frame => Frame.new width height = .ok frame
  | .screen config memory devices, frame => Picture.draw config memory devices = .ok frame
  | .document text, frame => readText reader text = .ok frame
  | .parsed json, frame => readValue reader json = .ok frame

/-- The frame that is made, and every frame that storing values leads to. -/
inductive Yields (source : Source) : Frame → Prop where
  | made {frame : Frame} (makes : source.Makes frame) : Yields source frame
  | store {frame next : Frame} {x y value : UInt32} (before : Yields source frame)
      (stored : frame.store x y value = .ok next) : Yields source next

/-- Words count the places, and what is read lists one value for each of them. -/
def Fits : Source → Prop
  | .size width height => width.toNat * height.toNat < UInt32.size
  | .screen config _ _ => Picture.Drawable config
  | .document text => ∃ frame, readText reader text = .ok frame ∧ frame.Whole ∧
      frame.placeCount ≤ UInt32.size
  | .parsed json => ∃ frame, readValue reader json = .ok frame ∧ frame.Whole ∧
      frame.placeCount ≤ UInt32.size

variable {source : Source} {frame : Frame}

/-- A frame is made from every source that fits. -/
theorem exists_made (fits : source.Fits) : ∃ frame, source.Makes frame := by
  cases source with
  | size width height => exact ⟨_, (Frame.new_eq width height).trans (if_pos fits)⟩
  | screen config memory devices => exact ⟨_, Picture.draw_eq_render memory devices fits⟩
  | document text | parsed json =>
      obtain ⟨frame, read, -⟩ := fits
      exact ⟨frame, read⟩

theorem whole_of_fills {width height : UInt32} (fills : frame.Fills width height)
    (few : width.toNat * height.toNat < UInt32.size) :
    frame.Whole ∧ frame.placeCount ≤ UInt32.size :=
  ⟨fills.whole, fills.placeCount ▸ Nat.le_of_lt few⟩

/-- The frame that is made tells whether its source fits. -/
theorem Makes.fits_iff (makes : source.Makes frame) :
    source.Fits ↔ frame.Whole ∧ frame.placeCount ≤ UInt32.size := by
  cases source with
  | size width height =>
      -- No frame is made of too many places.
      have made : Frame.new width height = .ok frame := makes
      rw [Frame.new_eq] at made
      split at made
      · rename_i few
        cases made
        exact iff_of_true few (whole_of_fills (.blank width height) few)
      · cases made
  | screen config memory devices =>
      have drawn : Picture.draw config memory devices = .ok frame := makes
      rw [Picture.draw_eq] at drawn
      split at drawn
      · rename_i drawable
        cases drawn
        exact iff_of_true drawable
          (whole_of_fills (Picture.fills_render config memory devices) drawable.screen)
      · cases drawn
  | document text | parsed json =>
      constructor
      · rintro ⟨other, read, counted⟩
        cases read.symm.trans makes
        exact counted
      · exact fun counted => ⟨frame, makes, counted⟩

/-- Whatever is stored, the frame keeps the size with which it was made. -/
theorem Yields.exists_sameSize (yields : source.Yields frame) :
    ∃ made, source.Makes made ∧ frame.SameSize made := by
  induction yields with
  | made makes => exact ⟨_, makes, .refl _⟩
  | store before stored ih =>
      obtain ⟨made, makes, same⟩ := ih
      exact ⟨made, makes, (sameSize_of_store stored).trans same⟩

theorem Yields.faithful_iff (yields : source.Yields frame) : frame.Faithful ↔ source.Fits := by
  obtain ⟨made, makes, same⟩ := yields.exists_sameSize
  rw [Frame.faithful_iff, makes.fits_iff, same.whole_iff, same.placeCount]

theorem Yields.storeDots {next : Frame} {dots : List Picture.Dot} (yields : source.Yields frame)
    (stored : Picture.storeDots frame dots = .ok next) : source.Yields next := by
  induction dots generalizing frame with
  | nil =>
      cases stored
      exact yields
  | cons dot dots ih =>
      rw [Picture.storeDots, List.foldlM_cons] at stored
      obtain ⟨first, one, rest⟩ := bind_eq_ok_iff.mp stored
      exact ih (.store yields one) rest

/--
What is known of the frames from a source. All of them have a value of its own for each
place, or none has. What is stored is shown by its place and the others stay. Values can be
stored at any places one after another, unless a place has no value.
-/
structure Accounted (source : Source) : Prop where
  made : source.Fits → ∃ frame, source.Makes frame
  faithful : ∀ frame, source.Yields frame → (frame.Faithful ↔ source.Fits)
  safe : ∀ frame, source.Yields frame →
    (frame.Safe ↔ frame.placeCount ≤ UInt32.size ∧ frame.placeCount ≤ frame.pixels.size)
  changed : ∀ frame, source.Yields frame → ∀ x y value next, frame.Inside x y →
    frame.store x y value = .ok next → ∀ column row, next.fetch column row =
      if column = x ∧ row = y then .ok (some value) else frame.fetch column row
  storable : ∀ frame, source.Yields frame → frame.Safe → ∀ dots,
    ∃ next, Picture.storeDots frame dots = .ok next ∧ source.Yields next
  outside : ∀ frame, source.Yields frame → ∀ x y, ¬ frame.Inside x y →
    frame.fetch x y = .ok none ∧ ∀ value, frame.store x y value = .ok frame
  readBack : ∀ frame, source.Yields frame → frame.ReadBack

/--
The source of a frame alone decides whether its users find what they expect, whatever is
stored in it.
-/
theorem accounted (source : Source) : source.Accounted where
  made := exists_made
  faithful := fun _ => Yields.faithful_iff
  safe := fun _ _ => Frame.safe_iff
  changed := fun _ _ _ _ _ _ inside stored => fetch_of_store stored inside
  storable := by
    intro frame yields safe dots
    obtain ⟨next, stored⟩ := Picture.exists_storeDots safe dots
    exact ⟨next, stored, yields.storeDots stored⟩
  outside := fun _ _ _ _ outside =>
    ⟨fetch_outside outside, fun value => store_outside value outside⟩
  readBack := fun frame _ => frame.readBack

/-- A document that lists one value for four places is read, and the other places have none. -/
theorem yields_short :
    let frame : Frame := ⟨2, 2, #[7]⟩
    (document "\x7b\x22width\x22:2,\x22height\x22:2,\x22pixels\x22:[7]\x7d").Yields frame ∧
      ¬ frame.Whole ∧ frame.Inside 0 1 ∧ frame.fetch 0 1 = .error (.index 1 2) ∧
      frame.store 1 1 255 = .error (.index 1 3) :=
  ⟨.made rfl, by decide, by decide, rfl, rfl⟩

end Source

end Cabinet.Frame
