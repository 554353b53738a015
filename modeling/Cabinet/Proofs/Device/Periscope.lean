import Cabinet.Proofs.Device.PortBits
import Cabinet.Proofs.Device.Range
import Mathlib.Algebra.Ring.Nat
import Mathlib.Data.List.Induction

/-!
# The periscope

Every snapshot of the controls moves the periscope by at most one place between its
two ends. Its port shows the stick in the low half. The high half is meant for the
position, but three buttons have bits there as well, so it shows the position only
while none of those that are held has a bit that the position lacks.
-/

namespace Cabinet

namespace Periscope

/-- Where a snapshot of the controls moves the periscope: left first, then right. -/
def move (position : Nat) (held : Buttons) : Nat :=
  let position := if held.isHeld "p1_left" then position - 1 else position
  if held.isHeld "p1_right" then min (position + 1) 15 else position

/-- Where some snapshots move the periscope from its left end. -/
def position (snapshots : List Buttons) : Nat :=
  snapshots.foldl move 0

/-- The directions that have the low bits of the port, in their order. -/
def directions : List String := ["p1_up", "p1_down", "p1_left", "p1_right"]

/-- The buttons that have high bits of the port, in their order. -/
def actions : List String := ["p1_fire", "p1_fire2", "p1_start"]

/-- The button with this bit of the high half is held. -/
def actsAt (held : Buttons) (place : Nat) : Bool :=
  actions[place]?.any held.isHeld

end Periscope

namespace Devices

open Periscope

theorem toNat_moveLeft (position : UInt8) : (moveLeft position).toNat = position.toNat - 1 := by
  unfold moveLeft
  split
  · rename_i zero
    rw [zero]
    rfl
  · rename_i moves
    have above : 1 ≤ position.toNat :=
      Nat.pos_of_ne_zero fun zero => moves (UInt8.toNat_inj.mp zero)
    exact UInt8.toNat_sub_of_le _ _ (UInt8.le_iff_toNat_le.mpr above)

theorem toNat_moveRight {position : UInt8} (inRange : position ≤ periscopeEnd) :
    (moveRight position).toNat = min (position.toNat + 1) 15 := by
  have bound : position.toNat ≤ 15 := UInt8.le_iff_toNat_le.mp inRange
  have next : (position + 1).toNat = position.toNat + 1 := by
    rw [UInt8.toNat_add]
    exact Nat.mod_eq_of_lt (show position.toNat + 1 < 256 by omega)
  have order : position + 1 ≤ periscopeEnd ↔ position.toNat + 1 ≤ 15 := by
    rw [UInt8.le_iff_toNat_le, next]
    rfl
  rw [moveRight, Std.min_eq_if]
  split
  · rename_i inside
    exact next.trans (Nat.min_eq_left (order.mp inside)).symm
  · rename_i beyond
    exact (Nat.min_eq_right (Nat.le_of_not_le (mt order.mpr beyond))).symm

theorem toNat_periscope_latch {devices : Devices} (inRange : devices.InRange) (held : Buttons) :
    (devices.latch held).periscope.toNat = move devices.periscope.toNat held := by
  simp only [latch, move, apply_ite UInt8.toNat, toNat_moveRight (inRange.periscope_left held),
    toNat_moveLeft]

theorem toNat_periscope_foldl {devices : Devices} (inRange : devices.InRange)
    (snapshots : List Buttons) :
    (snapshots.foldl latch devices).periscope.toNat =
      snapshots.foldl move devices.periscope.toNat := by
  induction snapshots generalizing devices with
  | nil => rfl
  | cons held snapshots ih =>
      rw [List.foldl_cons, ih (inRange.latch held), toNat_periscope_latch inRange]
      rfl

theorem inRange_foldl_latch {devices : Devices} (inRange : devices.InRange)
    (snapshots : List Buttons) : (snapshots.foldl latch devices).InRange := by
  induction snapshots generalizing devices with
  | nil => exact inRange
  | cons held snapshots ih => exact ih (inRange.latch held)

theorem input_foldl_latch (devices : Devices) (snapshots : List Buttons) :
    (snapshots.foldl latch devices).input = snapshots.getLast?.getD devices.input := by
  induction snapshots using List.reverseRecOn with
  | nil => rfl
  | append_singleton snapshots held _ =>
      rw [List.foldl_append, List.getLast?_concat]
      rfl

/-! ## The port -/

theorem any_zipIdx (chosen : String → Bool) (names : List String) (place : Nat) :
    (names.zipIdx.any fun entry => chosen entry.1 && decide (entry.2 = place)) =
      names[place]?.any chosen := by
  rw [Bool.eq_iff_iff, List.any_eq_true, Option.any_eq_true]
  simp [List.mem_zipIdx_iff_getElem?]

/-- The buttons of the first player have one bit each, the stick's bits below the others. -/
theorem testBit_mask_player1Bits (held : Buttons) (place : Nat) :
    (held.mask player1Bits).toNat.testBit place =
      (directions ++ actions)[place]?.any held.isHeld := by
  have bits : (player1Bits.any fun entry => held.isHeld entry.1 && entry.2.toNat.testBit place) =
      (directions ++ actions).zipIdx.any fun entry =>
        held.isHeld entry.1 && (2 ^ entry.2).testBit place := rfl
  rw [Buttons.testBit_mask, bits]
  simp only [Nat.testBit_two_pow]
  exact any_zipIdx held.isHeld _ place

theorem toNat_periscope_shifted {position : UInt8} (inRange : position ≤ periscopeEnd) :
    ((position &&& periscopeEnd) <<< 4).toNat = 2 ^ 4 * position.toNat := by
  have bound : position.toNat ≤ 15 := UInt8.le_iff_toNat_le.mp inRange
  have kept : (position &&& periscopeEnd).toNat = position.toNat :=
    (UInt8.toNat_and _ _).trans (Nat.and_two_pow_sub_one_of_lt_two_pow (n := 4)
      (Nat.lt_succ_of_le bound))
  rw [UInt8.toNat_shiftLeft, kept, Nat.shiftLeft_eq, Nat.mul_comm]
  exact Nat.mod_eq_of_lt (show 16 * position.toNat < 256 by omega)

theorem testBit_periscopePlayer1 {devices : Devices} (inRange : devices.InRange) (place : Nat) :
    (devices.read .periscopePlayer1).toNat.testBit place =
      ((directions ++ actions)[place]?.any devices.input.isHeld ||
        (decide (4 ≤ place) && devices.periscope.toNat.testBit (place - 4))) := by
  rw [read, UInt8.toNat_or, Nat.testBit_or, testBit_mask_player1Bits,
    toNat_periscope_shifted inRange.periscope, Nat.testBit_two_pow_mul]

end Devices

namespace Periscope

open Devices

/-- What the port shows after some snapshots of the controls from power-on. -/
def shown (dip : UInt8) (snapshots : List Buttons) : Nat :=
  ((snapshots.foldl latch (new dip)).read .periscopePlayer1).toNat

/-- The controls as they were at last; before the first snapshot nothing is held. -/
def lastHeld (snapshots : List Buttons) : Buttons :=
  snapshots.getLast?.getD {}

section Readout

variable (dip : UInt8) (snapshots : List Buttons)

theorem toNat_periscope_snapshots :
    (snapshots.foldl latch (new dip)).periscope.toNat = position snapshots :=
  toNat_periscope_foldl (inRange_new dip) snapshots

theorem testBit_shown (place : Nat) :
    (shown dip snapshots).testBit place =
      ((directions ++ actions)[place]?.any (lastHeld snapshots).isHeld ||
        (decide (4 ≤ place) && (position snapshots).testBit (place - 4))) := by
  have inRange := inRange_foldl_latch (inRange_new dip) snapshots
  rw [shown, testBit_periscopePlayer1 inRange, input_foldl_latch, toNat_periscope_snapshots]
  rfl

theorem testBit_shown_high (place : Nat) :
    (shown dip snapshots / 2 ^ 4).testBit place =
      (actsAt (lastHeld snapshots) place || (position snapshots).testBit place) := by
  have behind : 4 ≤ place + 4 := Nat.le_add_left 4 place
  have button : (directions ++ actions)[place + 4]? = actions[place]? :=
    List.getElem?_append_right behind
  rw [Nat.testBit_div_two_pow, testBit_shown, decide_eq_true behind, Bool.true_and, button,
    Nat.add_sub_cancel, actsAt]

/--
What the two halves of the port have to do with the snapshots. The high half joins the
position and three buttons.
-/
structure Readout : Prop where
  periscope : (snapshots.foldl latch (new dip)).periscope.toNat = position snapshots
  low : ∀ place name, directions[place]? = some name →
    (shown dip snapshots).testBit place = (lastHeld snapshots).isHeld name
  high : ∀ place, (shown dip snapshots / 2 ^ 4).testBit place =
    (actsAt (lastHeld snapshots) place || (position snapshots).testBit place)
  position_iff : shown dip snapshots / 2 ^ 4 = position snapshots ↔
    ∀ place, actsAt (lastHeld snapshots) place = true →
      (position snapshots).testBit place = true

/--
The low half of the port shows the stick. The high half shows the position exactly
while no button is held that has a bit there which the position lacks.
-/
theorem periscope_readout : Readout dip snapshots := by
  constructor
  case periscope => exact toNat_periscope_snapshots dip snapshots
  case low =>
    intro place name here
    obtain ⟨inside, -⟩ := List.getElem?_eq_some_iff.mp here
    have small : ¬ 4 ≤ place := Nat.not_le_of_lt inside
    rw [testBit_shown, List.getElem?_append_left inside, here, decide_eq_false small,
      Bool.false_and, Bool.or_false, Option.any_some]
  case high => exact testBit_shown_high dip snapshots
  case position_iff =>
    constructor
    · intro same place acts
      rw [← same, testBit_shown_high, acts, Bool.true_or]
    · intro covered
      apply Nat.eq_of_testBit_eq
      intro place
      rw [testBit_shown_high]
      -- A button whose bit the position has adds nothing to it.
      cases acts : actsAt (lastHeld snapshots) place with
      | false => exact Bool.false_or _
      | true => exact (covered place acts).symm

end Readout

/-- The fire button hides that the periscope is at its left end. -/
theorem periscope_hidden :
    position [({} : Buttons).press "p1_fire"] = 0 ∧
      shown 0 [({} : Buttons).press "p1_fire"] / 2 ^ 4 = 1 := by
  decide

end Periscope

end Cabinet
