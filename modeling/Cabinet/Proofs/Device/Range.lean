import Cabinet.Device.SystemBus
import Cabinet.Proofs.Machine.Simulation

/-!
# What the latches can hold

Several outputs keep only some bits of a byte, and the periscope stops at both of
its ends. So the latches behind them hold small numbers only, whatever a program
puts out. In particular the window of the shift register never begins below the
top half.
-/

namespace Cabinet

namespace Shifter

/--
The window is one that an output can choose, and reading gives the bits in it: the register
is moved down by at least one and at most eight places.
-/
structure Windowed (shifter : Shifter) : Prop where
  chosen : ∃ value, ∀ other : Shifter, (other.setOffset value).offset = shifter.offset
  places : (8 - shifter.offset).toNat = 8 - shifter.offset.toNat ∧ 1 ≤ 8 - shifter.offset.toNat
  result : shifter.result.toNat =
    (shifter.value.toNat >>> (8 - shifter.offset.toNat)) % 256

theorem offset_setOffset_le (shifter : Shifter) (value : UInt8) :
    (shifter.setOffset value).offset ≤ 7 := by
  rw [UInt8.le_iff_toNat_le]
  exact Nat.and_le_right

theorem windowed_of_le {shifter : Shifter} (small : shifter.offset ≤ 7) : shifter.Windowed := by
  have bound : shifter.offset.toNat ≤ 7 := UInt8.le_iff_toNat_le.mp small
  have places : (8 - shifter.offset).toNat = 8 - shifter.offset.toNat :=
    UInt8.toNat_sub_of_le 8 shifter.offset (UInt8.le_iff_toNat_le.mpr (Nat.le_succ_of_le bound))
  refine ⟨⟨shifter.offset, fun other => ?_⟩, ⟨places, by omega⟩, ?_⟩
  · -- Three bits are all that the offset has.
    rw [setOffset, ← UInt8.toNat_inj, UInt8.toNat_and]
    exact Nat.and_two_pow_sub_one_of_lt_two_pow (n := 3) (Nat.lt_succ_of_le bound)
  · rw [result, UInt16.toNat_toUInt8, UInt16.toNat_shiftRight, UInt8.toNat_toUInt16, places,
      Nat.mod_eq_of_lt (show 8 - shifter.offset.toNat < 16 by omega)]

theorem windowed_iff (shifter : Shifter) : shifter.Windowed ↔ shifter.offset ≤ 7 := by
  constructor
  · intro windowed
    obtain ⟨value, chosen⟩ := windowed.chosen
    rw [← chosen shifter]
    exact shifter.offset_setOffset_le value
  · exact windowed_of_le

end Shifter

namespace Devices

/-- The latches hold numbers that the outputs and the controls can leave in them. -/
structure InRange (devices : Devices) : Prop where
  offset : devices.shifter.offset ≤ 7
  colorBank : devices.colorBank ≤ 7
  videoPage : devices.videoPage ≤ 1
  periscope : devices.periscope ≤ periscopeEnd

theorem inRange_new (dip : UInt8) : (new dip).InRange where
  offset := (by decide : (0 : UInt8) ≤ 7)
  colorBank := (by decide : (0 : UInt8) ≤ 7)
  videoPage := (by decide : (0 : UInt8) ≤ 1)
  periscope := (by decide : (0 : UInt8) ≤ periscopeEnd)

theorem moveLeft_le (position : UInt8) : moveLeft position ≤ position := by
  unfold moveLeft
  split
  · exact UInt8.zero_le
  · rename_i moves
    have above : 0 < position.toNat :=
      Nat.pos_of_ne_zero fun zero => moves (UInt8.toNat_inj.mp zero)
    have one : (1 : UInt8) ≤ position := UInt8.le_iff_toNat_le.mpr above
    rw [UInt8.le_iff_toNat_le, UInt8.toNat_sub_of_le _ _ one]
    exact Nat.sub_le _ _

theorem moveRight_le (position : UInt8) : moveRight position ≤ periscopeEnd :=
  Std.min_le_right

namespace InRange

variable {devices : Devices} (inRange : devices.InRange)

include inRange

theorem write (handler : OutHandler) (value : UInt8) :
    (devices.write handler value).InRange := by
  cases handler with
  | shiftOffset => exact { inRange with offset := devices.shifter.offset_setOffset_le value }
  | colorBank =>
      exact { inRange with colorBank := UInt8.le_iff_toNat_le.mpr Nat.and_le_right }
  | videoSelect =>
      exact { inRange with videoPage := UInt8.le_iff_toNat_le.mpr Nat.and_le_right }
  | sound channel =>
      simp only [Devices.write]
      split
      · exact inRange
      · exact ⟨inRange.offset, inRange.colorBank, inRange.videoPage, inRange.periscope⟩
  | _ => exact ⟨inRange.offset, inRange.colorBank, inRange.videoPage, inRange.periscope⟩

/-- The periscope is between its ends after it was moved to the left or not. -/
theorem periscope_left (input : Buttons) :
    (if input.isHeld "p1_left" then moveLeft devices.periscope else devices.periscope) ≤
      periscopeEnd := by
  split
  · exact UInt8.le_trans (moveLeft_le _) inRange.periscope
  · exact inRange.periscope

theorem latch (input : Buttons) : (devices.latch input).InRange where
  offset := inRange.offset
  colorBank := inRange.colorBank
  videoPage := inRange.videoPage
  periscope := by
    unfold Devices.latch
    dsimp only
    split
    · exact moveRight_le _
    · exact inRange.periscope_left input

end InRange

end Devices

namespace SystemBus

/-- No access of the processor brings the devices out of range. -/
theorem inRange_invariant :
    Machine.BusInvariant fun bus : SystemBus => bus.devices.InRange where
  write inRange _ _ := inRange
  input inRange _ := inRange
  output := by
    intro bus inRange port value
    change (bus.output port value).devices.InRange
    unfold output
    split
    · exact inRange.write _ value
    · exact inRange

end SystemBus

end Cabinet
