import Cabinet.Device.Devices
import Cabinet.Proofs.Text.Digits
import Mathlib.Data.List.Basic

/-!
# Names of sound channels

A name stands for a sound channel if it ends with the digit of the channel, behind
any zeros and at most one plus sign. There are as many latches as channels, so what
is put out for a channel with a name is always kept, in the latch of this channel.
-/

namespace Cabinet

/-- A name that is spelled like the one of the sound channel with this digit. -/
structure SpellsChannel (name : String) (digit : Nat) : Prop where
  bounds : 1 ≤ digit ∧ digit ≤ 8
  spelled : ∃ sign zeros, (sign = [] ∨ sign = ['+']) ∧
    name.toList = "sound_".toList ++ sign ++ List.replicate zeros '0' ++ [Nat.digitChar digit]

namespace OutHandler

/-- No name of the registry begins like the one of a sound channel. -/
theorem ofName?_eq_sound_iff {name : String} {channel : UInt8} :
    ofName? name = some (.sound channel) ↔ soundChannel? name = some channel := by
  have others : ∀ name ∈ ["shift_offset", "shift_data", "watchdog", "watchdog_reset",
      "coin_counter", "video_select"], soundChannel? name = none := by decide
  unfold ofName?
  split
  case h_7 =>
    rw [Option.map_eq_some_iff]
    constructor
    · rintro ⟨other, found, same⟩
      cases same
      exact found
    · intro found
      exact ⟨channel, found, rfl⟩
  all_goals
    rw [others _ (by decide)]
    exact iff_of_false nofun nofun

/-- A name is read as what all the names begin with and the text of a byte from 1 to 8. -/
theorem soundChannel?_eq_some_iff_byte {name : String} {channel : UInt8} :
    soundChannel? name = some channel ↔ (1 ≤ channel.toNat ∧ channel.toNat ≤ 8) ∧
      ∃ rest, name.toList = "sound_".toList ++ rest ∧ Text.byte? rest = some channel := by
  constructor
  · intro found
    obtain ⟨rest, behind, found⟩ := Option.bind_eq_some_iff.mp found
    obtain ⟨number, read, kept⟩ := Option.bind_eq_some_iff.mp found
    obtain ⟨bounds, same⟩ := Option.ite_none_right_eq_some.mp kept
    cases same
    exact ⟨bounds, rest, (List.isPrefixOf?_eq_some_iff_append_eq.mp behind).symm, read⟩
  · rintro ⟨bounds, rest, behind, read⟩
    have front := List.isPrefixOf?_eq_some_iff_append_eq.mpr behind.symm
    refine Option.bind_eq_some_iff.mpr ⟨rest, front, ?_⟩
    exact Option.bind_eq_some_iff.mpr ⟨channel, read, if_pos bounds⟩

/-- A name stands for a channel if it is spelled like the channel's name. -/
theorem soundChannel?_eq_some_iff {name : String} {channel : UInt8} :
    soundChannel? name = some channel ↔ SpellsChannel name channel.toNat := by
  rw [soundChannel?_eq_some_iff_byte]
  constructor
  · rintro ⟨bounds, rest, behind, read⟩
    obtain ⟨sign, zeros, signed, rfl⟩ := Text.byte?_eq_some_iff.mp read
    rw [Nat.toDigits_of_lt_base (by omega)] at behind
    refine ⟨bounds, sign, zeros, signed, ?_⟩
    simp only [behind, List.append_assoc]
  · rintro ⟨bounds, sign, zeros, signed, spelled⟩
    refine ⟨bounds, sign ++ List.replicate zeros '0' ++ [Nat.digitChar channel.toNat], ?_, ?_⟩
    · simp only [spelled, List.append_assoc]
    · rw [← Nat.toDigits_of_lt_base (b := 10) (by omega)]
      exact Text.byte?_eq_some_iff.mpr ⟨sign, zeros, signed, rfl⟩

/-- Zeros are skipped, and a number above a byte is not cut to one. -/
example : soundChannel? "sound_+007" = some 7 ∧ soundChannel? "sound_263" = none := by
  decide

end OutHandler

namespace Devices

/-- A channel with a name has a latch, which takes the byte; everything else stays. -/
theorem write_sound_of_bounds {channel : UInt8}
    (bounds : 1 ≤ channel.toNat ∧ channel.toNat ≤ 8) (devices : Devices) (value : UInt8) :
    ∃ inside : channel.toNat - 1 < 8, devices.write (.sound channel) value =
      { devices with sound := devices.sound.set (channel.toNat - 1) value inside } := by
  have inside : channel.toNat - 1 < 8 := by omega
  have audible : channel ≠ 0 := by
    rintro rfl
    exact absurd bounds.1 (by decide)
  refine ⟨inside, ?_⟩
  rw [write, if_neg audible]
  congr 1
  ext index bound
  rw [Vector.getElem_setIfInBounds, Vector.getElem_set]

end Devices

/--
What is true of a name as the one of a sound channel. The registry knows the channel of the
name exactly if it is spelled like one, and what is put out for it goes to the latch of the
channel, and nowhere else.
-/
structure NamesSound (name : String) : Prop where
  named : ∀ channel : UInt8,
    OutHandler.ofName? name = some (.sound channel) ↔ SpellsChannel name channel.toNat
  kept : ∀ channel : UInt8, OutHandler.ofName? name = some (.sound channel) →
    ∀ (devices : Devices) (value : UInt8), ∃ inside : channel.toNat - 1 < 8,
      devices.write (.sound channel) value =
        { devices with sound := devices.sound.set (channel.toNat - 1) value inside }

/-- Every name is that of a sound channel by its spelling, and every such channel has a latch. -/
theorem sound_names (name : String) : NamesSound name where
  named := by
    intro channel
    rw [OutHandler.ofName?_eq_sound_iff, OutHandler.soundChannel?_eq_some_iff]
  kept := by
    intro channel found devices value
    rw [OutHandler.ofName?_eq_sound_iff, OutHandler.soundChannel?_eq_some_iff] at found
    exact devices.write_sound_of_bounds found.bounds value

end Cabinet
