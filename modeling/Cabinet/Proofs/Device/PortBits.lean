import Cabinet.Device.Devices

/-!
# Bits that are joined

Several ports join bits, one for each held button or one for each sound channel in
use. A bit of such a port is set exactly if one of those that have it is in use.
-/

namespace Cabinet

/-- Joining the bits of some items sets the bits that one of them has. -/
theorem testBit_joined {α : Type} (chosen : α → Bool) (bit : α → UInt8) (items : List α)
    (start : UInt8) (place : Nat) :
    (items.foldl (fun sum item => if chosen item then sum ||| bit item else sum)
        start).toNat.testBit place =
      (start.toNat.testBit place ||
        items.any fun item => chosen item && (bit item).toNat.testBit place) := by
  induction items generalizing start with
  | nil => exact (Bool.or_false _).symm
  | cons item items ih =>
      rw [List.foldl_cons, ih, List.any_cons]
      cases chosen item with
      | false => rfl
      | true => rw [if_pos rfl, UInt8.toNat_or, Nat.testBit_or, Bool.or_assoc, Bool.true_and]

/-- A bit of a port with buttons is set if a button that has this bit is held. -/
theorem Buttons.testBit_mask (buttons : Buttons) (bits : List (String × UInt8)) (place : Nat) :
    (buttons.mask bits).toNat.testBit place =
      bits.any fun entry => buttons.isHeld entry.1 && entry.2.toNat.testBit place := by
  rw [mask, List.foldl_filter, testBit_joined, UInt8.toNat_zero, Nat.zero_testBit, Bool.false_or]

namespace Devices

/-- The bit of a sound channel is set if its latch is not zero. -/
theorem testBit_soundStatus (devices : Devices) {index : Nat} (inside : index < 8) :
    devices.soundStatus.toNat.testBit index = true ↔ devices.sound[index] ≠ 0 := by
  have bit : ∀ channel : Fin 8, (1 <<< UInt8.ofNat channel : UInt8).toNat = 2 ^ channel.val := by
    decide
  have joined : devices.soundStatus =
      (List.range 8).foldl (fun sum channel =>
        if decide (devices.sound[channel]? ≠ some 0) then sum ||| 1 <<< UInt8.ofNat channel
        else sum) 0 := by
    unfold soundStatus
    congr
    funext sum channel
    by_cases silent : devices.sound[channel]? = some 0
    · simp only [silent, ↓reduceIte, ne_eq, not_true_eq_false, decide_false, Bool.false_eq_true]
    · simp only [silent, ↓reduceIte, ne_eq, not_false_eq_true, decide_true]
  rw [joined, testBit_joined]
  simp only [UInt8.toNat_zero, Nat.zero_testBit, Bool.false_or, List.any_eq_true, List.mem_range,
    Bool.and_eq_true, decide_eq_true_eq]
  constructor
  · rintro ⟨channel, small, used, set⟩ silent
    rw [bit ⟨channel, small⟩, Nat.testBit_two_pow, decide_eq_true_eq] at set
    subst set
    exact used ((Vector.getElem?_eq_getElem inside).trans (congrArg some silent))
  · intro used
    refine ⟨index, inside, ?_, ?_⟩
    · rw [Vector.getElem?_eq_getElem inside]
      exact fun silent => used (Option.some_inj.mp silent)
    · rw [bit ⟨index, inside⟩, Nat.testBit_two_pow_self]

end Devices

end Cabinet
