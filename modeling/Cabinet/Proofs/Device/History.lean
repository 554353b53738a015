import Cabinet.Proofs.Cpu.Word
import Cabinet.Proofs.Device.Ownership
import Cabinet.Proofs.Device.PortBits
import Cabinet.Proofs.Device.Range
import Mathlib.Data.List.Induction

/-!
# What devices remember

From power-on devices are written, read and given controls in any order. What they
show of it afterwards is a function of the bytes that were written: of the last two
for the shift register and the last one for its offset, of the rises of the coin
counter's line, of the last byte for each sound channel and of the number of bytes
for the watchdog. The switches are shown as they were set.
-/

namespace Cabinet

/-- What happens to devices. -/
inductive Access where
  | put (delivery : Delivery)
  | read (handler : InHandler) (port : UInt8)
  | latch (input : Buttons)
deriving DecidableEq

/-- What is delivered in the course of some accesses. -/
def delivered (accesses : List Access) : List Delivery :=
  accesses.filterMap fun
    | .put delivery => some delivery
    | .read _ _ | .latch _ => none

/-- The bytes that some accesses put out for a handler, in order. -/
def bytesPut (handler : OutHandler) (accesses : List Access) : List UInt8 :=
  bytesFor handler (delivered accesses)

/-- The byte that has so many bytes behind it, or zero where there is none. -/
def newest (bytes : List UInt8) (behind : Nat) : Nat :=
  (bytes.reverse[behind]?.getD 0).toNat

/-- A byte with bit 0 set whose predecessor, if it has one, has bit 0 clear. -/
def isRise (entry : Option UInt8 × UInt8) : Bool :=
  entry.2.toNat.testBit 0 && entry.1.all fun before => !before.toNat.testBit 0

/-- How many bytes set bit 0 that was clear in their predecessor; the first may have one. -/
def rises (before : Option UInt8) (bytes : List UInt8) : Nat :=
  ((before :: bytes.map some).zip bytes).countP isRise

namespace Devices

/-- The effect of an access; nothing changes when a port is read. -/
def access (devices : Devices) : Access → Devices
  | .put delivery => devices.receive delivery
  | .read _ _ => devices
  | .latch input => devices.latch input

/-! ## Runs -/

theorem latchOf_latch (devices : Devices) (input : Buttons) (handler : OutHandler) :
    (devices.latch input).latchOf handler = devices.latchOf handler := by
  cases handler <;> rfl

/-- Reading ports and latching controls leave the handlers' latches alone. -/
theorem latchOf_accesses (devices : Devices) (handler : OutHandler) (accesses : List Access) :
    (accesses.foldl access devices).latchOf handler =
      (bytesPut handler accesses).foldl handler.take (devices.latchOf handler) := by
  induction accesses generalizing devices with
  | nil => rfl
  | cons next accesses ih =>
      rw [List.foldl_cons, ih]
      cases next with
      | put delivery => exact (devices.foldl_take_bytesFor_cons handler delivery _).symm
      | read handler port => rfl
      | latch input =>
          change _ = (bytesPut handler accesses).foldl handler.take (devices.latchOf handler)
          rw [access, latchOf_latch]

theorem dip_accesses (devices : Devices) (accesses : List Access) :
    (accesses.foldl access devices).dip = devices.dip := by
  induction accesses generalizing devices with
  | nil => rfl
  | cons next accesses ih =>
      rw [List.foldl_cons, ih]
      cases next with
      | put delivery => exact (devices.untouched_write delivery.handler delivery.value).dip
      | read handler port => rfl
      | latch input => rfl

end Devices

/-! ## Latches of single handlers -/

theorem newest_concat_zero (bytes : List UInt8) (byte : UInt8) :
    newest (bytes ++ [byte]) 0 = byte.toNat := by
  rw [newest, List.reverse_concat]
  rfl

theorem newest_concat_succ (bytes : List UInt8) (byte : UInt8) (behind : Nat) :
    newest (bytes ++ [byte]) (behind + 1) = newest bytes behind := by
  rw [newest, List.reverse_concat, List.getElem?_cons_succ, newest]

theorem newest_lt (bytes : List UInt8) (behind : Nat) : newest bytes behind < 256 :=
  UInt8.toNat_lt _

theorem toNat_shiftIn (word : UInt16) (byte : UInt8) :
    (shiftIn word byte).toNat = 256 * byte.toNat + word.toNat / 256 := by
  have high : word >>> 8 = (Cpu.highByte word).toUInt16 := by
    rw [← UInt16.toNat_inj, UInt8.toNat_toUInt16, Cpu.toNat_highByte, UInt16.toNat_shiftRight,
      Nat.shiftRight_eq_div_pow]
    rfl
  have joined : shiftIn word byte = Cpu.joinBytes byte (Cpu.highByte word) :=
    congrArg (byte.toUInt16 <<< 8 ||| ·) high
  rw [joined, Cpu.toNat_joinBytes, Cpu.toNat_highByte]

/-- The register holds the last byte above the one before it. -/
theorem toNat_foldl_shiftIn (bytes : List UInt8) :
    (bytes.foldl shiftIn 0).toNat = 256 * newest bytes 0 + newest bytes 1 := by
  induction bytes using List.reverseRecOn with
  | nil => rfl
  | append_singleton bytes byte ih =>
      have low := newest_lt bytes 1
      rw [List.foldl_concat, toNat_shiftIn, ih, newest_concat_zero, newest_concat_succ]
      omega

/-- A latch that a byte replaces holds what the last one left. -/
theorem foldl_replace {α : Type} (keep : UInt8 → α) (bytes : List UInt8) (held : α) :
    bytes.foldl (fun _ byte => keep byte) held = (bytes.getLast?.map keep).getD held := by
  induction bytes using List.reverseRecOn with
  | nil => rfl
  | append_singleton bytes byte _ =>
      rw [List.foldl_concat, List.getLast?_concat]
      rfl

theorem newest_zero (bytes : List UInt8) : newest bytes 0 = (bytes.getLast?.getD 0).toNat := by
  rw [newest, ← List.head?_eq_getElem?, List.head?_reverse]

theorem toNat_foldl_offset (bytes : List UInt8) :
    (bytes.foldl (fun (_ : UInt8) byte => byte &&& 7) 0).toNat = newest bytes 0 % 8 := by
  rw [foldl_replace, newest_zero]
  cases bytes.getLast? with
  | none => rfl
  | some byte =>
      exact (UInt8.toNat_and _ _).trans (Nat.and_two_pow_sub_one_eq_mod byte.toNat 3)

theorem foldl_sound (bytes : List UInt8) (held : Option UInt8) :
    bytes.foldl (fun (held : Option UInt8) byte => held.map fun _ => byte) held =
      held.map fun before => bytes.getLast?.getD before := by
  induction bytes using List.reverseRecOn with
  | nil => exact Option.map_id'.symm
  | append_singleton bytes byte ih =>
      rw [List.foldl_concat, ih, List.getLast?_concat]
      exact Option.map_map ..

theorem toNat_foldl_count (bytes : List UInt8) (count : UInt64) :
    (bytes.foldl (fun (count : UInt64) _ => count + 1) count).toNat =
      (count.toNat + bytes.length) % 2 ^ 64 := by
  induction bytes generalizing count with
  | nil => exact (Nat.mod_eq_of_lt count.toNat_lt).symm
  | cons byte bytes ih =>
      rw [List.foldl_cons, ih, UInt64.toNat_add, Nat.mod_add_mod, List.length_cons, Nat.add_assoc,
        Nat.add_comm bytes.length]
      rfl

/-! ## Rises of the coin counter's line -/

theorem lowBit_eq (byte : UInt8) : (byte &&& 1 != 0) = byte.toNat.testBit 0 := by
  have low : (byte &&& 1).toNat = byte.toNat % 2 :=
    (UInt8.toNat_and _ _).trans (Nat.and_two_pow_sub_one_eq_mod byte.toNat 1)
  rw [Bool.eq_iff_iff, bne_iff_ne, Nat.testBit_zero, decide_eq_true_eq, ne_eq, ← UInt8.toNat_inj,
    low]
  exact Nat.mod_two_ne_zero

theorem risesAfter_eq (before byte : UInt8) :
    risesAfter before byte = isRise (some before, byte) := by
  have lowered : (before &&& 1 == 0) = !before.toNat.testBit 0 := by
    rw [← lowBit_eq]
    exact (Bool.not_not _).symm
  rw [risesAfter, lowBit_eq, lowered]
  rfl

theorem rises_cons (before : Option UInt8) (byte : UInt8) (bytes : List UInt8) :
    rises before (byte :: bytes) =
      (if isRise (before, byte) then 1 else 0) + rises (some byte) bytes := by
  rw [rises, List.map_cons, List.zip_cons_cons, List.countP_cons, Nat.add_comm]
  rfl

/-- A line that nothing was written to is low. -/
theorem rises_none (bytes : List UInt8) : rises none bytes = rises (some 0) bytes := by
  cases bytes with
  | nil => rfl
  | cons byte bytes =>
      rw [rises_cons, rises_cons]
      rfl

theorem toNat_foldl_countRise (bytes : List UInt8) (before : UInt8) (count : UInt32) :
    (bytes.foldl countRise (before, count)).2.toNat =
      (count.toNat + rises (some before) bytes) % 2 ^ 32 := by
  induction bytes generalizing before count with
  | nil => exact (Nat.mod_eq_of_lt count.toNat_lt).symm
  | cons byte bytes ih =>
      rw [List.foldl_cons, countRise, ih, rises_cons, risesAfter_eq]
      split
      · rw [UInt32.toNat_add, Nat.mod_add_mod, Nat.add_assoc]
        rfl
      · rw [Nat.zero_add]

/-! ## What is shown -/

/-- A byte for a sound channel that there is not. -/
def Access.isLost : Access → Bool
  | .put ⟨.sound channel, _, _⟩ => channel.toNat = 0 || soundChannels < channel.toNat
  | _ => false

namespace Devices

theorem access_of_isLost (devices : Devices) {next : Access} (lost : next.isLost = true) :
    devices.access next = devices := by
  unfold Access.isLost at lost
  split at lost
  · rename_i channel port value
    change devices.write (.sound channel) value = devices
    rw [Bool.or_eq_true, decide_eq_true_eq, decide_eq_true_eq] at lost
    simp only [write]
    split
    · rfl
    · rename_i positive
      have beyond : 8 < channel.toNat :=
        lost.resolve_left fun zero => positive (UInt8.toNat_inj.mp zero)
      rw [Vector.setIfInBounds_eq_of_size_le (Nat.le_sub_one_of_lt beyond)]
  · exact absurd lost Bool.false_ne_true

/-- Nothing is changed by bytes for sound channels that there are not. -/
theorem accesses_filter (devices : Devices) (accesses : List Access) :
    (accesses.filter fun next => !next.isLost).foldl access devices =
      accesses.foldl access devices := by
  rw [List.foldl_filter]
  congr
  funext devices next
  cases lost : next.isLost with
  | false => rfl
  | true => exact (devices.access_of_isLost lost).symm

theorem toNat_result (shifter : Shifter) (small : shifter.offset.toNat ≤ 7) :
    shifter.result.toNat = shifter.value.toNat * 2 ^ shifter.offset.toNat / 256 % 256 := by
  have windowed : shifter.Windowed := Shifter.windowed_of_le (UInt8.le_iff_toNat_le.mpr small)
  have places : 2 ^ (8 - shifter.offset.toNat) * 2 ^ shifter.offset.toNat = 256 := by
    rw [← Nat.pow_add, Nat.sub_add_cancel (Nat.le_succ_of_le small)]
  rw [windowed.result, Nat.shiftRight_eq_div_pow, ← places,
    Nat.mul_div_mul_right _ _ (Nat.two_pow_pos _), places]

theorem soundLatch?_eq_some (devices : Devices) {channel : UInt8} (positive : 1 ≤ channel.toNat)
    (inside : channel.toNat - 1 < 8) :
    devices.soundLatch? channel = some devices.sound[channel.toNat - 1] := by
  have present : channel ≠ 0 := by
    rintro rfl
    exact absurd positive (by decide)
  rw [soundLatch?, if_neg present, Vector.getElem?_eq_getElem inside]

/-- What the devices with these switches are after some accesses. -/
def after (dip : UInt8) (accesses : List Access) : Devices :=
  accesses.foldl access (new dip)

section After

variable (dip : UInt8) (accesses : List Access)

theorem latchOf_after (handler : OutHandler) :
    (after dip accesses).latchOf handler =
      (bytesPut handler accesses).foldl handler.take ((new dip).latchOf handler) :=
  latchOf_accesses (new dip) handler accesses

theorem toNat_offset_after :
    (after dip accesses).shifter.offset.toNat = newest (bytesPut .shiftOffset accesses) 0 % 8 := by
  have latch : (after dip accesses).shifter.offset =
      (bytesPut .shiftOffset accesses).foldl (fun _ byte => byte &&& 7) 0 :=
    latchOf_after dip accesses .shiftOffset
  rw [latch, toNat_foldl_offset]

theorem toNat_value_after :
    (after dip accesses).shifter.value.toNat =
      256 * newest (bytesPut .shiftData accesses) 0 + newest (bytesPut .shiftData accesses) 1 := by
  have latch : (after dip accesses).shifter.value =
      (bytesPut .shiftData accesses).foldl shiftIn 0 := latchOf_after dip accesses .shiftData
  rw [latch, toNat_foldl_shiftIn]

theorem coinsCounted_after :
    (after dip accesses).coinsCounted.toNat =
      rises none (bytesPut .coinCounter accesses) % 2 ^ 32 := by
  have latch : ((after dip accesses).coinLatch, (after dip accesses).coinsCounted) =
      (bytesPut .coinCounter accesses).foldl countRise (0, 0) :=
    latchOf_after dip accesses .coinCounter
  calc (after dip accesses).coinsCounted.toNat
      = ((bytesPut .coinCounter accesses).foldl countRise (0, 0)).2.toNat :=
        congrArg (fun coins => UInt32.toNat coins.2) latch
    _ = (0 + rises (some 0) (bytesPut .coinCounter accesses)) % 2 ^ 32 :=
        toNat_foldl_countRise _ 0 0
    _ = rises none (bytesPut .coinCounter accesses) % 2 ^ 32 := by
        rw [Nat.zero_add, rises_none]

theorem watchdogResets_after :
    (after dip accesses).watchdogResets.toNat =
      (bytesPut .watchdogReset accesses).length % 2 ^ 64 := by
  have latch : (after dip accesses).watchdogResets =
      (bytesPut .watchdogReset accesses).foldl (fun count _ => count + 1) 0 :=
    latchOf_after dip accesses .watchdogReset
  rw [latch, toNat_foldl_count, UInt64.toNat_zero, Nat.zero_add]

theorem sound_after {channel : UInt8} (positive : 1 ≤ channel.toNat)
    (inside : channel.toNat - 1 < 8) :
    (after dip accesses).sound[channel.toNat - 1] =
      (bytesPut (.sound channel) accesses).getLast?.getD 0 := by
  have silent : (new dip).soundLatch? channel = some 0 := by
    rw [soundLatch?_eq_some _ positive inside]
    exact congrArg some (Vector.getElem_replicate inside)
  have latch : (after dip accesses).soundLatch? channel =
      (bytesPut (.sound channel) accesses).foldl (fun held byte => held.map fun _ => byte)
        ((new dip).soundLatch? channel) := latchOf_after dip accesses (.sound channel)
  rw [foldl_sound, silent, soundLatch?_eq_some _ positive inside, Option.map_some,
    Option.some_inj] at latch
  exact latch

end After

/--
How everything that devices show depends on what was written. The shift result is the last
byte above the one before it, moved up by the last offset. Sound channels without a latch
might as well not be written.
-/
structure ShowsHistory (dip : UInt8) (accesses : List Access) : Prop where
  shiftResult : ((after dip accesses).read .shiftResult).toNat =
    (256 * newest (bytesPut .shiftData accesses) 0 + newest (bytesPut .shiftData accesses) 1) *
      2 ^ (newest (bytesPut .shiftOffset accesses) 0 % 8) / 256 % 256
  coins : (after dip accesses).coinsCounted.toNat =
    rises none (bytesPut .coinCounter accesses) % 2 ^ 32
  soundStatus : ∀ channel : UInt8, 1 ≤ channel.toNat → channel.toNat ≤ soundChannels →
    (((after dip accesses).read .soundStatus).toNat.testBit (channel.toNat - 1) = true ↔
      ∃ byte, (bytesPut (.sound channel) accesses).getLast? = some byte ∧ byte ≠ 0)
  otherChannels : after dip (accesses.filter fun next => !next.isLost) = after dip accesses
  watchdog : (after dip accesses).watchdogResets.toNat =
    (bytesPut .watchdogReset accesses).length % 2 ^ 64
  dipSwitches : (after dip accesses).read .dipSwitches = dip

/-- Everything that devices show of the past is a function of the bytes that were written. -/
theorem shows_history (dip : UInt8) (accesses : List Access) : ShowsHistory dip accesses := by
  constructor
  case shiftResult =>
    have places := toNat_offset_after dip accesses
    have small : (after dip accesses).shifter.offset.toNat ≤ 7 :=
      places ▸ Nat.le_of_lt_succ (Nat.mod_lt _ (by decide))
    rw [read, toNat_result _ small, places, toNat_value_after]
  case coins => exact coinsCounted_after dip accesses
  case soundStatus =>
    intro channel positive inside
    have present : channel.toNat - 1 < 8 := Nat.sub_one_lt_of_le positive inside
    rw [read, testBit_soundStatus _ present, sound_after dip accesses positive present]
    cases (bytesPut (.sound channel) accesses).getLast? with
    | none =>
        simp only [Option.getD_none, ne_eq, not_true_eq_false, reduceCtorEq, false_and,
          exists_false]
    | some byte => simp only [Option.getD_some, ne_eq, Option.some.injEq, exists_eq_left']
  case otherChannels => exact accesses_filter (new dip) accesses
  case watchdog => exact watchdogResets_after dip accesses
  case dipSwitches => exact dip_accesses (new dip) accesses

/-- 0x55 above 0xAA, moved up by three places. -/
example :
    (after 8 [.put ⟨.shiftData, 4, 0xAA⟩, .read .shiftResult 3, .put ⟨.shiftData, 4, 0x55⟩,
      .put ⟨.shiftOffset, 2, 3⟩]).read .shiftResult = 0xAD := by
  decide

end Devices

end Cabinet
