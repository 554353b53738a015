import Cabinet.Board.Save
import Cabinet.Proofs.Json.Record

/-!
# Saved states are read back

Every part of a saved state is read back as it was written. The latched
controls are the only thing that the saved form of the devices leaves out. A
board takes a state back if its version and its game are right.
-/

namespace Cabinet

open Json Outcome Json.Fields

namespace Cpu

theorem reads_toJson (cpu : Cpu) : Reads reader cpu.toJson cpu := by
  intro node shows
  obtain ⟨given, read, holds⟩ := read_object "Cpu8080State" fields shows (by simp) <|
    admitted_cons (reads_uint8 cpu.a) rfl <|
    admitted_cons (reads_uint8 cpu.b) rfl <|
    admitted_cons (reads_uint8 cpu.c) rfl <|
    admitted_cons (reads_uint64 cpu.cycles) rfl <|
    admitted_cons (reads_uint8 cpu.d) rfl <|
    admitted_cons (reads_uint8 cpu.e) rfl <|
    admitted_cons (reads_uint8 cpu.flags) rfl <|
    admitted_cons (reads_uint8 cpu.h) rfl <|
    admitted_cons (reads_bool cpu.halted) rfl <|
    admitted_cons (reads_bool cpu.enabled) rfl <|
    admitted_cons (reads_uint8 cpu.l) rfl <|
    admitted_cons (reads_uint16 cpu.pc) rfl <|
    admitted_cons (reads_option reads_uint8 (fun _ => nofun) cpu.pending) rfl <|
    admitted_cons (reads_uint16 cpu.sp) rfl admitted_nil
  simp only [reader, read, ok_bind,
    holds.required "a" rfl (reads_uint8 cpu.a),
    holds.required "b" rfl (reads_uint8 cpu.b),
    holds.required "c" rfl (reads_uint8 cpu.c),
    holds.required "d" rfl (reads_uint8 cpu.d),
    holds.required "e" rfl (reads_uint8 cpu.e),
    holds.required "h" rfl (reads_uint8 cpu.h),
    holds.required "l" rfl (reads_uint8 cpu.l),
    holds.required "sp" rfl (reads_uint16 cpu.sp),
    holds.required "pc" rfl (reads_uint16 cpu.pc),
    holds.required "flags" rfl (reads_uint8 cpu.flags),
    holds.required "inte" rfl (reads_bool cpu.enabled),
    holds.required "halted" rfl (reads_bool cpu.halted),
    holds.defaultTo "pending_interrupt" none rfl
      (reads_option reads_uint8 (fun _ => nofun) cpu.pending),
    holds.required "cycles" rfl (reads_uint64 cpu.cycles)]
  rfl

end Cpu

theorem Shifter.reads_toJson (shifter : Shifter) : Reads reader shifter.toJson shifter := by
  intro node shows
  obtain ⟨given, read, holds⟩ := read_object "ShiftRegister" fields shows (by simp) <|
    admitted_cons (reads_uint8 shifter.offset) rfl <|
    admitted_cons (reads_uint16 shifter.value) rfl admitted_nil
  simp only [reader, read, ok_bind,
    holds.required "value" rfl (reads_uint16 shifter.value),
    holds.required "offset" rfl (reads_uint8 shifter.offset)]
  rfl

namespace Devices

theorem reads_sound (sound : Vector UInt8 8) :
    Reads soundReader (.array (sound.toList.map fun latch => .ofNat latch.toNat)) sound := by
  intro node shows
  have latches := reads_array reads_uint8 sound.toList node shows
  rw [Vector.length_toList] at latches
  rw [soundReader, latches, ok_bind]
  apply congrArg Except.ok
  ext index bound
  simp

theorem reads_toJson (devices : Devices) :
    Reads reader devices.toJson { devices with input := {} } := by
  intro node shows
  obtain ⟨given, read, holds⟩ := read_object "Devices" fields shows (by simp) <|
    admitted_cons (reads_uint8 devices.coinLatch) rfl <|
    admitted_cons (reads_uint32 devices.coinsCounted) rfl <|
    admitted_cons (reads_uint8 devices.colorBank) rfl <|
    admitted_cons (reads_uint8 devices.dip) rfl <|
    admitted_cons (reads_bool devices.flipScreen) rfl <|
    admitted_cons (reads_uint8 devices.periscope) rfl <|
    admitted_cons devices.shifter.reads_toJson rfl <|
    admitted_cons (reads_sound devices.sound) rfl <|
    admitted_cons (reads_bool devices.speechActive) rfl <|
    admitted_cons (reads_uint8 devices.speechData) rfl <|
    admitted_cons (reads_uint8 devices.videoPage) rfl <|
    admitted_cons (reads_uint64 devices.watchdogResets) rfl admitted_nil
  simp only [reader, read, ok_bind,
    holds.required "shifter" rfl devices.shifter.reads_toJson,
    holds.required "sound" rfl (reads_sound devices.sound),
    holds.required "video_page" rfl (reads_uint8 devices.videoPage),
    holds.required "flip_screen" rfl (reads_bool devices.flipScreen),
    holds.required "color_bank" rfl (reads_uint8 devices.colorBank),
    holds.required "speech_active" rfl (reads_bool devices.speechActive),
    holds.required "speech_data" rfl (reads_uint8 devices.speechData),
    holds.required "watchdog_resets" rfl (reads_uint64 devices.watchdogResets),
    holds.required "coin_counter_latch" rfl (reads_uint8 devices.coinLatch),
    holds.required "coins_counted" rfl (reads_uint32 devices.coinsCounted),
    holds.required "dip" rfl (reads_uint8 devices.dip),
    holds.required "periscope" rfl (reads_uint8 devices.periscope)]
  rfl

end Devices

theorem RamImage.reads_toJson (image : RamImage) : Reads reader image.toJson image := by
  intro node shows
  obtain ⟨given, read, holds⟩ := read_object "RamSnapshot" fields shows (by simp) <|
    admitted_cons (reads_list fun value _ => reads_uint8 value) rfl <|
    admitted_cons (reads_uint16 image.start) rfl admitted_nil
  simp only [reader, read, ok_bind,
    holds.required "start" rfl (reads_uint16 image.start),
    holds.required "bytes" rfl (reads_list fun value _ => reads_uint8 value)]
  rfl

namespace SavedState

/-- What a state is read back as: nothing is latched in it. -/
def unlatched (state : SavedState) : SavedState :=
  { state with devices := { state.devices with input := {} } }

theorem reads_toJson (state : SavedState) : Reads reader state.toJson state.unlatched := by
  intro node shows
  obtain ⟨given, read, holds⟩ := read_object "ArcadeState" fields shows (by simp) <|
    admitted_cons state.cpu.reads_toJson rfl <|
    admitted_cons state.devices.reads_toJson rfl <|
    admitted_cons (reads_uint64 state.frameIndex) rfl <|
    admitted_cons (reads_string state.game) rfl <|
    admitted_cons (reads_list fun image _ => image.reads_toJson) rfl <|
    admitted_cons (reads_string state.system) rfl <|
    admitted_cons (reads_uint32 state.version) rfl admitted_nil
  simp only [reader, read, ok_bind,
    holds.required "system" rfl (reads_string state.system),
    holds.required "version" rfl (reads_uint32 state.version),
    holds.required "game" rfl (reads_string state.game),
    holds.required "frame_index" rfl (reads_uint64 state.frameIndex),
    holds.required "cpu" rfl state.cpu.reads_toJson,
    holds.required "devices" rfl state.devices.reads_toJson,
    holds.required "ram" rfl (reads_list fun image _ => image.reads_toJson)]
  rfl

end SavedState

namespace Board

theorem checkState_eq_ok_iff {board : Board} {state : SavedState} :
    board.checkState state = .ok () ↔
      state.version = SavedState.currentVersion ∧ state.game = board.config.name := by
  unfold checkState
  split
  · rename_i version
    simp [version]
  · rename_i version
    split
    · rename_i game
      simp [game]
    · rename_i game
      exact iff_of_true rfl ⟨Decidable.not_not.mp version, Decidable.not_not.mp game⟩

/-- A value is taken back if it is a state with the right version and game. -/
theorem restore_eq_ok_iff {board next : Board} {value : Json} :
    board.restore value = .ok next ↔
      ∃ state, Json.readValue SavedState.reader value = .ok state ∧
        (state.version = SavedState.currentVersion ∧ state.game = board.config.name) ∧
          next = board.withState state := by
  unfold restore
  constructor
  · intro restored
    obtain ⟨state, read, rest⟩ := Outcome.bind_eq_ok_iff.mp restored
    obtain ⟨_, passed, rest⟩ := Outcome.bind_eq_ok_iff.mp rest
    cases rest
    exact ⟨state, Outcome.mapError_eq_ok_iff.mp read, checkState_eq_ok_iff.mp passed, rfl⟩
  · rintro ⟨state, read, passed, rfl⟩
    rw [read, Outcome.ok_mapError, Outcome.ok_bind, checkState_eq_ok_iff.mpr passed,
      Outcome.ok_bind]
    rfl

/-- A state with the right version and game is taken back from its saved form. -/
theorem restore_toJson {board : Board} {state : SavedState}
    (version : state.version = SavedState.currentVersion)
    (game : state.game = board.config.name) :
    board.restore state.toJson = .ok (board.withState state.unlatched) :=
  restore_eq_ok_iff.mpr ⟨_, state.reads_toJson.readValue, ⟨version, game⟩, rfl⟩

end Board

end Cabinet
