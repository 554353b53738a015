import Cabinet.Preset
import Cabinet.Proofs.Board.Reachable
import Cabinet.Proofs.Board.Schedule
import Cabinet.Proofs.Device.Range
import Cabinet.Proofs.Machine.PortTraffic

/-!
# Devices in range

Nothing that a player or a program does brings the devices of a board out of
range, in a frame or between frames. A saved state is taken back as it is, so
the devices stay in range exactly as long as those of the accepted states are.
-/

namespace Cabinet

namespace Devices

theorem inRange_unlatched {devices : Devices} (input : Buttons) :
    { devices with input }.InRange ↔ devices.InRange :=
  ⟨fun inRange => ⟨inRange.offset, inRange.colorBank, inRange.videoPage, inRange.periscope⟩,
    fun inRange => ⟨inRange.offset, inRange.colorBank, inRange.videoPage, inRange.periscope⟩⟩

end Devices

namespace Board

/-- If an operation takes a state back, the devices in it are in range. -/
def Operation.Admissible (board : Board) (operation : Operation) : Prop :=
  ∀ value state, operation = .restore value →
    Json.readValue SavedState.reader value = .ok state → board.checkState state = .ok () →
      state.devices.InRange

/-- The devices are in range now and throughout whatever frame comes next. -/
structure Ranged (board : Board) : Prop where
  devices : board.devices.InRange
  window : board.devices.shifter.Windowed
  frame : ∀ past, past <+: board.frameEvents →
    (board.latched.follow past).bus.devices.InRange ∧
      (board.latched.follow past).bus.devices.shifter.Windowed

theorem ranged_iff (board : Board) : board.Ranged ↔ board.devices.InRange := by
  constructor
  · exact Ranged.devices
  · intro inRange
    refine ⟨inRange, Shifter.windowed_of_le inRange.offset, ?_⟩
    intro past _
    have latched : board.latched.bus.devices.InRange := inRange.latch board.input
    have kept := SystemBus.inRange_invariant.follow latched past
    exact ⟨kept, Shifter.windowed_of_le kept.offset⟩

/-! ## One operation -/

theorem inRange_advance {board : Board} (inRange : board.devices.InRange) :
    board.advance.devices.InRange := by
  rw [devices, machine_advance_eq_follow]
  exact SystemBus.inRange_invariant.follow (inRange.latch board.input) board.frameEvents

theorem inRange_orStay {board : Board} {outcome : Except BoardError Board}
    (inRange : board.devices.InRange)
    (succeeds : ∀ next, outcome = .ok next → next.devices.InRange) :
    (board.orStay outcome).devices.InRange :=
  @orStay_cases (fun next => next.devices.InRange) board outcome inRange succeeds

theorem inRange_of_images {board next : Board} (inRange : board.devices.InRange)
    (images : board.DiffersInImages next) : next.devices.InRange := by
  obtain ⟨change, mounted, rfl⟩ := images
  exact inRange

/-- Every operation keeps the devices in range, if what it takes back is in range. -/
theorem inRange_perform {board : Board} (inRange : board.devices.InRange) {operation : Operation}
    (admissible : operation.Admissible board) :
    (board.perform operation).devices.InRange := by
  cases operation with
  | switch game => exact Devices.inRange_new game.config.dip
  | loadRoms files => exact inRange_of_images inRange (board.differs_loadRoms files)
  | mount id bytes =>
      exact inRange_orStay inRange fun next mounted =>
        inRange_of_images inRange (differs_mount mounted)
  | unmount id =>
      exact inRange_orStay inRange fun next unmounted =>
        inRange_of_images inRange (differs_unmount unmounted)
  | setInput input => exact inRange
  | runFrame => exact inRange_advance inRange
  | reset => exact Devices.inRange_new board.config.dip
  | restore value =>
      apply inRange_orStay inRange
      intro next restored
      obtain ⟨state, read, passed, rfl⟩ := restore_eq_ok_iff.mp restored
      have saved := admissible value state rfl read (checkState_eq_ok_iff.mpr passed)
      exact (Devices.inRange_unlatched board.devices.input).mpr saved

/-- What was taken back is in range if the devices are so afterwards. -/
theorem admissible_of_inRange {board : Board} {operation : Operation}
    (inRange : (board.perform operation).devices.InRange) : operation.Admissible board := by
  rintro value state rfl read passed
  have restored : board.restore value = .ok (board.withState state) :=
    restore_eq_ok_iff.mpr ⟨state, read, checkState_eq_ok_iff.mp passed, rfl⟩
  rw [perform, restored] at inRange
  exact (Devices.inRange_unlatched board.devices.input).mp inRange

/-- States that were saved while the devices were in range can always be taken back. -/
theorem admissible_save (board : Board) {source : Board} (inRange : source.devices.InRange) :
    (Operation.restore source.save).Admissible board := by
  rintro value state ⟨rfl⟩ read -
  cases (source.savedState.reads_toJson.readValue).symm.trans read
  exact (Devices.inRange_unlatched {}).mpr inRange

/-! ## All operations -/

theorem inRange_performAll {board : Board} (inRange : board.devices.InRange)
    {operations : List Operation}
    (admissible : ∀ past operation, past ++ [operation] <+: operations →
      operation.Admissible (board.performAll past)) :
    (board.performAll operations).devices.InRange := by
  induction operations generalizing board with
  | nil => exact inRange
  | cons operation operations ih =>
      apply ih (inRange_perform inRange (admissible [] operation ⟨operations, rfl⟩))
      intro past later leads
      exact admissible (operation :: past) later (List.cons_prefix_cons.mpr ⟨rfl, leads⟩)

/--
From power-on the devices are in range on all boards on the way exactly if they are
so in all states that are taken back, as they are in states saved on the way.
-/
theorem devices_stay_inRange (game : Game) (operations : List Operation) :
    ((∀ past, past <+: operations → ((new game).performAll past).Ranged) ↔
      ∀ past operation, past ++ [operation] <+: operations →
        operation.Admissible ((new game).performAll past)) ∧
    ∀ past, ((new game).performAll past).Ranged →
      ∀ board, (Operation.restore ((new game).performAll past).save).Admissible board := by
  refine ⟨⟨?_, ?_⟩, ?_⟩
  · intro ranged past operation leads
    apply admissible_of_inRange
    have next := (ranged (past ++ [operation]) leads).devices
    rwa [performAll, List.foldl_append] at next
  · intro admissible past leads
    apply (ranged_iff _).mpr
    have powerOn : (new game).devices.InRange := Devices.inRange_new game.config.dip
    apply inRange_performAll powerOn
    intro earlier operation sooner
    exact admissible earlier operation (sooner.trans leads)
  · intro past ranged board
    exact board.admissible_save ranged.devices

/-- A state that is taken back moves the window to where no output can move it. -/
theorem devices_leave_inRange :
    let game : Game := ⟨Preset.spaceInvaders, {}⟩
    let state : SavedState :=
      { (new game).savedState with devices := { shifter := { value := 1, offset := 8 } } }
    let board := (new game).perform (.restore state.toJson)
    Reachable board ∧ ¬ board.devices.InRange ∧ ¬ board.devices.shifter.Windowed ∧
      board.devices.shifter.offset = 8 ∧
      board.devices.read .shiftResult = 1 ∧
      ∀ value, (board.devices.write .shiftOffset value).read .shiftResult = 0 := by
  intro game state board
  have restored : (new game).restore state.toJson = .ok ((new game).withState state.unlatched) :=
    restore_toJson rfl rfl
  have shifter : board.devices.shifter = { value := 1, offset := 8 } := by
    change ((new game).orStay ((new game).restore state.toJson)).devices.shifter = _
    rw [restored]
    rfl
  have above : ¬ board.devices.shifter.offset ≤ 7 := by
    rw [shifter]
    decide
  refine ⟨(Reachable.new game).perform _, ?_, ?_, ?_, ?_, ?_⟩
  · intro inRange
    exact above inRange.offset
  · rw [Shifter.windowed_iff]
    exact above
  · rw [shifter]
  · rw [Devices.read, shifter]
    rfl
  · intro value
    change (board.devices.shifter.setOffset value).result = 0
    rw [shifter]
    let moved : Shifter := ({ value := 1, offset := 8 } : Shifter).setOffset value
    -- The only bit that is set leaves the register at every place an output can choose.
    have windowed : moved.Windowed := Shifter.windowed_of_le (Shifter.offset_setOffset_le _ value)
    have gone : 1 >>> (8 - moved.offset.toNat) = 0 := by
      obtain ⟨places, moves⟩ := Nat.exists_eq_add_of_le windowed.places.2
      rw [moves, Nat.shiftRight_add]
      exact Nat.zero_shiftRight places
    rw [← UInt8.toNat_inj, windowed.result]
    change 1 >>> (8 - moved.offset.toNat) % 256 = 0
    rw [gone]

end Board

end Cabinet
