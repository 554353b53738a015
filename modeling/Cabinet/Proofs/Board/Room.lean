import Cabinet.Proofs.Board.Completion
import Cabinet.Proofs.Board.DeviceRange
import Cabinet.Proofs.Config.Validity
import Cabinet.Proofs.Device.Delivery

/-!
# Frames with room

A step counts at most one watchdog reset or one coin. So on a board whose devices are in
range and whose counters are farther from their ends than its frames can count, nothing
goes wrong in the steps of a frame: it comes to its end if the screen can be drawn.
-/

namespace Cabinet

open Outcome

namespace Devices

/-- The counters have room for so many bytes that are put out. -/
structure HasRoom (devices : Devices) (left : Nat) : Prop where
  watchdogResets : devices.watchdogResets.toNat + left < UInt64.size
  coinsCounted : devices.coinsCounted.toNat + left < UInt32.size

namespace HasRoom

variable {devices : Devices} {left : Nat}

theorem mono {more : Nat} (room : devices.HasRoom more) (fewer : left ≤ more) :
    devices.HasRoom left :=
  ⟨Nat.lt_of_le_of_lt (Nat.add_le_add_left fewer _) room.watchdogResets,
    Nat.lt_of_le_of_lt (Nat.add_le_add_left fewer _) room.coinsCounted⟩

theorem writeFault? (room : devices.HasRoom (left + 1)) (value : UInt8) (handler : OutHandler) :
    devices.writeFault? value handler = none := by
  have watchdog := room.watchdogResets
  have coins := room.coinsCounted
  cases handler with
  | watchdogReset => exact if_pos (by omega)
  | coinCounter => exact if_neg fun full => full.2 (by omega)
  | _ => rfl

/-- A byte that is put out takes the room for one. -/
theorem write (room : devices.HasRoom (left + 1)) (handler : OutHandler) (value : UInt8) :
    (devices.write handler value).HasRoom left := by
  have watchdog := room.watchdogResets
  have coins := room.coinsCounted
  have smaller : devices.HasRoom left := room.mono (Nat.le_succ left)
  cases handler with
  | watchdogReset =>
      refine ⟨?_, smaller.coinsCounted⟩
      change (devices.watchdogResets + UInt64.ofNat 1).toNat + left < _
      rw [Checked.toNat_add_ofNat (by omega)]
      omega
  | coinCounter =>
      refine ⟨smaller.watchdogResets, ?_⟩
      unfold Devices.write
      dsimp only
      split
      · have counted : (devices.coinsCounted + 1).toNat = devices.coinsCounted.toNat + 1 := by
          rw [UInt32.toNat_add, UInt32.toNat_one]
          exact Nat.mod_eq_of_lt (by rw [UInt32.size] at coins; omega)
        rw [counted]
        omega
      · exact smaller.coinsCounted
  | sound channel =>
      unfold Devices.write
      dsimp only
      split
      · exact smaller
      · exact ⟨smaller.watchdogResets, smaller.coinsCounted⟩
  | _ => exact ⟨smaller.watchdogResets, smaller.coinsCounted⟩

end HasRoom

/-- The window of the shift register has a place in it. -/
theorem InRange.readFault? {devices : Devices} (inRange : devices.InRange)
    (handler : InHandler) : devices.readFault? handler = none := by
  cases handler with
  | shiftResult => exact if_pos (UInt8.le_trans inRange.offset (by decide))
  | _ => rfl

end Devices

namespace Machine

variable {machine : Machine SystemBus}

theorem usedPortFault?_of_room (inRange : machine.bus.devices.InRange) {left : Nat}
    (room : machine.bus.devices.HasRoom (left + 1)) : machine.usedPortFault? = none := by
  unfold usedPortFault?
  split
  · cases machine.current with
    | input =>
        refine Option.bind_eq_none_iff.mpr fun handler _ => ?_
        exact inRange.readFault? handler
    | output =>
        refine Option.bind_eq_none_iff.mpr fun handler _ => ?_
        exact room.writeFault? machine.cpu.a handler
    | _ => rfl
  · rfl

theorem hasRoom_step {left : Nat} (room : machine.bus.devices.HasRoom (left + 1)) :
    machine.step.2.bus.devices.HasRoom left := by
  rw [devices_step]
  cases machine.delivers? with
  | none => exact room.mono (Nat.le_succ left)
  | some delivery => exact room.write delivery.handler delivery.value

/-- Steps take the room for as many bytes. -/
theorem hasRoom_after {left count : Nat} (room : machine.bus.devices.HasRoom (left + count)) :
    (machine.after count).bus.devices.HasRoom left := by
  induction count generalizing machine with
  | zero => exact room
  | succ count ih =>
      rw [after_succ]
      exact ih (hasRoom_step room)

theorem inRange_after (inRange : machine.bus.devices.InRange) (count : Nat) :
    (machine.after count).bus.devices.InRange := by
  rw [← follow_steps]
  exact SystemBus.inRange_invariant.follow inRange _

end Machine

namespace Board

open Machine Picture

variable {board : Board}

/-- The counters are farther from their ends than so many frames can count. -/
structure HasRoom (board : Board) (frames : Nat) : Prop where
  devices : board.devices.HasRoom (frames * board.budget)
  cycles : board.machine.cpu.cycles.toNat + frames * (board.budget + 17) < UInt64.size
  frameIndex : board.frameIndex.toNat + frames < UInt64.size

theorem lastFrameCycles_le (some : 0 < board.budget) :
    board.advance.lastFrameCycles ≤ board.budget + 17 := by
  have overshoot := board.latched.cost_le_budget_add some
  rw [Nat.zero_add] at overshoot
  rw [lastFrameCycles_advance]
  exact overshoot

theorem cycles_advance (board : Board) :
    board.advance.machine.cpu.cycles =
      board.machine.cpu.cycles + UInt64.ofNat board.advance.lastFrameCycles := by
  rw [machine_advance, foldl_raise, lastFrameCycles_advance, ← cpu_latched]
  exact board.latched.cycles_after board.frameSteps

/-- At four clock states a step, a frame takes no more steps than it has clock states. -/
theorem frameSteps_le (board : Board) : board.frameSteps ≤ board.budget := by
  have few : board.frameSteps ≤ (board.budget + 3) / 4 := board.latched.stepsToSpend_le _
  omega

namespace HasRoom

variable {frames : Nat}

theorem latched (room : board.HasRoom (frames + 1)) :
    board.latched.bus.devices.HasRoom (frames * board.budget + board.budget) := by
  have devices := room.devices
  rw [Nat.succ_mul] at devices
  exact ⟨devices.watchdogResets, devices.coinsCounted⟩

/-- Before each of its steps a frame has room for one more. -/
theorem usedPortFault?_latched (room : board.HasRoom (frames + 1))
    (inRange : board.devices.InRange) {count : Nat} (step : count < board.frameSteps) :
    (board.latched.after count).usedPortFault? = none := by
  have few := board.frameSteps_le
  have left : board.latched.bus.devices.HasRoom (0 + 1 + count) := room.latched.mono (by omega)
  exact usedPortFault?_of_room (inRange_after (inRange.latch board.input) count)
    (hasRoom_after left)

/-- With room for a frame, nothing but its screen can be wrong. -/
theorem fault?_eq (room : board.HasRoom (frames + 1)) (valid : board.config.validate = .ok ())
    (small : board.budget + 17 < UInt32.size) (inRange : board.devices.InRange) :
    board.fault? = drawFault? board.config := by
  have some : 0 < board.budget := board.budget_eq ▸ Config.cyclesPerFrame_pos valid
  have most := lastFrameCycles_le some
  have cycles := room.cycles
  have frameIndex := room.frameIndex
  rw [Nat.succ_mul] at cycles
  have latched : board.latchFault? = none := by
    refine board.latchFault?_eq_none_iff.mpr ?_
    rintro ⟨-, -, far⟩
    have near := inRange.periscope
    rw [far] at near
    exact absurd near (by decide)
  have spent : board.latched.spendFault? board.budget 0 = none :=
    board.spendFault?_eq_none_iff.mpr
      ⟨⟨fun _ step => room.usedPortFault?_latched inRange step, by omega⟩, by omega⟩
  have periods : periodFault? board.config.interrupts = none :=
    (periodFault?_eq_none_iff _).mpr fun interrupt => Config.period_ne_zero valid
  have counted : board.indexFault? = none := board.indexFault?_eq_none_iff.mpr (by omega)
  rw [fault?, latched, spent, periods, counted, Option.none_or, Option.none_or, Option.none_or,
    Option.or_none]

/-- A frame with room for it stops if its picture cannot be drawn. -/
theorem runFrame_of_large (room : board.HasRoom (frames + 1))
    (valid : board.config.validate = .ok ()) (small : board.budget + 17 < UInt32.size)
    (inRange : board.devices.InRange) (large : ¬ Drawable board.config) :
    board.runFrame = .error .multiplication := by
  rw [runFrame_eq, room.fault?_eq valid small inRange, drawFault?, if_neg large]
  rfl

/-- A frame takes the room for one. -/
theorem advance (room : board.HasRoom (frames + 1)) (some : 0 < board.budget) :
    board.advance.HasRoom frames := by
  have few := board.frameSteps_le
  have most := lastFrameCycles_le some
  have cycles := room.cycles
  have frameIndex := room.frameIndex
  rw [Nat.succ_mul] at cycles
  refine ⟨?_, ?_, ?_⟩
  · have left := hasRoom_after (room.latched.mono (Nat.add_le_add_left few _))
    rw [Board.devices, machine_advance, foldl_raise]
    exact left
  · have counted := board.cycles_advance ▸ Checked.toNat_add_ofNat
      (by omega : board.machine.cpu.cycles.toNat + board.advance.lastFrameCycles < UInt64.size)
    change _ + frames * (board.budget + 17) < _
    omega
  · have one : board.frameIndex.toNat + 1 < UInt64.size := by omega
    have counted : board.advance.frameIndex.toNat = board.frameIndex.toNat + 1 :=
      Checked.toNat_add_ofNat one
    omega

end HasRoom

/-- Counters that begin at zero have room for many frames. -/
theorem hasRoom_of_powerOn {dip : UInt8} {frames : Nat} (cpu : board.machine.cpu = {})
    (devices : board.devices = .new dip) (frameIndex : board.frameIndex = 0)
    (few : frames * (board.budget + 17) < UInt32.size) : board.HasRoom frames := by
  have bytes : frames * board.budget ≤ frames * (board.budget + 17) :=
    Nat.mul_le_mul_left _ (Nat.le_add_right _ _)
  have each : frames ≤ frames * (board.budget + 17) := Nat.le_mul_of_pos_right _ (by omega)
  have narrow : UInt32.size ≤ UInt64.size := by decide
  have resets : board.devices.watchdogResets.toNat = 0 := devices ▸ rfl
  have coins : board.devices.coinsCounted.toNat = 0 := devices ▸ rfl
  have cycles : board.machine.cpu.cycles.toNat = 0 := cpu ▸ rfl
  have index : board.frameIndex.toNat = 0 := frameIndex ▸ rfl
  exact ⟨⟨by omega, by omega⟩, by omega, by omega⟩

/-- With room for them, frames come to their ends if the screen can be drawn. -/
theorem completes_of_room {frames : Nat} (room : board.HasRoom frames)
    (valid : board.config.validate = .ok ()) (small : board.budget + 17 < UInt32.size)
    (inRange : board.devices.InRange) (drawable : Drawable board.config) {fewer : Nat}
    (before : fewer < frames) : (board.advanceBy fewer).Completes := by
  have some : 0 < board.budget := board.budget_eq ▸ Config.cyclesPerFrame_pos valid
  induction fewer generalizing board frames with
  | zero =>
      obtain ⟨frames, rfl⟩ := Nat.exists_eq_succ_of_ne_zero (Nat.ne_of_gt before)
      refine (fault?_eq_none_iff board).mp ?_
      rw [room.fault?_eq valid small inRange]
      exact (drawFault?_eq_none_iff _).mpr drawable
  | succ fewer ih =>
      obtain ⟨frames, rfl⟩ := Nat.exists_eq_succ_of_ne_zero (Nat.ne_zero_of_lt before)
      exact ih (room.advance some) valid small (inRange_advance inRange) drawable
        (Nat.lt_of_succ_lt_succ before) some

end Board

end Cabinet
