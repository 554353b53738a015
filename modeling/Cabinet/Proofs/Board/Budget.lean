import Cabinet.Preset
import Cabinet.Proofs.Board.Room
import Mathlib.Algebra.Ring.Nat

/-!
# The budget of a frame

The steps of a frame end with the first one to reach the budget. What the last step takes
beyond the budget is counted, and the next frame begins with a whole budget again. A frame
comes to its end with that account, unless something goes wrong in it: a description may
be accepted with a screen so large that none of its frames does.
-/

namespace Cabinet

namespace Board

open Machine Picture

/-! ## Single frames -/

theorem budget_le_lastFrameCycles (board : Board) :
    board.budget ≤ board.advance.lastFrameCycles := by
  have reached := board.latched.budget_le_cost board.budget 0
  rw [Nat.zero_add] at reached
  rw [lastFrameCycles_advance]
  exact reached

/-- What is true of the steps of a frame, of which there are `count`. -/
structure StepAccount (board : Board) (count : Nat) : Prop where
  spent : board.latched.spend board.budget 0 = board.latched.steps count 0
  one_le : 1 ≤ count
  le_quarter : count ≤ (board.budget + 3) / 4
  unreached : ∀ fewer < count, (board.latched.steps fewer 0).1 < board.budget
  reached : board.budget ≤ (board.latched.steps count 0).1
  overshoot : (board.latched.steps count 0).1 ≤ board.budget + 17
  fits : (board.latched.steps count 0).1 < UInt32.size

/-- What is true of a frame of so many steps that came to its end. -/
structure FrameAccount (board next : Board) (count : Nat) : Prop where
  machine : next.machine = board.due.foldl raise (board.latched.steps count 0).2
  lastFrameCycles : next.lastFrameCycles = (board.latched.steps count 0).1
  cycles : next.machine.cpu.cycles.toNat =
    board.machine.cpu.cycles.toNat + next.lastFrameCycles
  frameIndex : next.frameIndex.toNat = board.frameIndex.toNat + 1

theorem stepAccount (board : Board) (some : 0 < board.budget)
    (small : board.budget + 17 < UInt32.size) : board.StepAccount board.frameSteps where
  spent := board.spend_latched
  one_le := board.latched.stepsToSpend_pos some
  le_quarter := board.latched.stepsToSpend_le board.budget
  unreached fewer less := by
    have left := board.latched.cost_lt_budget board.budget 0 less
    rwa [Nat.zero_add] at left
  reached := by
    have enough := board.budget_le_lastFrameCycles
    rwa [lastFrameCycles_advance] at enough
  overshoot := by
    have most := lastFrameCycles_le some
    rwa [lastFrameCycles_advance] at most
  fits := by
    have most := lastFrameCycles_le some
    rw [lastFrameCycles_advance] at most
    exact Nat.lt_of_le_of_lt most small

/-- The counters of a frame that comes to its end have room for it. -/
theorem Completes.frameAccount {board : Board} (completes : board.Completes) :
    board.FrameAccount board.advance board.frameSteps where
  machine := board.machine_advance
  lastFrameCycles := board.lastFrameCycles_advance
  cycles := by
    rw [cycles_advance]
    exact Checked.toNat_add_ofNat completes.cycles
  frameIndex := Checked.toNat_add_ofNat completes.frameIndex

/-! ## Frames in a row -/

/-- The board behind so many frames, if all of them come to their ends. -/
def runFrames (board : Board) : Nat → Except Panic Board
  | 0 => .ok board
  | frames + 1 => do
      let result ← board.runFrame
      result.2.runFrames frames

theorem runFrames_eq_ok_iff {board next : Board} {frames : Nat} :
    board.runFrames frames = .ok next ↔
      (∀ fewer < frames, (board.advanceBy fewer).Completes) ∧ next = board.advanceBy frames := by
  induction frames generalizing board with
  | zero =>
      rw [runFrames, Except.ok.injEq, eq_comm]
      exact (and_iff_right nofun).symm
  | succ frames ih =>
      rw [runFrames, Outcome.bind_eq_ok_iff, Nat.forall_lt_succ_left, and_assoc]
      constructor
      · rintro ⟨⟨frame, behind⟩, ran, rest⟩
        obtain ⟨completes, -, rfl⟩ := runFrame_eq_ok_iff.mp ran
        exact ⟨completes, ih.mp rest⟩
      · rintro ⟨completes, rest⟩
        exact ⟨_, completes.runFrame_eq, ih.mpr rest⟩

/-- The clock states that the next frames take. -/
def clockOver (board : Board) (frames : Nat) : Nat :=
  ((List.range frames).map fun index => (board.advanceBy (index + 1)).lastFrameCycles).sum

theorem clockOver_succ (board : Board) (frames : Nat) :
    board.clockOver (frames + 1) =
      board.clockOver frames + (board.advanceBy frames).advance.lastFrameCycles := by
  rw [clockOver, List.range_succ, List.map_append, List.sum_append, List.map_singleton,
    List.sum_singleton, advanceBy_succ]
  rfl

theorem mul_budget_le_clockOver (board : Board) (frames : Nat) :
    frames * board.budget ≤ board.clockOver frames := by
  induction frames with
  | zero => exact Nat.le_of_eq (Nat.zero_mul _)
  | succ frames ih =>
      have last := (board.advanceBy frames).budget_le_lastFrameCycles
      rw [budget_advanceBy] at last
      rw [clockOver_succ, Nat.succ_mul]
      exact Nat.add_le_add ih last

theorem clockOver_le (board : Board) (some : 0 < board.budget) (frames : Nat) :
    board.clockOver frames ≤ frames * (board.budget + 17) := by
  induction frames with
  | zero => exact Nat.le_of_eq (Nat.zero_mul _).symm
  | succ frames ih =>
      have last : (board.advanceBy frames).advance.lastFrameCycles ≤ _ :=
        lastFrameCycles_le (by rwa [budget_advanceBy])
      rw [budget_advanceBy] at last
      rw [clockOver_succ, Nat.succ_mul]
      exact Nat.add_le_add ih last

/-- What is true of so many frames in a row that came to their ends. -/
structure RunAccount (board next : Board) (frames : Nat) : Prop where
  each : ∀ fewer < frames, ∃ frame,
    (board.advanceBy fewer).runFrame = .ok (frame, board.advanceBy (fewer + 1))
  last : next = board.advanceBy frames
  least : frames * board.budget ≤ board.clockOver frames
  most : board.clockOver frames ≤ frames * (board.budget + 17)
  cycles : next.machine.cpu.cycles.toNat =
    board.machine.cpu.cycles.toNat + board.clockOver frames
  frameIndex : next.frameIndex.toNat = board.frameIndex.toNat + frames

/-- By induction: each frame adds what its own account says. -/
theorem counters_advanceBy {board : Board} {frames : Nat}
    (each : ∀ fewer < frames, (board.advanceBy fewer).Completes) :
    (board.advanceBy frames).machine.cpu.cycles.toNat =
        board.machine.cpu.cycles.toNat + board.clockOver frames ∧
      (board.advanceBy frames).frameIndex.toNat = board.frameIndex.toNat + frames := by
  induction frames with
  | zero => exact ⟨rfl, rfl⟩
  | succ frames ih =>
      obtain ⟨cycles, frameIndex⟩ := ih fun fewer less => each fewer (Nat.lt_succ_of_lt less)
      have last := (each frames (Nat.lt_succ_self frames)).frameAccount
      rw [advanceBy_succ, last.cycles, last.frameIndex, clockOver_succ, cycles, frameIndex]
      exact ⟨Nat.add_assoc _ _ _, Nat.add_assoc _ _ _⟩

theorem runAccount {board next : Board} {frames : Nat} (some : 0 < board.budget)
    (ran : board.runFrames frames = .ok next) : board.RunAccount next frames := by
  obtain ⟨each, rfl⟩ := runFrames_eq_ok_iff.mp ran
  obtain ⟨cycles, frameIndex⟩ := counters_advanceBy each
  refine ⟨fun fewer less => ?_, rfl, board.mul_budget_le_clockOver frames,
    board.clockOver_le some frames, cycles, frameIndex⟩
  rw [advanceBy_succ]
  exact ⟨_, (each fewer less).runFrame_eq⟩

/-! ## The account -/

/--
What is true of the frames of a board whose budget leaves room in its 32 bits. With room in
the counters, nothing but the size of the screen keeps frames from their ends.
-/
structure Budgeted (board : Board) : Prop where
  frame : ∃ count, board.StepAccount count ∧
    ∀ frame next, board.runFrame = .ok (frame, next) → board.FrameAccount next count
  completes : (∃ frame next, board.runFrame = .ok (frame, next)) ↔ board.Completes
  runs : ∀ frames next, board.runFrames frames = .ok next → board.RunAccount next frames
  drawn : ∀ frames, board.devices.InRange → board.HasRoom (frames + 1) →
    ((∃ next, board.runFrames (frames + 1) = .ok next) ↔ Drawable board.config)

/--
Every frame that comes to its end ran whole steps, the least number of them that spends
the budget, and in a run of frames every frame begins with a whole budget. A frame comes
to its end exactly if nothing goes wrong in its steps and the picture can be drawn.
-/
theorem frames_spend_budget (board : Board) (valid : board.config.validate = .ok ())
    (small : board.budget ≤ 2 ^ 32 - 18) : board.Budgeted where
  frame := by
    have some : 0 < board.budget := board.budget_eq ▸ Config.cyclesPerFrame_pos valid
    refine ⟨_, board.stepAccount some (by rw [UInt32.size]; omega), ?_⟩
    intro frame next ran
    obtain ⟨completes, -, rfl⟩ := runFrame_eq_ok_iff.mp ran
    exact completes.frameAccount
  completes := by
    constructor
    · rintro ⟨frame, next, ran⟩
      exact (runFrame_eq_ok_iff.mp ran).1
    · intro completes
      exact ⟨_, _, completes.runFrame_eq⟩
  runs := fun _ _ => runAccount (board.budget_eq ▸ Config.cyclesPerFrame_pos valid)
  drawn := by
    intro frames inRange room
    have fits : board.budget + 17 < UInt32.size := by
      rw [UInt32.size]
      omega
    constructor
    · rintro ⟨next, ran⟩
      exact ((runFrames_eq_ok_iff.mp ran).1 0 (Nat.succ_pos frames)).screen
    · intro drawable
      exact ⟨_, runFrames_eq_ok_iff.mpr
        ⟨fun _ => completes_of_room room valid fits inRange drawable, rfl⟩⟩

end Board

/-! ## Frames of jumps -/

namespace Machine

open Cpu (Instruction serviceable_of_disabled)

variable {β : Type} [Bus β]

/-- A machine at a jump to itself, where no interrupt reaches it. -/
structure Spinning (machine : Machine β) : Prop where
  opcode : machine.read 0 = 0xC3
  target : machine.readWord 1 = 0
  pc : machine.cpu.pc = 0
  deaf : machine.cpu.enabled = false
  running : machine.cpu.halted = false

namespace Spinning

variable {machine : Machine β} (spinning : machine.Spinning)

include spinning

theorem step : machine.step.1 = 10 ∧ machine.step.2.Spinning := by
  have decoded : Instruction.ofOpcode 0xC3 = .jmp := Instruction.ofOpcode_of_decode rfl
  have fetched : machine.read machine.cpu.pc = 0xC3 := spinning.pc ▸ spinning.opcode
  have operand : machine.readWord (machine.cpu.pc + 1) = 0 := by
    rw [spinning.pc]
    exact spinning.target
  have jumps : machine.perform .jmp = machine.jump (machine.readWord (machine.cpu.pc + 1)) := rfl
  rw [step_of_decoded fetched (serviceable_of_disabled spinning.deaf) spinning.running decoded,
    jumps, operand]
  exact ⟨rfl, spinning.opcode, spinning.target, rfl, spinning.deaf, spinning.running⟩

theorem costOf (count : Nat) : machine.costOf count = 10 * count :=
  costOf_of_steady (fun _ => Spinning.step) spinning count

theorem after (count : Nat) : (machine.after count).Spinning := by
  induction count generalizing machine with
  | zero => exact spinning
  | succ count ih =>
      rw [after_succ]
      exact ih spinning.step.2

theorem stepsToSpend (budget : Nat) : machine.stepsToSpend budget 0 = (budget + 9) / 10 := by
  have reached := machine.budget_le_cost budget 0
  cases count : machine.stepsToSpend budget 0 with
  | zero =>
      rw [count, costOf_zero] at reached
      omega
  | succ fewer =>
      have unreached := machine.cost_lt_budget budget 0
        (count ▸ Nat.lt_succ_self fewer : fewer < machine.stepsToSpend budget 0)
      rw [count, spinning.costOf] at reached
      rw [spinning.costOf] at unreached
      omega

end Spinning

end Machine

namespace Board

open Machine Picture

/-- Power-on with the opcode of a jump in front of zeros; they are the address that it goes to. -/
theorem spinning_latched {board : Board} (powerOn : board.machine.cpu = {})
    (program : board.memory = Memory.zero.load 0 [0xC3]) : board.latched.Spinning := by
  have bytes (address : UInt16) : board.latched.read address =
      (Memory.zero.write 0 0xC3).read address :=
    congrArg (Memory.read · address) program
  have cpu : board.latched.cpu = {} := powerOn
  refine ⟨?_, ?_, ?_, ?_, ?_⟩
  · rw [bytes, Memory.read_write_same]
  · rw [readWord, bytes, bytes, Memory.read_write_of_ne _ _ (by decide),
      Memory.read_write_of_ne _ _ (by decide), Memory.read_zero, Memory.read_zero]
    decide
  · rw [cpu]
  · rw [cpu]
  · rw [cpu]

theorem lastFrameCycles_of_spinning {board : Board} (spinning : board.latched.Spinning) :
    board.advance.lastFrameCycles = 10 * ((board.budget + 9) / 10) := by
  rw [lastFrameCycles_advance, spinning.costOf, frameSteps, spinning.stepsToSpend]

/-- A vector that waits is not looked at, so the jumps go on in the next frame. -/
theorem spinning_advance {board : Board} (spinning : board.latched.Spinning) :
    board.advance.latched.Spinning := by
  have later := spinning.after board.frameSteps
  have bus : board.advance.machine.bus = (board.latched.after board.frameSteps).bus := by
    rw [machine_advance, foldl_raise]
    rfl
  have bytes (address : UInt16) : board.advance.latched.read address =
      (board.latched.after board.frameSteps).read address := by
    change board.advance.machine.bus.memory.read address = _
    rw [bus]
    rfl
  have cpu : board.advance.latched.cpu =
      { (board.latched.after board.frameSteps).cpu with
        pending := board.due.getLast?.or (board.latched.after board.frameSteps).cpu.pending } := by
    rw [cpu_latched, machine_advance, foldl_raise]
    rfl
  refine ⟨?_, ?_, ?_, ?_, ?_⟩
  · rw [bytes]
    exact later.opcode
  · rw [readWord, bytes, bytes]
    exact later.target
  · rw [cpu]
    exact later.pc
  · rw [cpu]
    exact later.deaf
  · rw [cpu]
    exact later.running

theorem spinning_advanceBy {board : Board} (spinning : board.latched.Spinning) (frames : Nat) :
    (board.advanceBy frames).latched.Spinning := by
  induction frames generalizing board with
  | zero => exact spinning
  | succ frames ih => exact ih (spinning_advance spinning)

theorem clockOver_of_spinning {board : Board} (spinning : board.latched.Spinning)
    (frames : Nat) : board.clockOver frames = frames * (10 * ((board.budget + 9) / 10)) := by
  induction frames with
  | zero => exact (Nat.zero_mul _).symm
  | succ frames ih =>
      rw [clockOver_succ, ih, lastFrameCycles_of_spinning (spinning_advanceBy spinning frames),
        budget_advanceBy]
      exact (Nat.succ_mul _ _).symm

/-- Space Invaders with a program that jumps to itself. -/
def jumpingInvaders : Board :=
  (new ⟨Preset.spaceInvaders, {}⟩).loadRoms [⟨"invaders.h", [0xC3]⟩]

theorem cpu_jumpingInvaders : jumpingInvaders.machine.cpu = {} := by
  rw [jumpingInvaders, cpu_loadRoms, cpu_new]

theorem budget_jumpingInvaders : jumpingInvaders.budget = 33333 :=
  (by decide : Preset.spaceInvaders.cyclesPerFrame = 33333)

theorem spinning_jumpingInvaders : jumpingInvaders.latched.Spinning :=
  spinning_latched cpu_jumpingInvaders (memory_invaders rfl (by decide))

theorem devices_jumpingInvaders :
    jumpingInvaders.devices = .new Preset.spaceInvaders.dip := by
  rw [jumpingInvaders, devices_loadRoms, devices_new]

theorem hasRoom_jumpingInvaders : jumpingInvaders.HasRoom 2 := by
  refine hasRoom_of_powerOn cpu_jumpingInvaders devices_jumpingInvaders rfl ?_
  rw [budget_jumpingInvaders]
  decide

/-- Two frames of jumps, each of them seven clock states beyond its budget. -/
theorem frames_spend_budget_jumping :
    ∃ next, jumpingInvaders.runFrames 2 = .ok next ∧ jumpingInvaders.RunAccount next 2 ∧
      next.machine.cpu.cycles.toNat = 66680 := by
  have budgeted : jumpingInvaders.Budgeted := frames_spend_budget jumpingInvaders
    (rfl : Preset.spaceInvaders.validate = .ok ())
    (by decide : Preset.spaceInvaders.cyclesPerFrame ≤ 2 ^ 32 - 18)
  have inRange : jumpingInvaders.devices.InRange :=
    devices_jumpingInvaders ▸ Devices.inRange_new _
  obtain ⟨next, ran⟩ := (budgeted.drawn 1 inRange hasRoom_jumpingInvaders).mpr
    (by decide : Drawable Preset.spaceInvaders)
  have account := budgeted.runs 2 next ran
  refine ⟨next, ran, account, ?_⟩
  rw [account.cycles, cpu_jumpingInvaders, clockOver_of_spinning spinning_jumpingInvaders,
    budget_jumpingInvaders]
  decide

/-! ## A screen that words do not count -/

/-- A description with a screen of 4294967296 places, which begin at the first byte. -/
def hugeScreen : Config where
  name := "Huge screen"
  display := { width := 65536, height := 65536 }
  memory := { video := some { start := 0 } }

theorem large_hugeScreen : ¬ Drawable hugeScreen :=
  fun drawable => absurd drawable.screen (by decide)

/-- Its board at power-on. -/
def hugeBoard : Board :=
  new ⟨hugeScreen, {}⟩

theorem valid_hugeBoard : hugeBoard.config.validate = .ok () :=
  (rfl : hugeScreen.validate = .ok ())

theorem budget_hugeBoard : hugeBoard.budget = 33333 :=
  (by decide : hugeScreen.cyclesPerFrame = 33333)

theorem devices_hugeBoard : hugeBoard.devices = .new 0 :=
  devices_new _

theorem hasRoom_hugeBoard : hugeBoard.HasRoom 1 := by
  refine hasRoom_of_powerOn (cpu_new _) devices_hugeBoard rfl ?_
  rw [budget_hugeBoard]
  decide

/-- The steps of its first frame spend the budget, but the frame does not come to its end. -/
theorem frame_stops_hugeScreen :
    hugeBoard.config.validate = .ok () ∧ hugeBoard.budget ≤ 2 ^ 32 - 18 ∧ Reachable hugeBoard ∧
      (∃ count, hugeBoard.StepAccount count) ∧
      hugeBoard.runFrame = .error .multiplication := by
  have inRange : hugeBoard.devices.InRange := devices_hugeBoard ▸ Devices.inRange_new 0
  have some : 0 < hugeBoard.budget := by
    rw [budget_hugeBoard]
    decide
  have small : hugeBoard.budget + 17 < UInt32.size := by
    rw [budget_hugeBoard]
    decide
  have stops : hugeBoard.runFrame = .error .multiplication :=
    hasRoom_hugeBoard.runFrame_of_large valid_hugeBoard small inRange large_hugeScreen
  refine ⟨valid_hugeBoard, ?_, .new _, ⟨_, hugeBoard.stepAccount some small⟩, stops⟩
  rw [budget_hugeBoard]
  decide

end Board

end Cabinet
