import Cabinet.Board.Basic
import Cabinet.Proofs.Machine.Spending
import Cabinet.Proofs.Picture.Shown

/-!
# Frames that come to their end

What a frame makes of a board and what picture it shows, if nothing goes wrong in it.
All counters are numbers without a bound here, and all places of the picture too.
-/

namespace Cabinet.Board

/-- The vectors that are due at the end of this frame, in the order of the schedule. -/
def due (board : Board) : List UInt8 :=
  (board.config.interrupts.filter fun interrupt =>
    board.frameIndex % interrupt.period.toUInt64 = 0).map Interrupt.vector

/-- The machine at the beginning of a frame. -/
def latched (board : Board) : Machine SystemBus :=
  (board.mapDevices fun devices => devices.latch board.input).machine

/-- The board behind a frame. -/
def advance (board : Board) : Board :=
  let result := board.latched.spend board.budget 0
  { board with
    machine := board.due.foldl Machine.raise result.2
    frameIndex := board.frameIndex + 1
    lastFrameCycles := result.1 }

/-- The picture that is shown. -/
def picture (board : Board) : Frame :=
  Picture.render board.config board.memory board.devices

/-- The board behind `count` frames. -/
def advanceBy (board : Board) : Nat → Board
  | 0 => board
  | count + 1 => board.advance.advanceBy count

/-- The steps of a frame. -/
def frameSteps (board : Board) : Nat :=
  board.latched.stepsToSpend board.budget 0

theorem cpu_latched (board : Board) : board.latched.cpu = board.machine.cpu := rfl

theorem spend_latched (board : Board) :
    board.latched.spend board.budget 0 =
      (board.latched.costOf board.frameSteps, board.latched.after board.frameSteps) := by
  rw [Machine.spend_eq, Nat.zero_add]
  rfl

theorem lastFrameCycles_advance (board : Board) :
    board.advance.lastFrameCycles = board.latched.costOf board.frameSteps :=
  congrArg Prod.fst board.spend_latched

/-- A frame runs its steps and then puts the due vectors on the line. -/
theorem machine_advance (board : Board) :
    board.advance.machine =
      board.due.foldl Machine.raise (board.latched.after board.frameSteps) :=
  congrArg (fun result : Nat × Machine SystemBus => board.due.foldl Machine.raise result.2)
    board.spend_latched

/-- A frame spends its budget and raises the due vectors, of which the last one waits. -/
theorem machine_advance_eq (board : Board) :
    board.advance.machine = (board.latched.spend board.budget 0).2.mapCpu fun cpu =>
      { cpu with pending := board.due.getLast?.or cpu.pending } :=
  Machine.foldl_raise _ board.due

/-! ## Frames in a row -/

theorem advanceBy_succ (board : Board) (frames : Nat) :
    board.advanceBy (frames + 1) = (board.advanceBy frames).advance := by
  induction frames generalizing board with
  | zero => rfl
  | succ frames ih => exact ih board.advance

@[simp] theorem game_advanceBy (board : Board) (frames : Nat) :
    (board.advanceBy frames).game = board.game := by
  induction frames with
  | zero => rfl
  | succ frames ih =>
      rw [advanceBy_succ]
      exact ih

theorem config_advanceBy (board : Board) (frames : Nat) :
    (board.advanceBy frames).config = board.config := by
  rw [config, config, game_advanceBy]

theorem budget_advanceBy (board : Board) (frames : Nat) :
    (board.advanceBy frames).budget = board.budget := by
  rw [budget_eq, budget_eq, config_advanceBy]

end Cabinet.Board
