import Cabinet.Cpu.Execution
import Cabinet.Game
import Cabinet.Picture
import Cabinet.Rom

/-!
# Boards

A board runs one game. A frame latches the controls, spends the clock states of
the frame, puts the vectors that are due on the interrupt line and shows the
picture. The last instruction of a frame is not cut short, and what it takes
beyond the frame is not made up for later. A frame in which a number leaves its type
ends in a panic.
-/

namespace Cabinet

/--
A machine that runs a game: the controls that the next frame begins with, the number
of frames since power-on, the clock states of a frame as they were worked out when the
game began, those that the last frame took, and the tokens of the program regions that
hold an image, in ascending order. A board never keeps the pace of another game.
-/
structure Board where
  game : Game
  machine : Machine SystemBus
  input : Buttons := {}
  frameIndex : UInt64 := 0
  cyclesPerFrame : Nat
  lastFrameCycles : Nat := 0
  mounted : List String := []
  paced : cyclesPerFrame = game.config.cyclesPerFrame

namespace Board

/-- A board at power-on, without program images. -/
def new (game : Game) : Board :=
  { game
    machine := game.powerOn
    cyclesPerFrame := game.config.cyclesPerFrame
    paced := rfl }

def config (board : Board) : Config :=
  board.game.config

def memory (board : Board) : Memory :=
  board.machine.bus.memory

def devices (board : Board) : Devices :=
  board.machine.bus.devices

/-- Change the memory only. -/
@[inline] def mapMemory (board : Board) (change : Memory → Memory) : Board :=
  { board with
    machine := { board.machine with
      bus := { board.machine.bus with memory := change board.machine.bus.memory } } }

/-- Change the devices only. -/
@[inline] def mapDevices (board : Board) (change : Devices → Devices) : Board :=
  { board with
    machine := { board.machine with
      bus := { board.machine.bus with devices := change board.machine.bus.devices } } }

/-- Run another game instead, on the same machine. -/
def switch (board : Board) (game : Game) : Board :=
  { board with
    game
    machine := game.bind board.machine
    cyclesPerFrame := game.config.cyclesPerFrame
    input := board.input.clear
    frameIndex := 0
    lastFrameCycles := 0
    mounted := []
    paced := rfl }

/-- Power-on, except that memory, the mounted images and the waiting controls stay. -/
def reset (board : Board) : Board :=
  { board with
    machine := (board.mapDevices fun devices => devices.reset board.config.dip).machine.reset
    frameIndex := 0
    lastFrameCycles := 0 }

/-- Set the controls that the next frame begins with. -/
def setInput (board : Board) (input : Buttons) : Board :=
  { board with input }

/-! ## Frames -/

/-- The clock states of a frame. -/
def budget (board : Board) : Nat :=
  board.cyclesPerFrame

theorem budget_eq (board : Board) : board.budget = board.config.cyclesPerFrame :=
  board.paced

/-- The machine at the beginning of a frame, unless the periscope cannot be moved. -/
def latchedM (board : Board) : Except Panic (Machine SystemBus) := do
  let devices ← board.devices.latchM board.input
  return { board.machine with bus := { board.machine.bus with devices } }

section Running

variable {σ : Type} [Listener σ]

/-- Put the vectors that are due on the interrupt line, in the order of the schedule. -/
def raiseDueM (board : Board) (machine : Machine SystemBus) : Telling σ (Machine SystemBus) :=
  board.config.interrupts.foldlM (fun machine interrupt =>
    if interrupt.period = 0 then throw .remainder
    else if board.frameIndex % interrupt.period.toUInt64 = 0 then
      machine.raiseM interrupt.vector
    else pure machine) machine

/-- Run one frame and show its picture. -/
@[specialize] def runFrameM (board : Board) : Telling σ (Frame × Board) := do
  let latched ← board.latchedM
  let (lastFrameCycles, machine) ← latched.spendM board.budget 0
  let machine ← board.raiseDueM machine
  let frame ← Picture.drawM board.config machine.bus.memory machine.bus.devices
  let frameIndex ← Checked.count board.frameIndex 1
  return (frame, { board with machine, frameIndex, lastFrameCycles })

end Running

/-- Run one frame with nobody listening. -/
def runFrame (board : Board) : Except Panic (Frame × Board) :=
  ((board.runFrameM : Telling Unit (Frame × Board)).run ()).1

end Board

end Cabinet
