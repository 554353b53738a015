import Cabinet.Config.Basic
import Cabinet.Cpu.Machine
import Cabinet.Device.SystemBus
import Cabinet.Frame

/-!
# Games

A game is a board description together with the names that mean something else
on this board. It determines the port table and the machine at power-on. A name
that nothing stands for becomes a stub.
-/

namespace Cabinet

open Log

structure Game where
  config : Config
  overrides : Overrides := {}
deriving DecidableEq, Inhabited

namespace Game

/-- What an input name stands for on this board. -/
def inputHandler (game : Game) (name : String) : InHandler :=
  (game.overrides.input? name).getD .stub

/-- What an output name stands for on this board. -/
def outputHandler (game : Game) (name : String) : OutHandler :=
  (game.overrides.output? name).getD .stub

/-- Bind a handler to each port that the description connects, one after another. -/
def connect (game : Game) (table : PortTable) : PortTable :=
  let table := game.config.ports.inputs.toList.foldl
    (fun table (port, name) => table.bindInput port (game.inputHandler name)) table
  game.config.ports.outputs.toList.foldl
    (fun table (port, name) => table.bindOutput port (game.outputHandler name)) table

/-- A handler for each port that the description connects, and none for any other. -/
def portTable (game : Game) : PortTable :=
  game.connect .empty

/--
Make a machine the game's own: the processor and the devices as at power-on with
the switches set, memory zero, and the ports bound anew.
-/
def bind (game : Game) (machine : Machine SystemBus) : Machine SystemBus :=
  let machine := machine.reset
  let bus := machine.bus
  { machine with
    bus := { bus with
      memory := bus.memory.clear
      ports := game.connect bus.ports.clear
      devices := bus.devices.reset game.config.dip } }

/-- The machine at power-on. -/
def powerOn (game : Game) : Machine SystemBus :=
  game.bind ⟨{}, {}⟩

/-- Nothing is left of the machine that a game is bound to. -/
theorem bind_eq (game : Game) (machine : Machine SystemBus) :
    game.bind machine =
      ⟨{}, { ports := game.portTable, devices := .new game.config.dip }⟩ := by
  simp only [bind, Memory.clear_eq_zero, PortTable.clear_eq_empty]
  rfl

theorem bind_eq_powerOn (game : Game) (machine : Machine SystemBus) :
    game.bind machine = game.powerOn := by
  rw [powerOn, bind_eq, bind_eq]

/-- How the pictures of the game are meant to be shown. -/
def displayInfo (game : Game) : DisplayInfo :=
  ⟨game.config.display.rotation, game.config.display.color⟩

/-- The highest vector that an instruction can name. -/
def highestRestart : UInt8 := 7

/-- What is said about an input name that nothing stands for. -/
def unknownInputNotes (game : Game) (port : UInt8) (name : String) : List Note :=
  match game.overrides.input? name with
  | some _ => []
  | none =>
      [⟨.stubs, .warn, fun _ =>
        s!"{game.config.name}: unknown IN handler '{name}' on port 0x{Hex.byte port}" ++
          ", reads will return 0"⟩]

/-- What is said about an output name that nothing stands for. -/
def unknownOutputNotes (game : Game) (port : UInt8) (name : String) : List Note :=
  match game.overrides.output? name with
  | some _ => []
  | none =>
      [⟨.stubs, .warn, fun _ =>
        s!"{game.config.name}: unknown OUT handler '{name}' on port 0x{Hex.byte port}" ++
          ", writes will be discarded"⟩]

/-- What is said about the numbers of connected ports. -/
def boundNote (game : Game) : Note :=
  ⟨.bus, .info, fun _ =>
    let (inputs, outputs) := game.portTable.boundCount
    s!"{game.config.name}: bound {inputs} IN and {outputs} OUT ports"⟩

/-- What is said about a scheduled vector that no instruction can name. -/
def vectorNotes (game : Game) (vector : UInt8) : List Note :=
  if vector ≤ highestRestart then []
  else
    [⟨.interrupts, .warn, fun _ =>
      s!"{game.config.name}: interrupt vector {vector.toNat} is not an RST number" ++
        s!", service jumps to 0x{Hex.word (Machine.handlerAddress vector)}"⟩]

/-- What is said at power-on. -/
def powerOnNotes (game : Game) : List Note :=
  (game.config.ports.inputs.toList.flatMap fun binding =>
      game.unknownInputNotes binding.1 binding.2) ++
    (game.config.ports.outputs.toList.flatMap fun binding =>
      game.unknownOutputNotes binding.1 binding.2) ++
    [game.boundNote] ++
    game.config.interrupts.flatMap fun interrupt => game.vectorNotes interrupt.vector

end Game

end Cabinet
