import Cabinet.Proofs.Board.Lifecycle
import Cabinet.Proofs.Board.MountHistory
import Cabinet.Proofs.PortTable

/-!
# What the ports are bound to

Whatever a board did before, and whatever it does afterwards under the same game, its
port table has a handler for each port with a name, the one that the name stands for, and
none for any other.
-/

namespace Cabinet

namespace SystemBus

/-- A port without a handler and one with a stub read zero. -/
theorem input_of_silent {bus : SystemBus} {port : UInt8}
    (silent : bus.ports.input? port = none ∨ bus.ports.input? port = some .stub) :
    Bus.input bus port = (0, bus) := by
  have value : bus.input port = 0 := by
    rcases silent with none | stub
    · rw [input, none]
    · rw [input, stub]
      rfl
  exact congrArg (·, bus) value

/-- What is written to a port without a handler or with a stub is lost. -/
theorem output_of_silent {bus : SystemBus} {port : UInt8}
    (silent : bus.ports.output? port = none ∨ bus.ports.output? port = some .stub)
    (value : UInt8) : Bus.output bus port value = bus := by
  change bus.output port value = bus
  rcases silent with none | stub
  · rw [output, none]
  · rw [output, stub]
    rfl

end SystemBus

namespace Board

/--
The ports of a board are bound as a game says, and nothing is left of earlier tables.
Reading a port without a handler or with a stub gives zero and changes nothing, and writing
to one changes nothing either.
-/
structure PortsBound (board : Board) (game : Game) : Prop where
  inputs : game.inputNaming.Binds game.config.ports.inputs board.machine.bus.ports.input?
  outputs : game.outputNaming.Binds game.config.ports.outputs board.machine.bus.ports.output?
  reads : ∀ port, board.machine.bus.ports.input? port = none ∨
    board.machine.bus.ports.input? port = some .stub →
      Bus.input board.machine.bus port = (0, board.machine.bus)
  writes : ∀ port, board.machine.bus.ports.output? port = none ∨
    board.machine.bus.ports.output? port = some .stub →
      ∀ value, Bus.output board.machine.bus port value = board.machine.bus
  fresh : board.machine.bus.ports = (new game).machine.bus.ports

theorem WellFormed.portsBound {board : Board} (sound : board.WellFormed) :
    board.PortsBound board.game where
  inputs := by
    rw [sound.ports]
    exact Naming.binds_of_eq board.game.input?_portTable
  outputs := by
    rw [sound.ports]
    exact Naming.binds_of_eq board.game.output?_portTable
  reads _ silent := SystemBus.input_of_silent silent
  writes _ silent := SystemBus.output_of_silent silent
  fresh := sound.ports

/-- As long as no other game is chosen a board keeps its own. -/
theorem game_performAll {operations : List Operation}
    (stays : ∀ operation ∈ operations, ∀ game, operation ≠ .switch game) (board : Board) :
    (board.performAll operations).game = board.game := by
  induction operations generalizing board with
  | nil => rfl
  | cons operation later ih =>
      have rest := ih (fun other inside => stays other (List.mem_cons_of_mem operation inside))
        (board.perform operation)
      exact rest.trans (game_perform (stays operation List.mem_cons_self))

theorem WellFormed.performAll {board : Board} (sound : board.WellFormed)
    (operations : List Operation) : (board.performAll operations).WellFormed := by
  induction operations generalizing board with
  | nil => exact sound
  | cons operation later ih => exact ih (sound.perform operation)

/--
A board that began with a game, and one that changed to it after whatever it did
before, have their ports bound as this game says, through all operations that
keep the game.
-/
theorem ports_bound (game : Game) (before : Board) {operations : List Operation}
    (stays : ∀ operation ∈ operations, ∀ other, operation ≠ .switch other) :
    ((new game).performAll operations).PortsBound game ∧
      ((before.switch game).performAll operations).PortsBound game := by
  have bound := ((wellFormed_new game).performAll operations).portsBound
  rw [game_performAll stays] at bound
  rw [switch_eq_new]
  exact ⟨bound, bound⟩

/-- A name with two overrides, on a board that ran another game before. -/
theorem ports_bound_overridden :
    let game : Game := ⟨Preset.spaceInvaders,
      { inputs := [("player_controls", .cabinetControls), ("player_controls", .coin)] }⟩
    let before := (new ⟨Preset.galaxian, {}⟩).perform .runFrame
    let board := (before.switch game).performAll [.loadRoms [⟨"invaders.h", [0x76]⟩], .runFrame]
    board.PortsBound game ∧ board.machine.bus.ports.input? 1 = some .cabinetControls ∧
      board.machine.bus.ports.output? 1 = none := by
  intro game before board
  have stays : ∀ operation ∈ [Operation.loadRoms [⟨"invaders.h", [0x76]⟩], .runFrame],
      ∀ other, operation ≠ .switch other := by
    simp
  obtain ⟨-, bound⟩ := ports_bound game before stays
  have named : game.config.ports.inputs.name? 1 = some "player_controls" := by
    decide
  have unnamed : game.config.ports.outputs.name? 1 = none := by
    decide
  obtain ⟨handler, holds, stands⟩ := bound.inputs.bound 1 _ named
  rw [stands.eq_handler] at holds
  exact ⟨bound, holds, (bound.outputs.empty 1).mpr unnamed⟩

end Board

end Cabinet
