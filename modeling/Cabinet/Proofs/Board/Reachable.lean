import Cabinet.Board.Mount
import Cabinet.Preset
import Cabinet.Proofs.Board.Frames
import Cabinet.Proofs.Board.SavedState
import Cabinet.Proofs.Machine.Simulation

/-!
# Boards that can be reached

A board begins at power-on and comes to every other state by operations. An
operation that fails leaves it as it was. Two things never change on the way:
the ports are bound as the game says, and the flag byte has no bits without
meaning.
-/

namespace Cabinet

namespace Board

open Machine

/-- What can be done to a board. -/
inductive Operation where
  | switch (game : Game)
  | loadRoms (files : List RomFile)
  | mount (id : String) (bytes : List UInt8)
  | unmount (id : String)
  | setInput (input : Buttons)
  | runFrame
  | reset
  | restore (value : Json)

/-- The board behind an operation that may fail; a failure comes before the first change. -/
def orStay (board : Board) (outcome : Except BoardError Board) : Board :=
  match outcome with
  | .ok next => next
  | .error _ => board

/--
The board behind an operation. A frame that ends in a panic ends the whole run and leaves
no board behind. Its steps are counted here nevertheless, so what is true of all these
boards is true of every board that a run of the program comes to.
-/
def perform (board : Board) : Operation → Board
  | .switch game => board.switch game
  | .loadRoms files => board.loadRoms files
  | .mount id bytes => board.orStay (board.mount id bytes)
  | .unmount id => board.orStay (board.unmount id)
  | .setInput input => board.setInput input
  | .runFrame => board.advance
  | .reset => board.reset
  | .restore value => board.orStay (board.restore value)

/-- The board behind operations, in order. -/
def performAll (board : Board) (operations : List Operation) : Board :=
  operations.foldl perform board

/-- The boards that operations lead to from power-on. -/
inductive Reachable : Board → Prop
  | new (game : Game) : Reachable (new game)
  | perform {board : Board} (reachable : Reachable board) (operation : Operation) :
      Reachable (board.perform operation)

/-- What is true of every board that can be reached. -/
structure WellFormed (board : Board) : Prop where
  ports : board.machine.bus.ports = board.game.portTable
  clear : board.machine.cpu.stray = 0

/-! ## Single operations -/

theorem orStay_cases {Holds : Board → Prop} {board : Board} {outcome : Except BoardError Board}
    (stays : Holds board) (succeeds : ∀ next, outcome = .ok next → Holds next) :
    Holds (board.orStay outcome) := by
  cases outcome with
  | ok next => exact succeeds next rfl
  | error failure => exact stays

/-- The memory and the list of mounted images are all that may differ. -/
def DiffersInImages (before after : Board) : Prop :=
  ∃ change mounted, after = { before.mapMemory change with mounted }

theorem differs_loadRoms (board : Board) (files : List RomFile) :
    board.DiffersInImages (board.loadRoms files) :=
  ⟨_, _, rfl⟩

theorem differs_mount {board next : Board} {id : String} {bytes : List UInt8}
    (mounted : board.mount id bytes = .ok next) : board.DiffersInImages next := by
  obtain ⟨region, -, rest⟩ := Outcome.bind_eq_ok_iff.mp mounted
  cases rest
  exact ⟨_, _, rfl⟩

theorem differs_unmount {board next : Board} {id : String}
    (unmounted : board.unmount id = .ok next) : board.DiffersInImages next := by
  obtain ⟨region, -, rest⟩ := Outcome.bind_eq_ok_iff.mp unmounted
  cases rest
  exact ⟨_, _, rfl⟩

theorem memory_new (game : Game) : (new game).memory = Memory.zero := by
  rw [memory, new, Game.powerOn, Game.bind_eq]

theorem cpu_new (game : Game) : (new game).machine.cpu = {} := by
  rw [new, Game.powerOn, Game.bind_eq]

theorem devices_new (game : Game) : (new game).devices = .new game.config.dip := by
  rw [devices, new, Game.powerOn, Game.bind_eq]

theorem cpu_loadRoms (board : Board) (files : List RomFile) :
    (board.loadRoms files).machine.cpu = board.machine.cpu := rfl

theorem devices_loadRoms (board : Board) (files : List RomFile) :
    (board.loadRoms files).devices = board.devices := rfl

/-- One file is copied to the region that it belongs to. -/
theorem memory_loadRoms (board : Board) {file : RomFile} {region : RomRegion}
    (belongs : file.region? board.romRegions = some region) :
    (board.loadRoms [file]).memory = region.place board.memory file.bytes := by
  change file.place board.romRegions board.memory = _
  rw [RomFile.place, belongs]

/-- A program for the first region of Space Invaders starts at the first byte of memory. -/
theorem memory_invaders {game : Game}
    (regions : game.config.memory.rom = Preset.spaceInvaders.memory.rom) {program : List UInt8}
    (short : program.length ≤ 2048) :
    ((new game).loadRoms [⟨"invaders.h", program⟩]).memory = Memory.zero.load 0 program := by
  have named : Preset.spaceInvaders.memory.rom.find? (fun region => region.accepts "invaders.h") =
      some (Preset.romAt 0x0000 2048 "invaders.h") := by
    decide
  have belongs : (⟨"invaders.h", program⟩ : RomFile).region? (new game).romRegions =
      some (Preset.romAt 0x0000 2048 "invaders.h") := by
    rw [romRegions, config, new, regions]
    exact named
  rw [(new game).memory_loadRoms belongs, memory_new]
  exact congrArg (Memory.zero.load 0) (List.take_of_length_le short)

/-- No access of the processor binds a port. -/
theorem ports_invariant (table : PortTable) :
    BusInvariant fun bus : SystemBus => bus.ports = table where
  write bound _ _ := bound
  input bound _ := bound
  output := by
    intro bus bound port value
    change (SystemBus.output bus port value).ports = table
    unfold SystemBus.output
    split
    · exact bound
    · exact bound

theorem ports_spend {machine : Machine SystemBus} (budget spent : Nat) :
    (machine.spend budget spent).2.bus.ports = machine.bus.ports := by
  have invariant := ports_invariant machine.bus.ports
  exact spend_preserves (fun other : Machine SystemBus => other.bus.ports = machine.bus.ports)
    (fun _ bound => invariant.step bound) rfl budget spent

theorem stray_spend {machine : Machine SystemBus} (clear : machine.cpu.stray = 0)
    (budget spent : Nat) : (machine.spend budget spent).2.cpu.stray = 0 :=
  spend_preserves (fun other : Machine SystemBus => other.cpu.stray = 0)
    (fun _ => stray_step) clear budget spent

theorem wellFormed_new (game : Game) : (new game).WellFormed :=
  ⟨rfl, Cpu.stray_powerOn⟩

namespace WellFormed

variable {board : Board}

theorem advance (sound : board.WellFormed) : board.advance.WellFormed where
  ports := by
    rw [machine_advance_eq]
    exact (ports_spend board.budget 0).trans sound.ports
  clear := by
    have clear : board.latched.cpu.stray = 0 := sound.clear
    rw [machine_advance_eq]
    exact stray_spend clear board.budget 0

theorem of_images (sound : board.WellFormed) {next : Board}
    (images : board.DiffersInImages next) : next.WellFormed := by
  obtain ⟨change, mounted, rfl⟩ := images
  exact ⟨sound.ports, sound.clear⟩

theorem restore (sound : board.WellFormed) {value : Json} {next : Board}
    (restored : board.restore value = .ok next) : next.WellFormed := by
  obtain ⟨state, -, -, rfl⟩ := restore_eq_ok_iff.mp restored
  exact ⟨sound.ports, Cpu.stray_restored state.cpu⟩

theorem perform (sound : board.WellFormed) (operation : Operation) :
    (board.perform operation).WellFormed := by
  cases operation with
  | switch game => exact ⟨rfl, Cpu.stray_powerOn⟩
  | loadRoms files => exact sound.of_images (board.differs_loadRoms files)
  | mount id bytes =>
      exact orStay_cases sound fun next mounted => sound.of_images (differs_mount mounted)
  | unmount id =>
      exact orStay_cases sound fun next unmounted => sound.of_images (differs_unmount unmounted)
  | setInput input => exact ⟨sound.ports, sound.clear⟩
  | runFrame => exact sound.advance
  | reset => exact ⟨sound.ports, Cpu.stray_powerOn⟩
  | restore value => exact orStay_cases sound fun next => sound.restore

end WellFormed

/-! ## All reachable boards -/

theorem Reachable.wellFormed {board : Board} (reachable : Reachable board) :
    board.WellFormed := by
  induction reachable with
  | new game => exact wellFormed_new game
  | perform _ operation ih => exact ih.perform operation

end Board

end Cabinet
