import Cabinet.Preset
import Cabinet.Proofs.Board.Completion
import Cabinet.Proofs.Board.RamImage
import Cabinet.Proofs.Board.Reachable
import Cabinet.Proofs.Device.Latched
import Cabinet.Proofs.Machine.FlagDiscipline
import Cabinet.Proofs.PortTable

/-!
# Going on from a saved state

A saved state holds the processor, the devices and the declared memory regions.
Everything else that a board remembers is either the same on every board of the
game or without influence on what follows: the latched controls are replaced
when a frame begins, and the length of the last frame and the mounted images are
never looked at. So a board that takes a saved state back goes on like the
board that it was saved from.
-/

namespace Cabinet

/-- A region holds as many bytes as its size says, from its start on. -/
def RamRegion.Covers (region : RamRegion) (address : UInt16) : Prop :=
  Memory.InBlock region.start region.size address

/-- An address in a declared memory region. -/
def Config.DeclaresRam (config : Config) (address : UInt16) : Prop :=
  ∃ region ∈ config.memory.ram, region.Covers address

namespace Board

open Outcome

/-! ## Boards that cannot be told apart -/

/--
Boards that differ in nothing that matters from the next frame on. Their
waiting controls hold the same well-known buttons, and the latched ones do not
count.
-/
structure Alike (first second : Board) : Prop where
  game : first.game = second.game
  cpu : first.machine.cpu = second.machine.cpu
  memory : first.memory = second.memory
  ports : first.machine.bus.ports = second.machine.bus.ports
  devices : first.devices.UpToInput second.devices
  frameIndex : first.frameIndex = second.frameIndex
  input : first.input.Alike second.input

namespace Alike

variable {first second : Board}

theorem config (alike : Alike first second) : first.config = second.config :=
  congrArg Game.config alike.game

theorem latched (alike : Alike first second) :
    Machine.Alike SystemBus.Alike first.latched second.latched where
  cpu := alike.cpu
  bus := ⟨alike.memory, alike.ports, alike.devices.latch alike.input⟩

theorem due (alike : Alike first second) : first.due = second.due := by
  rw [Board.due, Board.due, alike.config, alike.frameIndex]

theorem advance (alike : Alike first second) : Alike first.advance second.advance := by
  have budget : first.budget = second.budget := by
    rw [budget_eq, budget_eq, alike.config]
  have spent := (alike.latched.spend SystemBus.simulation second.budget 0).2
  have machine : Machine.Alike SystemBus.Alike first.advance.machine second.advance.machine := by
    rw [machine_advance_eq, machine_advance_eq, alike.due, budget]
    exact spent.mapCpu _
  exact
    { game := alike.game
      cpu := machine.cpu
      memory := machine.bus.memory
      ports := machine.bus.ports
      devices := machine.bus.devices.rest
      frameIndex := congrArg (· + 1) alike.frameIndex
      input := alike.input }

/-- The same goes wrong in the next frame. -/
theorem fault? (alike : Alike first second) : first.fault? = second.fault? := by
  have left : first.input.isHeld "p1_left" = second.input.isHeld "p1_left" :=
    alike.input _ (by decide)
  have right : first.input.isHeld "p1_right" = second.input.isHeld "p1_right" :=
    alike.input _ (by decide)
  have periscope : first.devices.periscope = second.devices.periscope := by
    rw [← alike.devices]
  have budget : first.budget = second.budget := by
    rw [budget_eq, budget_eq, alike.config]
  rw [Board.fault?, Board.fault?, latchFault?, latchFault?, indexFault?, indexFault?, left, right,
    periscope, budget, alike.config, alike.frameIndex,
    alike.latched.spendFault? SystemBus.simulation SystemBus.sameFaults]

theorem reset (alike : Alike first second) : Alike first.reset second.reset where
  game := alike.game
  cpu := rfl
  memory := alike.memory
  ports := alike.ports
  devices := congrArg (fun config : Config => Devices.new config.dip) alike.config
  frameIndex := rfl
  input := alike.input

theorem setInput (alike : Alike first second) {input other : Buttons}
    (inputs : input.Alike other) : Alike (first.setInput input) (second.setInput other) :=
  { alike with input := inputs }

theorem picture (alike : Alike first second) : first.picture = second.picture := by
  rw [Board.picture, Board.picture, alike.config, alike.memory, ← alike.devices]
  rfl

theorem save (alike : Alike first second) : first.save = second.save := by
  have image : first.ramImage = second.ramImage := by
    funext region
    rw [ramImage, ramImage, alike.memory]
  simp only [Board.save, SavedState.toJson, savedState, image, alike.config, alike.cpu,
    alike.frameIndex, alike.devices.toJson]

end Alike

/-! ## Plays -/

/-- What a player does to a board that runs. -/
inductive Play where
  | setInput (input : Buttons)
  | runFrame
  | reset

/-- A play, with the picture that it shows. -/
def play (board : Board) : Play → Except Panic (Option Frame × Board)
  | .setInput input => .ok (none, board.setInput input)
  | .runFrame => do
      let (frame, next) ← board.runFrame
      return (some frame, next)
  | .reset => .ok (none, board.reset)

/--
The picture that each play shows, and the state that is saved after it. A frame that ends
in a panic is the last play.
-/
def observe (board : Board) : List Play → List (Except Panic (Option Frame × Json))
  | [] => []
  | play :: plays =>
      match board.play play with
      | .ok (picture, next) => .ok (picture, next.save) :: next.observe plays
      | .error panic => [.error panic]

/-- Pictures that are the same and boards that are alike behind them. -/
def PlayedAlike (first second : Option Frame × Board) : Prop :=
  first.1 = second.1 ∧ Alike first.2 second.2

theorem Alike.runFrame {first second : Board} (alike : Alike first second) :
    Matches PlayedAlike (first.play .runFrame) (second.play .runFrame) := by
  unfold Board.play
  rw [runFrame_eq, runFrame_eq, alike.fault?]
  cases second.fault? with
  | none => exact .ok ⟨congrArg some alike.advance.picture, alike.advance⟩
  | some panic => exact .error panic

theorem Alike.play {first second : Board} (alike : Alike first second) (play : Play) :
    Matches PlayedAlike (first.play play) (second.play play) := by
  cases play with
  | setInput input => exact .ok ⟨rfl, alike.setInput fun _ _ => rfl⟩
  | runFrame => exact alike.runFrame
  | reset => exact .ok ⟨rfl, alike.reset⟩

/-- Boards that are alike show the same and save the same, whatever is played. -/
theorem Alike.observe {first second : Board} (alike : Alike first second) (plays : List Play) :
    first.observe plays = second.observe plays := by
  induction plays generalizing first second with
  | nil => rfl
  | cons play plays ih =>
      have played := alike.play play
      rw [Board.observe, Board.observe]
      generalize first.play play = here at played
      generalize second.play play = there at played
      cases played with
      | ok same =>
          obtain ⟨picture, next⟩ := same
          simp only [picture, next.save, ih next]
      | error panic => rfl

/-! ## Taking a state back -/

theorem covers_ramImage (board : Board) {region : RamRegion} {address : UInt16} :
    (board.ramImage region).Covers address ↔ region.Covers address := by
  unfold RamImage.Covers
  rw [ramImage, Memory.length_readRange]
  rfl

/-- A board's own images change nothing in its memory. -/
theorem place_ramImages (board : Board) (regions : List RamRegion) :
    (regions.map board.ramImage).foldl RamImage.place board.memory = board.memory := by
  rw [List.foldl_map]
  exact board.memory.foldl_load_self RamRegion.start RamRegion.size regions

/-- The images that are saved cover the declared memory regions. -/
theorem covers_savedState (board : Board) {address : UInt16} :
    (∃ image ∈ board.savedState.ram, image.Covers address) ↔
      board.config.DeclaresRam address := by
  constructor
  · rintro ⟨image, member, covers⟩
    obtain ⟨region, declared, rfl⟩ := List.mem_map.mp member
    exact ⟨region, declared, board.covers_ramImage.mp covers⟩
  · rintro ⟨region, declared, covers⟩
    exact ⟨_, List.mem_map_of_mem declared, board.covers_ramImage.mpr covers⟩

/-- The declared memory regions are taken back. -/
theorem read_withState_declared (board other : Board) {address : UInt16}
    (declared : other.config.DeclaresRam address) :
    (board.withState other.savedState).memory.read address = other.memory.read address := by
  -- The images leave the same bytes on the board that they were saved from, where they are idle.
  have same := (RamImage.overwrites_images other.savedState.ram).inside board.memory other.memory
    address (other.covers_savedState.mpr declared)
  have idle := other.place_ramImages other.config.memory.ram
  exact same.trans (congrArg (fun memory => Memory.read memory address) idle)

/-- The rest of memory stays. -/
theorem read_withState_undeclared (board other : Board) {address : UInt16}
    (undeclared : ¬ other.config.DeclaresRam address) :
    (board.withState other.savedState).memory.read address = board.memory.read address :=
  (RamImage.overwrites_images other.savedState.ram).outside board.memory address
    (mt other.covers_savedState.mp undeclared)

/-- A state saved from a board of the same game is taken back. -/
theorem restore_save {board other : Board} (game : board.game = other.game) :
    board.restore other.save = .ok (board.withState other.savedState) := by
  have name : other.config.name = board.config.name :=
    congrArg (fun game : Game => game.config.name) game.symm
  exact restore_toJson rfl name

theorem alike_withState {board other : Board} (reachable : Reachable board)
    (source : Reachable other) (game : board.game = other.game)
    (memory : ∀ address, ¬ other.config.DeclaresRam address →
      board.memory.read address = other.memory.read address)
    (input : board.input.Alike other.input) :
    Alike (board.withState other.savedState) other where
  game := game
  cpu := Cpu.restored_of_clear source.wellFormed.clear
  memory := by
    apply Memory.ext_read
    intro address
    by_cases declared : other.config.DeclaresRam address
    · exact board.read_withState_declared other declared
    · rw [board.read_withState_undeclared other declared]
      exact memory address declared
  ports := by
    change board.machine.bus.ports = other.machine.bus.ports
    rw [reachable.wellFormed.ports, source.wellFormed.ports, game]
  devices := rfl
  frameIndex := rfl
  input := input

/--
A board takes back the state that was saved from another board of its game and
goes on like that board, whatever it did before, if the two have the same
waiting controls and the same memory outside the declared regions.
-/
theorem resume_goes_on {saved board : Board} (source : Reachable saved)
    (reachable : Reachable board) (game : board.game = saved.game)
    (memory : ∀ address, ¬ saved.config.DeclaresRam address →
      board.memory.read address = saved.memory.read address)
    (input : board.input.same saved.input = true) :
    ∃ resumed, board.restore saved.save = .ok resumed ∧ resumed.save = saved.save ∧
      ∀ plays, resumed.observe plays = saved.observe plays := by
  have alike := alike_withState reachable source game memory (Buttons.alike_of_same input)
  exact ⟨_, restore_save game, alike.save, alike.observe⟩

/-! ## A program that looks at its controls -/

open Machine

/-- IN 1; STA 2000h; OUT 3; HLT. -/
def watching : List UInt8 :=
  [0xDB, 0x01, 0x32, 0x00, 0x20, 0xD3, 0x03, 0x76]

/-- From power-on the byte of the controls comes to memory and to an output port. -/
theorem after_watching (bus : SystemBus) (program : bus.memory = Memory.zero.load 0 watching) :
    (⟨{}, bus⟩ : Machine SystemBus).after 4 =
      ⟨{ a := bus.input 1, pc := 8, halted := true, cycles := 40 },
        { bus with memory := bus.memory.write 0x2000 (bus.input 1) }.output 3 (bus.input 1)⟩ := by
  let value := bus.input 1
  let stored : SystemBus := { bus with memory := bus.memory.write 0x2000 value }
  let first : Machine SystemBus := ⟨{}, bus⟩
  let second : Machine SystemBus := ⟨{ a := value, pc := 2, cycles := 10 }, bus⟩
  let third : Machine SystemBus := ⟨{ a := value, pc := 5, cycles := 23 }, stored⟩
  let fourth : Machine SystemBus :=
    ⟨{ a := value, pc := 7, cycles := 33 }, stored.output 3 value⟩
  have byte (index : Nat) (inside : index < watching.length) :
      bus.memory.read (0 + UInt16.ofNat index) = watching[index] := by
    rw [program]
    exact Memory.zero.read_load_getElem 0 (by decide) inside
  -- The byte that is stored lies behind the program.
  have later (index : Nat) (inside : index < watching.length) :
      stored.memory.read (0 + UInt16.ofNat index) = watching[index] := by
    have apart : (0x2000 : UInt16) ≠ 0 + UInt16.ofNat index := by
      intro same
      have place := congrArg UInt16.toNat same
      rw [UInt16.zero_add, UInt16.toNat_ofNat_of_lt' (Nat.lt_trans inside (by decide))] at place
      subst place
      exact absurd inside (by decide)
    exact (bus.memory.read_write_of_ne value apart).trans (byte index inside)
  have input : first.step.2 = second := by
    have executed : first.executed? = some 0xDB :=
      executed?_eq_some_iff.mpr ⟨⟨rfl, rfl⟩, byte 0 (by decide)⟩
    have decoded : Cpu.Instruction.ofOpcode 0xDB = .input := Cpu.Instruction.ofOpcode_of_decode rfl
    have port : first.read 1 = 1 := byte 1 (by decide)
    rw [step_of_executed executed decoded]
    change (⟨{ a := bus.input (first.read 1), pc := 2, cycles := 10 }, bus⟩ :
      Machine SystemBus) = second
    rw [port]
  have store : second.step.2 = third := by
    have executed : second.executed? = some 0x32 :=
      executed?_eq_some_iff.mpr ⟨⟨rfl, rfl⟩, byte 2 (by decide)⟩
    have target : second.readWord (second.cpu.pc + 1) = 0x2000 := by
      have low : second.read 3 = 0x00 := byte 3 (by decide)
      have high : second.read (3 + 1) = 0x20 := byte 4 (by decide)
      change second.readWord 3 = 0x2000
      rw [readWord, high, low]
      decide
    rw [step_of_sta executed target]
    rfl
  have output : third.step.2 = fourth := by
    have executed : third.executed? = some 0xD3 :=
      executed?_eq_some_iff.mpr ⟨⟨rfl, rfl⟩, later 5 (by decide)⟩
    have decoded : Cpu.Instruction.ofOpcode 0xD3 = .output := Cpu.Instruction.ofOpcode_of_decode rfl
    have port : third.read 6 = 3 := later 6 (by decide)
    rw [step_of_executed executed decoded]
    change (⟨{ a := value, pc := 7, cycles := 33 }, stored.output (third.read 6) value⟩ :
      Machine SystemBus) = fourth
    rw [port]
  have halt : fourth.step.2 =
      ⟨{ a := value, pc := 8, halted := true, cycles := 40 }, fourth.bus⟩ := by
    have fetched : fourth.read 7 = 0x76 := by
      change (stored.output 3 value).memory.read 7 = 0x76
      rw [SystemBus.memory_output]
      exact later 7 (by decide)
    rw [step_of_hlt (executed?_eq_some_iff.mpr ⟨⟨rfl, rfl⟩, fetched⟩)]
    rfl
  rw [after_succ, after_succ, after_succ, after_succ, after_zero]
  change first.step.2.step.2.step.2.step.2 = _
  rw [input, store, output, halt]

/-- The game with the program, at power-on. -/
def watchingBoard : Board :=
  (new ⟨Preset.spaceInvaders, {}⟩).perform (.loadRoms [⟨"invaders.h", watching⟩])

theorem memory_watchingBoard : watchingBoard.memory = Memory.zero.load 0 watching :=
  memory_invaders rfl (by decide)

theorem ports_watchingBoard :
    watchingBoard.machine.bus.ports.input? 1 = some .playerControls ∧
      watchingBoard.machine.bus.ports.output? 3 = some (.sound 1) := by
  have ports : watchingBoard.machine.bus.ports = Game.portTable ⟨Preset.spaceInvaders, {}⟩ :=
    ((Reachable.new _).perform _).wellFormed.ports
  have input : Preset.spaceInvaders.ports.inputs.name? 1 = some "player_controls" := by
    decide
  have output : Preset.spaceInvaders.ports.outputs.name? 3 = some "sound_1" := by
    decide
  rw [ports, Game.input?_portTable, Game.output?_portTable, input, output]
  decide

/-- A frame that begins with the program leaves the byte of the controls in three places. -/
theorem advance_watching {board : Board} (powerOn : board.machine.cpu = {})
    (program : board.memory = Memory.zero.load 0 watching) (room : 72 ≤ board.budget)
    (readsControls : board.machine.bus.ports.input? 1 = some .playerControls)
    (writesSound : board.machine.bus.ports.output? 3 = some (.sound 1)) :
    let value := Devices.wiredHigh ||| board.input.mask Devices.controlBits
    board.advance.machine.cpu.a = value ∧
      board.advance.memory = board.memory.write 0x2000 value ∧
        board.advance.devices.sound[0] = value := by
  intro value
  let bus := board.latched.bus
  have start : board.latched = ⟨{}, bus⟩ := congrArg (Machine.mk · _) powerOn
  have input : bus.input 1 = value := by
    have ports : bus.ports.input? 1 = some .playerControls := readsControls
    rw [SystemBus.input, ports]
    rfl
  let stored : SystemBus := { bus with memory := bus.memory.write 0x2000 value }
  have output : stored.output 3 value =
      { stored with devices := stored.devices.write (.sound 1) value } := by
    have ports : stored.ports.output? 3 = some (.sound 1) := writesSound
    rw [SystemBus.output, ports]
  let halted : Machine SystemBus :=
    ⟨{ a := value, pc := 8, halted := true, cycles := 40 }, stored.output 3 value⟩
  have ran : board.latched.after 4 = halted := by
    rw [start, after_watching bus program, input]
  have quiet : halted.cpu.serviceable = none := rfl
  obtain ⟨cycles, idle⟩ :=
    spend_of_halted quiet rfl board.budget (0 + board.latched.costOf 4)
  have enough : 0 + 18 * 4 ≤ board.budget := room
  rw [Board.memory, Board.devices, machine_advance_eq, board.latched.spend_eq_spend_after enough,
    ran, idle]
  change value = value ∧ (stored.output 3 value).memory = _ ∧
    (stored.output 3 value).devices.sound[0] = value
  rw [output]
  exact ⟨rfl, rfl, Vector.getElem_setIfInBounds_self _⟩

/--
A board whose player held the coin switch, and another one of the game whose player did
not: they differ in a register, in memory and in a sound latch, and the second goes on as
the first one.
-/
theorem resume_goes_on_watching :
    let controls : Buttons := ⟨[("tilt", false), ("p1_start", true)]⟩
    let saved := ((watchingBoard.perform (.setInput ⟨[("coin1", true)]⟩)).perform
      .runFrame).perform (.setInput controls)
    let board := ((watchingBoard.perform (.setInput {})).perform .runFrame).perform
      (.setInput controls)
    (saved.machine.cpu.a = 9 ∧ saved.memory.read 0x2000 = 9 ∧ saved.devices.sound[0] = 9) ∧
      (board.machine.cpu.a = 8 ∧ board.memory.read 0x2000 = 8 ∧ board.devices.sound[0] = 8) ∧
      ∃ resumed, board.restore saved.save = .ok resumed ∧ resumed.save = saved.save ∧
        ∀ plays, resumed.observe plays = saved.observe plays := by
  intro controls saved board
  have powerOn : watchingBoard.machine.cpu = {} :=
    (cpu_loadRoms _ _).trans (cpu_new _)
  have room : 72 ≤ watchingBoard.budget := (by decide : 72 ≤ Preset.spaceInvaders.cyclesPerFrame)
  have reachable (input : Buttons) : Reachable
      (((watchingBoard.perform (.setInput input)).perform .runFrame).perform
        (.setInput controls)) :=
    ((((Reachable.new _).perform _).perform _).perform _).perform _
  have frame (input : Buttons) (value : UInt8)
      (byte : Devices.wiredHigh ||| input.mask Devices.controlBits = value) :
      (watchingBoard.setInput input).advance.machine.cpu.a = value ∧
        (watchingBoard.setInput input).advance.memory = watchingBoard.memory.write 0x2000 value ∧
          (watchingBoard.setInput input).advance.devices.sound[0] = value := by
    subst byte
    exact advance_watching powerOn memory_watchingBoard room ports_watchingBoard.1
      ports_watchingBoard.2
  obtain ⟨register, memory, latch⟩ := frame ⟨[("coin1", true)]⟩ 9 (by decide)
  obtain ⟨otherRegister, otherMemory, otherLatch⟩ := frame {} 8 (by decide)
  have savedMemory : saved.memory = watchingBoard.memory.write 0x2000 9 := memory
  have boardMemory : board.memory = watchingBoard.memory.write 0x2000 8 := otherMemory
  have same (address : UInt16) (undeclared : ¬ saved.config.DeclaresRam address) :
      board.memory.read address = saved.memory.read address := by
    have apart : 0x2000 ≠ address := by
      rintro rfl
      exact undeclared ⟨Preset.ramAt 0x2000 1024, List.mem_singleton_self _, 0, by decide, rfl⟩
    rw [savedMemory, boardMemory, Memory.read_write_of_ne _ _ apart,
      Memory.read_write_of_ne _ _ apart]
  refine ⟨⟨register, ?_, latch⟩, ⟨otherRegister, ?_, otherLatch⟩, ?_⟩
  · rw [savedMemory]
    exact Memory.read_write_same _ _ _
  · rw [boardMemory]
    exact Memory.read_write_same _ _ _
  · exact resume_goes_on (reachable _) (reachable _) rfl same (by decide)

end Board

end Cabinet
