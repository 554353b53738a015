import Cabinet.Config.Validate
import Cabinet.Proofs.Board.Resume
import Cabinet.Proofs.Footprint
import Cabinet.Proofs.Machine.FlagDiscipline
import Cabinet.Proofs.Machine.Spending

/-!
# Pictures of saved boards

A saved state carries the devices and the declared memory regions, and program
images are loaded anew. So a new board of the game shows the saved picture if
every address that the picture looks at is in a declared region or still holds
what was loaded. Picture memory outside the declared regions is not saved.
-/

namespace Cabinet

namespace Board

open Machine
open Cpu

/--
A board whose state is taken back on a new board of its game with images loaded. The
declared regions are those of the saved board, and the rest of memory is as loaded. The
picture is drawn from this memory the way the saved board draws it.
-/
structure Reproduction (saved : Board) (files : List RomFile) (restored : Board) : Prop where
  accepted : ((new saved.game).loadRoms files).restore saved.save = .ok restored
  declared : ∀ address, saved.config.DeclaresRam address →
    restored.memory.read address = saved.memory.read address
  loaded : ∀ address, ¬ saved.config.DeclaresRam address →
    restored.memory.read address = ((new saved.game).loadRoms files).memory.read address
  drawn : restored.picture = Picture.render saved.config restored.memory saved.devices

/-- The latched controls are not shown. -/
theorem render_restore (config : Config) (memory : Memory) (devices saved : Devices) :
    Picture.render config memory (devices.restore saved) =
      Picture.render config memory saved := rfl

theorem picture_withState (board : Board) (state : SavedState) :
    (board.withState state).picture =
      Picture.render board.config (board.withState state).memory state.devices :=
  render_restore board.config _ board.devices state.devices

/-- The state of a board can always be taken back on a new board of its game. -/
theorem exists_reproduction (saved : Board) (files : List RomFile) :
    ∃ restored, saved.Reproduction files restored := by
  let board := (new saved.game).loadRoms files
  have accepted : board.restore saved.save = .ok (board.withState saved.savedState) :=
    restore_save rfl
  exact ⟨_,
    { accepted
      declared := fun _ => board.read_withState_declared saved
      loaded := fun _ => board.read_withState_undeclared saved
      drawn := board.picture_withState saved.savedState }⟩

/-- What the picture looks at outside the declared regions still is what was loaded. -/
def PictureKept (saved : Board) (files : List RomFile) : Prop :=
  ∀ address, Picture.Reads saved.config saved.memory address →
    ¬ saved.config.DeclaresRam address →
      saved.memory.read address = ((new saved.game).loadRoms files).memory.read address

theorem Reproduction.picture {saved restored : Board} {files : List RomFile}
    (reproduction : saved.Reproduction files restored) (kept : saved.PictureKept files) :
    restored.picture = saved.picture := by
  rw [reproduction.drawn]
  symm
  apply Picture.render_eq_of_agree
  intro address reads
  by_cases declared : saved.config.DeclaresRam address
  · exact (reproduction.declared address declared).symm
  · rw [reproduction.loaded address declared]
    exact kept address reads declared

/-! ## A program that draws -/

/-- MVI A,01h; STA 2400h; HLT. -/
def drawing : List UInt8 :=
  [0x3E, 0x01, 0x32, 0x00, 0x24, 0x76]

/-- From power-on the program stores one byte and halts. -/
theorem after_drawing (bus : SystemBus) (program : bus.memory = Memory.zero.load 0 drawing) :
    (⟨{}, bus⟩ : Machine SystemBus).after 3 =
      ⟨{ a := 0x01, pc := 6, halted := true, cycles := 27 },
        { bus with memory := bus.memory.write 0x2400 0x01 }⟩ := by
  let first : Machine SystemBus := ⟨{}, bus⟩
  let second : Machine SystemBus := ⟨{ a := 0x01, pc := 2, cycles := 7 }, bus⟩
  let third : Machine SystemBus :=
    ⟨{ a := 0x01, pc := 5, cycles := 20 }, { bus with memory := bus.memory.write 0x2400 0x01 }⟩
  have byte (index : Nat) (inside : index < drawing.length) :
      bus.memory.read (0 + UInt16.ofNat index) = drawing[index] := by
    rw [program]
    exact Memory.zero.read_load_getElem 0 (by decide) inside
  have load : first.step.2 = second := by
    have executed : first.executed? = some 0x3E :=
      executed?_eq_some_iff.mpr ⟨⟨rfl, rfl⟩, byte 0 (by decide)⟩
    have decoded : Instruction.ofOpcode 0x3E = .mvi .a := Instruction.ofOpcode_of_decode rfl
    have operand : first.read 1 = 0x01 := byte 1 (by decide)
    rw [step_of_executed executed decoded]
    change (⟨{ a := first.read 1, pc := 2, cycles := 7 }, bus⟩ : Machine SystemBus) = second
    rw [operand]
  have store : second.step.2 = third := by
    have executed : second.executed? = some 0x32 :=
      executed?_eq_some_iff.mpr ⟨⟨rfl, rfl⟩, byte 2 (by decide)⟩
    have target : second.readWord (second.cpu.pc + 1) = 0x2400 := by
      have low : second.read 3 = 0x00 := byte 3 (by decide)
      have high : second.read (3 + 1) = 0x24 := byte 4 (by decide)
      change second.readWord 3 = 0x2400
      rw [readWord, high, low]
      decide
    rw [step_of_sta executed target]
    rfl
  have halt : third.step.2 =
      ⟨{ a := 0x01, pc := 6, halted := true, cycles := 27 }, third.bus⟩ := by
    have executed : third.executed? = some 0x76 := by
      apply executed?_eq_some_iff.mpr
      have apart : (0x2400 : UInt16) ≠ 0 + UInt16.ofNat 5 := by
        decide
      exact ⟨⟨rfl, rfl⟩, (bus.memory.read_write_of_ne 0x01 apart).trans (byte 5 (by decide))⟩
    rw [step_of_hlt executed]
    rfl
  rw [after_succ, after_succ, after_succ, after_zero]
  change first.step.2.step.2.step.2 = _
  rw [load, store, halt]

/-- A frame that begins with the program stores one byte and changes nothing else in memory. -/
theorem bus_advance_drawing {board : Board} (powerOn : board.machine.cpu = {})
    (program : board.memory = Memory.zero.load 0 drawing) (budget : 54 ≤ board.budget) :
    board.advance.machine.bus =
      { board.latched.bus with memory := board.memory.write 0x2400 0x01 } := by
  have start : board.latched = ⟨{}, board.latched.bus⟩ := congrArg (Machine.mk · _) powerOn
  have drawn := after_drawing board.latched.bus program
  rw [← start] at drawn
  have room : 0 + 18 * 3 ≤ board.budget := by
    omega
  rw [machine_advance_eq, bus_mapCpu, board.latched.spend_eq_spend_after room, drawn,
    bus_spend_of_halted rfl rfl]
  rfl

/-- The program as an image for the first program region of this game. -/
def drawingFiles : List RomFile :=
  [⟨"invaders.h", drawing⟩]

/-- The board of a game after one frame of the program. -/
def drawnBoard (game : Game) : Board :=
  ((new game).loadRoms drawingFiles).perform .runFrame

theorem reachable_drawnBoard (game : Game) : Reachable (drawnBoard game) :=
  ((Reachable.new game).perform (.loadRoms drawingFiles)).perform .runFrame

/-- One bit of picture memory is set, and the screen is not flipped. -/
theorem read_drawnBoard {game : Game}
    (regions : game.config.memory.rom = Preset.spaceInvaders.memory.rom)
    (budget : 54 ≤ game.config.cyclesPerFrame) :
    (drawnBoard game).memory.read 0x2400 = 0x01 ∧ (drawnBoard game).devices.flipScreen = false := by
  have powerOn : ((new game).loadRoms drawingFiles).machine.cpu = {} := by
    rw [cpu_loadRoms, cpu_new]
  have program : ((new game).loadRoms drawingFiles).memory = Memory.zero.load 0 drawing :=
    memory_invaders regions (by decide)
  have bus := bus_advance_drawing powerOn program budget
  constructor
  · have memory := congrArg SystemBus.memory bus
    exact (congrArg (fun memory => Memory.read memory 0x2400) memory).trans
      (Memory.read_write_same _ 0x2400 0x01)
  · have devices := congrArg SystemBus.devices bus
    exact congrArg Devices.flipScreen devices

/-! ## The picture that was saved -/

/--
The state of a board is taken back on a new board with the same images loaded. It
shows the same picture if what the picture looks at outside the declared regions
still is what was loaded.
-/
theorem picture_reproduced (saved : Board) (files : List RomFile) :
    ∃ restored, saved.Reproduction files restored ∧
      (saved.PictureKept files → restored.picture = saved.picture) := by
  obtain ⟨restored, reproduction⟩ := saved.exists_reproduction files
  exact ⟨restored, reproduction, reproduction.picture⟩

/-- A game whose picture memory is part of a declared region. -/
theorem picture_reproduced_declared :
    let memory := { Preset.spaceInvaders.memory with ram := [Preset.ramAt 0x2000 0x2000] }
    let game : Game := ⟨{ Preset.spaceInvaders with memory }, {}⟩
    (drawnBoard game).memory.read 0x2400 = 0x01 ∧
      ∃ restored, (drawnBoard game).Reproduction drawingFiles restored ∧
        restored.picture = (drawnBoard game).picture := by
  intro memory game
  have covers (address : UInt16)
      (inside : Memory.InBlock 0x2400 (Picture.packedSize game.config.display 1) address) :
      game.config.DeclaresRam address := by
    have size : Picture.packedSize game.config.display 1 = 7168 := by
      decide
    rw [size, Memory.inBlock_iff (by decide)] at inside
    refine ⟨Preset.ramAt 0x2000 0x2000, List.mem_singleton_self _, ?_⟩
    apply (Memory.inBlock_iff (by decide)).mpr
    exact ⟨Nat.le_trans (by decide) inside.1, Nat.lt_of_lt_of_le inside.2 (by decide)⟩
  have kept : (drawnBoard game).PictureKept drawingFiles := by
    intro address reads undeclared
    have block := Picture.Reads.inBlock rfl rfl reads
    exact absurd (covers address block) undeclared
  obtain ⟨restored, reproduction, picture⟩ := picture_reproduced (drawnBoard game) drawingFiles
  exact ⟨(read_drawnBoard rfl (by decide)).1, restored, reproduction, picture kept⟩

/-- The lowest bit of the first byte is the pixel at the beginning of row 248. -/
theorem pixel_spaceInvaders (memory : Memory) {devices : Devices}
    (upright : devices.flipScreen = false) :
    (Picture.render Preset.spaceInvaders memory devices).pixels[248 * 224]? =
      some (Picture.monoColor (Picture.field 1 (memory.read 0x2400) 7)) := by
  let display := Preset.spaceInvaders.display
  have address : Picture.pixelAddress display 0x2400 1 (248 * 224) = 0x2400 := by
    decide
  have position : (Picture.storedPlace display (248 * 224)).1 % 8 = 7 := by
    decide
  have value : Picture.pixelValue display memory 0x2400 1 (248 * 224) =
      Picture.field 1 (memory.read 0x2400) 7 := by
    rw [Picture.pixelValue, address]
    exact congrArg (Picture.field 1 _) position
  rw [Picture.getElem?_render rfl (.mono rfl) memory (by decide), upright, ← value]
  rfl

/-- Picture memory that is not declared is not saved. -/
theorem picture_lost :
    let game : Game := ⟨Preset.spaceInvaders, {}⟩
    game.config.validate = .ok () ∧ Reachable (drawnBoard game) ∧
      ∃ restored, (drawnBoard game).Reproduction drawingFiles restored ∧
        restored.picture ≠ (drawnBoard game).picture := by
  intro game
  have valid : Preset.spaceInvaders.validate = .ok () := rfl
  obtain ⟨restored, reproduction⟩ := (drawnBoard game).exists_reproduction drawingFiles
  refine ⟨valid, reachable_drawnBoard game, restored, reproduction, ?_⟩
  obtain ⟨lit, upright⟩ := @read_drawnBoard game rfl (by decide)
  have undeclared : ¬ game.config.DeclaresRam 0x2400 := by
    rintro ⟨region, member, covers⟩
    cases List.mem_singleton.mp member
    obtain ⟨-, below⟩ := (Memory.inBlock_iff (by decide)).mp covers
    exact absurd below (by decide)
  have dark : restored.memory.read 0x2400 = 0x00 := by
    have loaded : ((new game).loadRoms drawingFiles).memory = Memory.zero.load 0 drawing :=
      memory_invaders rfl (by decide)
    have outside : ¬ Memory.InBlock 0 drawing.length 0x2400 := by
      rw [Memory.inBlock_iff (by decide)]
      decide
    refine (reproduction.loaded 0x2400 undeclared).trans ?_
    change ((new game).loadRoms drawingFiles).memory.read 0x2400 = 0x00
    rw [loaded, Memory.read_load_outside _ outside, Memory.read_zero]
  intro same
  have pixels := congrArg (fun frame : Frame => frame.pixels[248 * 224]?) same
  rw [reproduction.drawn] at pixels
  have values := (pixel_spaceInvaders restored.memory upright).symm.trans
    (pixels.trans (pixel_spaceInvaders (drawnBoard game).memory upright))
  rw [dark, lit] at values
  exact absurd values (by decide)

end Board

end Cabinet
