import Cabinet.Config.Validate
import Cabinet.Proofs.Board.Resume

/-!
# What a board takes back

A board takes a state back if its version and its game are right. It looks neither
at the kind of machine that the state names nor at where the images of memory go.
So the images may lie anywhere, and the bytes outside the declared regions are
safe from a state exactly if none of its images covers them.
-/

namespace Cabinet

namespace SavedState

/-- An address that one of the state's images covers. -/
def Covers (state : SavedState) (address : UInt16) : Prop :=
  ∃ image ∈ state.ram, image.Covers address

/-- A state of this kind of machine, with one image for each declared region, in order. -/
structure Identifies (state : SavedState) (config : Config) : Prop where
  system : state.system = systemName
  ram : state.ram.map (fun image => (image.start, image.bytes.length)) =
    config.memory.ram.map fun region => (region.start, region.size)

theorem Identifies.declares {state : SavedState} {config : Config}
    (identifies : state.Identifies config) {address : UInt16} (covers : state.Covers address) :
    config.DeclaresRam address := by
  obtain ⟨image, member, covers⟩ := covers
  have extent : (image.start, image.bytes.length) ∈
      config.memory.ram.map fun region => (region.start, region.size) := by
    rw [← identifies.ram]
    exact List.mem_map_of_mem member
  obtain ⟨region, declared, same⟩ := List.mem_map.mp extent
  obtain ⟨start, size⟩ := Prod.mk.inj same
  refine ⟨region, declared, ?_⟩
  unfold RamRegion.Covers
  rw [start, size]
  exact covers

end SavedState

namespace Board

/-! ## Memory -/

/-- Memory changes only where the state's images are. -/
theorem read_withState_outside (board : Board) {state : SavedState} {address : UInt16}
    (outside : ¬ state.Covers address) :
    (board.withState state).memory.read address = board.memory.read address :=
  (RamImage.overwrites_images state.ram).outside board.memory address outside

/-- What the images leave does not depend on the board. -/
theorem read_withState_inside (board other : Board) {state : SavedState} {address : UInt16}
    (inside : state.Covers address) :
    (board.withState state).memory.read address = (other.withState state).memory.read address :=
  (RamImage.overwrites_images state.ram).inside board.memory other.memory address inside

/-- Any byte may be at any address of a board that can be reached. -/
theorem exists_read (game : Game) (address : UInt16) (value : UInt8) :
    ∃ board, Reachable board ∧ board.game = game ∧ board.memory.read address = value := by
  let state : SavedState := { (new game).savedState with ram := [⟨address, [value]⟩] }
  have restored : (new game).restore state.toJson = .ok ((new game).withState state.unlatched) :=
    restore_toJson rfl rfl
  have reachable := (Reachable.new game).perform (.restore state.toJson)
  rw [Board.perform, restored] at reachable
  exact ⟨_, reachable, rfl, Memory.read_write_same _ address value⟩

/-! ## Accepted values -/

/--
What is true of a value that a board takes back. A state that identifies the board changes
no byte outside the declared regions. The bytes outside them are kept on all boards if the
images are inside, and only then.
-/
structure Acceptance (board : Board) (value : Json) (state : SavedState) (next : Board) :
    Prop where
  read : Json.readValue SavedState.reader value = .ok state
  version : state.version = SavedState.currentVersion
  game : state.game = board.config.name
  taken : next = board.withState state
  outside : ∀ address, ¬ state.Covers address →
    next.memory.read address = board.memory.read address
  identified : state.Identifies board.config → ∀ address, ¬ board.config.DeclaresRam address →
    next.memory.read address = board.memory.read address
  kept_iff : (∀ address, state.Covers address → board.config.DeclaresRam address) ↔
    ∀ other after, Reachable other → other.game = board.game → other.restore value = .ok after →
      ∀ address, ¬ board.config.DeclaresRam address →
        after.memory.read address = other.memory.read address

/-- A byte that an image covers is changed on some board of the game. -/
theorem exists_changed (game : Game) {value : Json} {state : SavedState}
    (read : Json.readValue SavedState.reader value = .ok state)
    (passed : state.version = SavedState.currentVersion ∧ state.game = game.config.name)
    {address : UInt16} (covers : state.Covers address) :
    ∃ board next, Reachable board ∧ board.game = game ∧ board.restore value = .ok next ∧
      next.memory.read address ≠ board.memory.read address := by
  let left := ((new game).withState state).memory.read address
  obtain ⟨board, reachable, same, other⟩ := exists_read game address (left + 1)
  have restored : board.restore value = .ok (board.withState state) := by
    apply restore_eq_ok_iff.mpr
    refine ⟨state, read, ?_, rfl⟩
    rw [config, same]
    exact passed
  refine ⟨board, _, reachable, same, restored, ?_⟩
  rw [board.read_withState_inside (new game) covers, other]
  change left ≠ left + 1
  simp

theorem accepted_state {board next : Board} {value : Json}
    (restored : board.restore value = .ok next) :
    ∃ state, board.Acceptance value state next := by
  obtain ⟨state, read, ⟨version, game⟩, rfl⟩ := restore_eq_ok_iff.mp restored
  refine ⟨state, read, version, game, rfl, ?_, ?_, ?_, ?_⟩
  · exact fun _ => board.read_withState_outside
  · intro identifies address undeclared
    exact board.read_withState_outside fun covers => undeclared (identifies.declares covers)
  · intro within other after _ _ restored address undeclared
    obtain ⟨same, reads, -, rfl⟩ := restore_eq_ok_iff.mp restored
    cases read.symm.trans reads
    exact other.read_withState_outside fun covers => undeclared (within address covers)
  · intro kept address covers
    refine Classical.byContradiction fun undeclared => ?_
    obtain ⟨other, after, reachable, same, restored, changed⟩ :=
      exists_changed board.game read ⟨version, game⟩ covers
    exact changed (kept other after reachable same restored address undeclared)

/-- A state of a board that ran a program, with three bytes of memory and the accumulator edited. -/
theorem accepted_state_edited :
    let board := (watchingBoard.perform (.setInput ⟨[("coin1", true)]⟩)).perform .runFrame
    let edited : SavedState := { board.savedState with
      cpu := { board.machine.cpu with a := 0x55 }
      ram := [⟨0x2100, [1, 2, 3]⟩] }
    let next := board.withState edited.unlatched
    (∃ state, board.Acceptance edited.toJson state next) ∧ next.machine.cpu.a = 0x55 ∧
      next.memory.read 0x2100 = 1 ∧ next.memory.read 0x2000 = board.memory.read 0x2000 := by
  intro board edited next
  have accepted : ∃ state, board.Acceptance edited.toJson state next :=
    accepted_state (restore_toJson rfl rfl)
  have placed : next.memory = board.memory.load 0x2100 [1, 2, 3] := rfl
  have inside : (0 : Nat) < [(1 : UInt8), 2, 3].length := by decide
  refine ⟨accepted, rfl, ?_, ?_⟩
  · rw [placed]
    exact board.memory.read_load_getElem 0x2100 (by decide) inside
  · have outside : ¬ Memory.InBlock 0x2100 [(1 : UInt8), 2, 3].length 0x2000 := by
      rw [Memory.inBlock_iff (by decide)]
      decide
    rw [placed, board.memory.read_load_outside outside]

/-- A state of another kind of machine is taken back over a program image. -/
theorem accepted_state_foreign :
    let board := (new ⟨Preset.spaceInvaders, {}⟩).perform
      (.loadRoms [⟨"invaders.h", [0xC3]⟩])
    let state : SavedState :=
      { board.savedState with system := "nes", ram := [⟨0x0000, [0x76]⟩] }
    board.config.validate = .ok () ∧ Reachable board ∧
      board.restore state.toJson = .ok (board.withState state.unlatched) ∧
      ¬ state.unlatched.Identifies board.config ∧ ¬ board.config.DeclaresRam 0x0000 ∧
      board.memory.read 0x0000 = 0xC3 ∧
      (board.withState state.unlatched).memory.read 0x0000 = 0x76 := by
  intro board state
  have loaded : board.memory.read 0x0000 = 0xC3 := by
    have memory : board.memory = Memory.zero.load 0 [0xC3] := memory_invaders rfl (by decide)
    rw [memory]
    exact Memory.read_write_same _ 0x0000 0xC3
  have valid : Preset.spaceInvaders.validate = .ok () := rfl
  refine ⟨valid, (Reachable.new _).perform _, ?_, ?_, ?_, loaded, ?_⟩
  · exact restore_toJson rfl rfl
  · intro identifies
    exact absurd identifies.system (by decide)
  · rintro ⟨region, member, covers⟩
    cases List.mem_singleton.mp member
    obtain ⟨above, -⟩ := (Memory.inBlock_iff (by decide)).mp covers
    exact absurd above (by decide)
  · exact Memory.read_write_same board.memory 0x0000 0x76

end Board

end Cabinet
