import Cabinet.Proofs.Board.Resume

/-!
# Taking a state back

A value is looked at in a fixed order: whether it is a state at all, its version, its
game. The first thing that is wrong is reported, and then nothing has happened to the
board. Otherwise the board has the processor, the devices and the frame count of the
state and the bytes of its images. All the rest stays, so a state that a board of the
same description has saved is saved again.
-/

namespace Cabinet

namespace Board

/--
What a state changes on a board that takes it back. The flag byte keeps the five flags only,
and the latched controls stay. Of the bytes that the images bring to an address, in their
order, the last one counts.
-/
structure Restored (board : Board) (state : SavedState) (next : Board) : Prop where
  cpu : next.machine.cpu = { state.cpu with flags := state.cpu.flags &&& Cpu.flagBits }
  devices : next.devices = { state.devices with input := board.devices.input }
  frameIndex : next.frameIndex = state.frameIndex
  memory : ∀ address, next.memory.read address =
    ((state.ram.flatMap RamImage.writes).reverse.lookup address).getD (board.memory.read address)
  ports : next.machine.bus.ports = board.machine.bus.ports
  game : next.game = board.game
  mounted : next.mounted = board.mounted
  input : next.input = board.input
  cyclesPerFrame : next.cyclesPerFrame = board.cyclesPerFrame
  lastFrameCycles : next.lastFrameCycles = board.lastFrameCycles

/--
What becomes of a value that a board is to take back. The checks come before the first
change, and so a value that is refused has an error for its result and no board: the old
board stays. The other form of the operation differs in the errors that it reports only.
What a board of the same description has saved is saved again.
-/
structure TakesBack (board : Board) (value : Json) : Prop where
  unread : ∀ problem, Json.readValue SavedState.reader value = .error problem →
    board.restore value = .error (.config problem)
  version : ∀ state, Json.readValue SavedState.reader value = .ok state → state.version ≠ 1 →
    board.restore value = .error (.unsupportedStateVersion state.version)
  game : ∀ state, Json.readValue SavedState.reader value = .ok state → state.version = 1 →
    state.game ≠ board.config.name →
      board.restore value = .error (.stateMismatch board.config.name state.game)
  taken : ∀ state, Json.readValue SavedState.reader value = .ok state → state.version = 1 →
    state.game = board.config.name →
      ∃ next, board.restore value = .ok next ∧ board.Restored state next
  refused : ∀ failure, board.restore value = .error failure → board.perform (.restore value) = board
  load : ∀ next, board.load value = .ok next ↔ board.restore value = .ok next
  again : ∀ source, Reachable source → source.config = board.config → value = source.save →
    ∃ next, board.restore value = .ok next ∧ next.save = value

variable {board : Board} {value : Json} {state : SavedState}

/-! ## Refused values -/

theorem restore_of_unread {problem : Json.Problem}
    (unread : Json.readValue SavedState.reader value = .error problem) :
    board.restore value = .error (.config problem) := by
  rw [restore, unread]
  rfl

theorem restore_of_unchecked {failure : BoardError}
    (read : Json.readValue SavedState.reader value = .ok state)
    (unchecked : board.checkState state = .error failure) :
    board.restore value = .error failure := by
  rw [restore, read, Outcome.ok_mapError, Outcome.ok_bind, unchecked, Outcome.error_bind]

theorem checkState_of_version (other : state.version ≠ 1) :
    board.checkState state = .error (.unsupportedStateVersion state.version) :=
  if_pos other

theorem checkState_of_game (version : state.version = 1) (other : state.game ≠ board.config.name) :
    board.checkState state = .error (.stateMismatch board.config.name state.game) := by
  have current : ¬ state.version ≠ SavedState.currentVersion := not_not_intro version
  rw [checkState, if_neg current, if_pos other]

/-! ## Accepted values -/

theorem restored_withState (board : Board) (state : SavedState) :
    board.Restored state (board.withState state) where
  cpu := rfl
  devices := rfl
  frameIndex := rfl
  memory := by
    intro address
    have stored := RamImage.place_images_eq_store board.memory state.ram
    rw [← Memory.read_store, ← stored]
    rfl
  ports := rfl
  game := rfl
  mounted := rfl
  input := rfl
  cyclesPerFrame := rfl
  lastFrameCycles := rfl

/-- A declared region of a board that took a saved state back is saved as it was saved before. -/
theorem ramImage_withState (board source : Board) {region : RamRegion}
    (declared : region ∈ source.config.memory.ram) :
    (board.withState source.savedState).ramImage region = source.ramImage region := by
  apply congrArg (RamImage.mk region.start)
  apply Memory.readRange_congr
  intro address inside
  exact board.read_withState_declared source ⟨region, declared, inside⟩

/-- The latched controls are not saved and the flag byte has no bits that could get lost. -/
theorem save_withState {source : Board} (reachable : Reachable source)
    (same : source.config = board.config) :
    (board.withState source.savedState).save = source.save := by
  have images : board.config.memory.ram.map (board.withState source.savedState).ramImage =
      source.config.memory.ram.map source.ramImage := by
    rw [← same]
    apply List.map_congr_left
    intro region declared
    exact board.ramImage_withState source declared
  have cpu : source.machine.cpu.restored = source.machine.cpu :=
    Cpu.restored_of_clear reachable.wellFormed.clear
  have saved : (board.withState source.savedState).savedState =
      { source.savedState with
        devices := { source.devices with input := board.devices.input } } := by
    change SavedState.mk _ _ board.config.name _ source.machine.cpu.restored _
      (board.config.memory.ram.map (board.withState source.savedState).ramImage) = _
    rw [images, cpu, ← same]
    rfl
  rw [save, saved]
  rfl

/-! ## Every value -/

/-- Exactly what becomes of a value that a board is to take back, whatever the value. -/
theorem restore_decides (board : Board) (value : Json) : board.TakesBack value where
  unread := by
    intro problem unread
    exact restore_of_unread unread
  version := by
    intro state read other
    exact restore_of_unchecked read (checkState_of_version other)
  game := by
    intro state read version other
    exact restore_of_unchecked read (checkState_of_game version other)
  taken := by
    intro state read version game
    exact ⟨_, restore_eq_ok_iff.mpr ⟨state, read, ⟨version, game⟩, rfl⟩,
      board.restored_withState state⟩
  refused := by
    intro failure failed
    rw [perform, failed]
    rfl
  load := by
    intro next
    exact Outcome.mapError_eq_ok_iff
  again := by
    rintro source reachable same rfl
    have name : source.config.name = board.config.name := congrArg Config.name same
    exact ⟨_, restore_toJson rfl name, save_withState reachable same⟩

end Board

end Cabinet
