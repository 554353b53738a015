import Cabinet.Proofs.Board.MountPoints

/-!
# Images that replace one another

An image that is mounted takes the whole region: what it does not fill becomes zero. So
nothing remains of what was there before, and nothing outside the region changes. Of
several images of one region the last one counts, nothing is left of an image that is
taken away, and images of regions without a common address do not disturb one another.
-/

namespace Cabinet

namespace RomRegion

/-- The token of a region is an identifier, the case of letters aside. -/
def HasToken (id : String) (region : RomRegion) : Prop :=
  Text.lower region.fileMatch = Text.lower id

variable {region : RomRegion}

theorem readRange_wipe (fits : region.size ≤ 65536) (memory : Memory) :
    (region.wipe memory).readRange region.start region.size = List.replicate region.size 0 := by
  have zeros : (List.replicate region.size (0 : UInt8)).length = region.size :=
    List.length_replicate
  have copied := memory.readRange_load region.start (zeros.trans_le fits)
  rwa [zeros, ← Memory.fill_eq_load] at copied

end RomRegion

namespace Board

/-- The bytes of a region are new; but for the list of mounted images nothing else is. -/
structure Refilled (board : Board) (region : RomRegion) (content : List UInt8) (next : Board) :
    Prop where
  bytes : next.memory.readRange region.start region.size = content
  outside : ∀ address, ¬ region.Covers address →
    next.memory.read address = board.memory.read address
  cpu : next.machine.cpu = board.machine.cpu
  devices : next.devices = board.devices
  ports : next.machine.bus.ports = board.machine.bus.ports
  game : next.game = board.game
  input : next.input = board.input
  frameIndex : next.frameIndex = board.frameIndex
  cyclesPerFrame : next.cyclesPerFrame = board.cyclesPerFrame
  lastFrameCycles : next.lastFrameCycles = board.lastFrameCycles

/--
What mounting and unmounting do, whatever the regions hold before. Of two images in one
region only the second one counts, and nothing remains of an image that is taken away.
Images of regions that do not overlap may be mounted in either order. An identifier that
names no region is found out before anything changes: such an operation has an error for its
result and no board.
-/
structure Remounts (board : Board) : Prop where
  inside : ∀ region ∈ board.romRegions, region.start.toNat + region.size ≤ 65536
  unnamed : ∀ id, (∀ region ∈ board.romRegions, ¬ region.HasToken id) → ∀ bytes,
    board.mount id bytes = .error (.invalidMountPoint id) ∧
      board.perform (.mount id bytes) = board ∧
        board.unmount id = .error (.invalidMountPoint id) ∧ board.perform (.unmount id) = board
  mounted : ∀ id region, First (RomRegion.HasToken id) board.romRegions region → ∀ bytes,
    ∃ next, board.mount id bytes = .ok next ∧ board.Refilled region (region.image bytes) next
  unmounted : ∀ id region, First (RomRegion.HasToken id) board.romRegions region →
    ∃ next, board.unmount id = .ok next ∧
      board.Refilled region (List.replicate region.size 0) next
  again : ∀ id first second,
    (board.mount id first >>= fun next => next.mount id second) = board.mount id second
  away : ∀ id bytes, (board.mount id bytes >>= fun next => next.unmount id) = board.unmount id
  apart : ∀ id name region other, First (RomRegion.HasToken id) board.romRegions region →
    First (RomRegion.HasToken name) board.romRegions other →
      (∀ address, region.Covers address → ¬ other.Covers address) → ∀ bytes others,
        (board.mount id bytes >>= fun next => next.mount name others) =
          (board.mount name others >>= fun next => next.mount id bytes)

variable {board : Board} {id : String} {region other : RomRegion}

theorem region?_eq_some_iff :
    board.region? id = some region ↔ First (RomRegion.HasToken id) board.romRegions region :=
  find?_eq_some_iff_first fun _ => RomRegion.isNamed_iff

theorem region?_eq_none_iff :
    board.region? id = none ↔ ∀ region ∈ board.romRegions, ¬ region.HasToken id :=
  find?_eq_none_iff_forall fun _ => RomRegion.isNamed_iff

/-- A change of the addresses of a region, and any list of mounted images. -/
theorem refilled_withImages {change : Memory → Memory} {content : List UInt8}
    (overwrites : Memory.Overwrites region.Covers change)
    (bytes : (change board.memory).readRange region.start region.size = content)
    (mounted : List String) :
    board.Refilled region content (board.withImages (change board.memory) mounted) where
  bytes := bytes
  outside := overwrites.outside board.memory
  cpu := rfl
  devices := rfl
  ports := rfl
  game := rfl
  input := rfl
  frameIndex := rfl
  cyclesPerFrame := rfl
  lastFrameCycles := rfl

theorem refilled_filled (fits : region.size ≤ 65536) (bytes : List UInt8) :
    board.Refilled region (region.image bytes) (board.filled region bytes) :=
  refilled_withImages (region.overwrites_place bytes)
    (RomRegion.holds_place fits board.memory bytes) _

theorem refilled_emptied (fits : region.size ≤ 65536) :
    board.Refilled region (List.replicate region.size 0) (board.emptied region) :=
  refilled_withImages region.overwrites_wipe (RomRegion.readRange_wipe fits board.memory) _

/-! ## One after the other -/

theorem filled_filled (board : Board) (region : RomRegion) (first second : List UInt8) :
    (board.filled region first).filled region second = board.filled region second :=
  congrArg₂ board.withImages
    ((region.overwrites_place second).absorbs (region.overwrites_place first) board.memory)
    (insertToken_insertToken region.fileMatch board.mounted)

theorem emptied_filled (board : Board) (region : RomRegion) (bytes : List UInt8) :
    (board.filled region bytes).emptied region = board.emptied region :=
  congrArg₂ board.withImages
    (region.overwrites_wipe.absorbs (region.overwrites_place bytes) board.memory)
    (filter_insertToken region.fileMatch board.mounted)

theorem filled_comm (apart : ∀ address, region.Covers address → ¬ other.Covers address)
    (board : Board) (bytes others : List UInt8) :
    (board.filled region bytes).filled other others =
      (board.filled other others).filled region bytes :=
  congrArg₂ board.withImages
    ((region.overwrites_place bytes).comm (other.overwrites_place others) apart board.memory).symm
    (insertToken_comm other.fileMatch region.fileMatch board.mounted)

/-- Other images leave the regions and their identifiers as they are. -/
theorem region?_filled (board : Board) (region : RomRegion) (bytes : List UInt8) (id : String) :
    (board.filled region bytes).region? id = board.region? id := rfl

theorem mount_mount (named : board.region? id = some region) {name : String}
    (renamed : board.region? name = some other) (bytes others : List UInt8) :
    (board.mount id bytes >>= fun next => next.mount name others) =
      .ok ((board.filled region bytes).filled other others) := by
  rw [mount_of_some named, Outcome.ok_bind]
  exact mount_of_some ((board.region?_filled region bytes name).trans renamed) others

theorem unmount_mount (named : board.region? id = some region) (bytes : List UInt8) :
    (board.mount id bytes >>= fun next => next.unmount id) =
      .ok ((board.filled region bytes).emptied region) := by
  rw [mount_of_some named, Outcome.ok_bind]
  exact unmount_of_some ((board.region?_filled region bytes id).trans named)

/-! ## All boards -/

/-- What mounting and unmounting do to a board with an accepted description. -/
theorem mounting_replaces (valid : board.config.validate = .ok ()) : board.Remounts := by
  have ends (region : RomRegion) (declared : region ∈ board.romRegions) :
      region.start.toNat + region.size ≤ 65536 :=
    (Config.fits_of_rom valid declared).2
  have short {id : String} {region : RomRegion}
      (first : First (RomRegion.HasToken id) board.romRegions region) : region.size ≤ 65536 :=
    Nat.le_of_add_left_le (ends region first.mem)
  constructor
  case inside => exact ends
  case unnamed =>
    intro id nowhere bytes
    have unnamed := region?_eq_none_iff.mpr nowhere
    rw [perform, perform, mount_of_none unnamed, unmount_of_none unnamed]
    exact ⟨rfl, rfl, rfl, rfl⟩
  case mounted =>
    intro id region first bytes
    exact ⟨_, mount_of_some (region?_eq_some_iff.mpr first) bytes,
      refilled_filled (short first) bytes⟩
  case unmounted =>
    intro id region first
    exact ⟨_, unmount_of_some (region?_eq_some_iff.mpr first), refilled_emptied (short first)⟩
  case again =>
    intro id first second
    cases named : board.region? id with
    | none => rw [mount_of_none named, mount_of_none named, Outcome.error_bind]
    | some region => rw [mount_mount named named, mount_of_some named, filled_filled]
  case away =>
    intro id bytes
    cases named : board.region? id with
    | none => rw [mount_of_none named, unmount_of_none named, Outcome.error_bind]
    | some region => rw [unmount_mount named, unmount_of_some named, emptied_filled]
  case apart =>
    intro id name region other first otherFirst apart bytes others
    have named := region?_eq_some_iff.mpr first
    have renamed := region?_eq_some_iff.mpr otherFirst
    rw [mount_mount named renamed, mount_mount renamed named, filled_comm apart]

/-- A short image that replaces a longer one. -/
theorem mounting_replaces_spaceInvaders :
    let board := new ⟨Preset.spaceInvaders, {}⟩
    board.config.validate = .ok () ∧
      (board.mount "INVADERS.H" [0xC3, 0x01] >>= fun next => next.mount "INVADERS.H" [0x76]) =
        board.mount "INVADERS.H" [0x76] ∧
      ∃ next, board.mount "INVADERS.H" [0x76] = .ok next ∧ next.memory.read 0x0001 = 0x00 := by
  intro board
  have valid : Preset.spaceInvaders.validate = .ok () := rfl
  have replaces := @mounting_replaces board valid
  have named : board.region? "INVADERS.H" = some (Preset.romAt 0x0000 2048 "invaders.h") := rfl
  obtain ⟨next, mounted, refilled⟩ := replaces.mounted _ _ (region?_eq_some_iff.mp named) [0x76]
  refine ⟨valid, replaces.again _ _ _, next, mounted, ?_⟩
  have held : RomRegion.Holds (Preset.romAt 0x0000 2048 "invaders.h") next.memory [0x76] :=
    refilled.bytes
  have inside : 1 < 2048 := by decide
  exact (Option.some.inj (held.read inside)).symm

end Board

end Cabinet
