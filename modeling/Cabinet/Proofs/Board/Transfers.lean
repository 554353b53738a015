import Cabinet.Preset
import Cabinet.Proofs.Board.Mounting
import Cabinet.Proofs.Board.Reachable
import Cabinet.Proofs.Config.Requirements
import Cabinet.Proofs.Config.Validity
import Cabinet.Proofs.Memory

/-!
# What a board may rely on

Images are copied to memory in blocks, regions are wiped in blocks and saved in
blocks. On a board whose description is accepted no block goes past the end of its
region, and none past the last address. Its frames last some time, and no vector is
due at multiples of zero.
-/

namespace Cabinet

/-- A block of `count` addresses is within an interval, without going past the last address. -/
def Memory.Within (first last start : UInt16) (count : Nat) : Prop :=
  ∀ index < count, (start + UInt16.ofNat index).toNat = start.toNat + index ∧
    first ≤ start + UInt16.ofNat index ∧ start + UInt16.ofNat index ≤ last

/-- A block of memory that is changed. -/
inductive BlockTransfer where
  | copy (start : UInt16) (bytes : List UInt8)
  | wipe (start : UInt16) (count : Nat)

namespace BlockTransfer

def start : BlockTransfer → UInt16
  | .copy start _ | .wipe start _ => start

/-- The number of addresses that are written to. -/
def count : BlockTransfer → Nat
  | .copy _ bytes => bytes.length
  | .wipe _ count => count

def run (memory : Memory) : BlockTransfer → Memory
  | .copy start bytes => memory.load start bytes
  | .wipe start count => memory.fill start count 0

def runAll (memory : Memory) (transfers : List BlockTransfer) : Memory :=
  transfers.foldl run memory

/-- Only addresses of one of the regions are written to, from its first one on. -/
def Stays (transfer : BlockTransfer) (regions : List RomRegion) : Prop :=
  ∃ region ∈ regions, transfer.start = region.start ∧
    Memory.Within region.start region.stop transfer.start transfer.count

end BlockTransfer

namespace RomRegion

/-- An image is copied as far as the region's size reaches. -/
def copy (region : RomRegion) (bytes : List UInt8) : BlockTransfer :=
  .copy region.start (bytes.take region.size)

def wiping (region : RomRegion) : BlockTransfer :=
  .wipe region.start region.size

end RomRegion

namespace Board

/-! ## The blocks of an operation -/

/-- Every file that belongs to a region is copied there. -/
def loadTransfers (board : Board) (files : List RomFile) : List BlockTransfer :=
  files.filterMap fun file =>
    (file.region? board.romRegions).map fun region => region.copy file.bytes

/-- A region is wiped before an image is copied there. -/
def mountTransfers (board : Board) (id : String) (bytes : List UInt8) : List BlockTransfer :=
  match board.region? id with
  | some region => [region.wiping, region.copy bytes]
  | none => []

def unmountTransfers (board : Board) (id : String) : List BlockTransfer :=
  match board.region? id with
  | some region => [region.wiping]
  | none => []

/-- What memory holds behind an operation, and that all of it was written within the regions. -/
structure Brought (board next : Board) (transfers : List BlockTransfer) : Prop where
  memory : next.memory = BlockTransfer.runAll board.memory transfers
  stays : ∀ transfer ∈ transfers, transfer.Stays board.romRegions

/--
What is true of every board whose description is accepted, whatever became of it. The
declared memory is saved region by region, and the index of a frame has a remainder by every
period.
-/
structure Dependable (board : Board) : Prop where
  loadRoms : ∀ files, board.Brought (board.loadRoms files) (board.loadTransfers files)
  mount : ∀ id bytes,
    board.Brought (board.perform (.mount id bytes)) (board.mountTransfers id bytes)
  unmount : ∀ id, board.Brought (board.perform (.unmount id)) (board.unmountTransfers id)
  saved : board.savedState.ram = board.config.memory.ram.map fun region =>
    ⟨region.start, board.memory.readRange region.start region.size⟩
  savedWithin : ∀ region ∈ board.config.memory.ram,
    Memory.Within region.start region.stop region.start region.size
  remainder : ∀ interrupt ∈ board.config.interrupts, interrupt.period.toUInt64 ≠ 0 ∧
    board.frameIndex % interrupt.period.toUInt64 < interrupt.period.toUInt64

/-! ## Blocks of a region -/

/-- The beginning of a region is within it. -/
theorem within_of_consistent {start stop : UInt16} {size count : Nat}
    (consistent : Config.RegionConsistent start stop size) (short : count ≤ size) :
    Memory.Within start stop start count := by
  obtain ⟨forward, -, fits⟩ := consistent
  rw [UInt16.le_iff_toNat_le] at forward
  have last := stop.toNat_lt
  intro index inside
  have address : (start + UInt16.ofNat index).toNat = start.toNat + index :=
    Memory.toNat_add_ofNat (by omega)
  rw [UInt16.le_iff_toNat_le, UInt16.le_iff_toNat_le, address]
  omega

variable {board : Board}

theorem stays_copy {region : RomRegion} (declared : region ∈ board.romRegions)
    (consistent : Config.RegionConsistent region.start region.stop region.size)
    (bytes : List UInt8) : (region.copy bytes).Stays board.romRegions :=
  ⟨region, declared, rfl, within_of_consistent consistent (List.length_take_le _ _)⟩

theorem stays_wiping {region : RomRegion} (declared : region ∈ board.romRegions)
    (consistent : Config.RegionConsistent region.start region.stop region.size) :
    region.wiping.Stays board.romRegions :=
  ⟨region, declared, rfl, within_of_consistent consistent (Nat.le_refl _)⟩

/-! ## Operations -/

theorem runAll_loadTransfers (board : Board) (memory : Memory) (files : List RomFile) :
    RomFile.placeAll board.romRegions memory files =
      BlockTransfer.runAll memory (board.loadTransfers files) := by
  induction files generalizing memory with
  | nil => rfl
  | cons file files ih =>
      rw [RomFile.placeAll, List.foldl_cons, loadTransfers]
      refine (ih (file.place board.romRegions memory)).trans ?_
      cases found : file.region? board.romRegions with
      | none =>
          rw [List.filterMap_cons_none (by rw [found]; rfl), RomFile.place, found]
          rfl
      | some region =>
          rw [List.filterMap_cons_some (by rw [found]; rfl), RomFile.place, found]
          rfl

section

variable (consistent : board.config.Consistent)
include consistent

theorem brought_loadRoms (files : List RomFile) :
    board.Brought (board.loadRoms files) (board.loadTransfers files) where
  memory := board.runAll_loadTransfers board.memory files
  stays := by
    intro transfer brought
    obtain ⟨file, -, loaded⟩ := List.mem_filterMap.mp brought
    obtain ⟨region, found, rfl⟩ := Option.map_eq_some_iff.mp loaded
    have declared := List.mem_of_find?_eq_some found
    exact stays_copy declared (consistent.rom region declared) file.bytes

theorem brought_mount (id : String) (bytes : List UInt8) :
    board.Brought (board.perform (.mount id bytes)) (board.mountTransfers id bytes) := by
  cases named : board.region? id with
  | none =>
      simp only [perform, mountTransfers, named, mount_of_none named]
      exact ⟨rfl, nofun⟩
  | some region =>
      have declared := List.mem_of_find?_eq_some named
      have sound := consistent.rom region declared
      simp only [perform, mountTransfers, named, mount_of_some named]
      refine ⟨rfl, ?_⟩
      rw [List.forall_mem_cons, List.forall_mem_singleton]
      exact ⟨stays_wiping declared sound, stays_copy declared sound bytes⟩

theorem brought_unmount (id : String) :
    board.Brought (board.perform (.unmount id)) (board.unmountTransfers id) := by
  cases named : board.region? id with
  | none =>
      simp only [perform, unmountTransfers, named, unmount_of_none named]
      exact ⟨rfl, nofun⟩
  | some region =>
      have declared := List.mem_of_find?_eq_some named
      simp only [perform, unmountTransfers, named, unmount_of_some named]
      refine ⟨rfl, ?_⟩
      rw [List.forall_mem_singleton]
      exact stays_wiping declared (consistent.rom region declared)

/-- A frame index has a remainder by a period that is not zero. -/
theorem remainder_of_consistent {interrupt : Interrupt}
    (scheduled : interrupt ∈ board.config.interrupts) (index : UInt64) :
    interrupt.period.toUInt64 ≠ 0 ∧
      index % interrupt.period.toUInt64 < interrupt.period.toUInt64 := by
  have some : 0 < interrupt.period.toNat :=
    UInt32.lt_iff_toNat_lt.mp
      (UInt32.pos_iff_ne_zero.mpr (consistent.period interrupt scheduled))
  constructor
  · rw [ne_eq, ← UInt64.toNat_inj, UInt32.toNat_toUInt64]
    exact Nat.ne_of_gt some
  · rw [UInt64.lt_iff_toNat_lt, UInt64.toNat_mod, UInt32.toNat_toUInt64]
    exact Nat.mod_lt _ some

theorem dependable : board.Dependable where
  loadRoms := brought_loadRoms consistent
  mount := brought_mount consistent
  unmount := brought_unmount consistent
  saved := rfl
  savedWithin region declared :=
    within_of_consistent (consistent.ram region declared) (Nat.le_refl _)
  remainder _ scheduled := remainder_of_consistent consistent scheduled board.frameIndex

end

/-! ## Validation -/

/--
Validation accepts the consistent descriptions and reports the first requirement that
is not met by any other. A board can depend on a description that is accepted.
-/
theorem validation_exact (config : Config) :
    (config.validate = .ok () ↔ config.Consistent) ∧
      (∀ error, config.validate = .error error ↔ ∃ requirement,
        Requirement.FirstUnmet config.requirements requirement ∧ requirement.error = error) ∧
      (config.validate = .ok () → 1 ≤ config.cyclesPerFrame ∧
        ∀ board : Board, board.config = config → board.Dependable) := by
  have decided := Config.decided_validate config
  have accepted : config.validate = .ok () ↔ config.Consistent :=
    decided.ok_iff.trans Config.consistent_iff.symm
  refine ⟨accepted, decided.error_iff, fun valid => ⟨Config.cyclesPerFrame_pos valid, ?_⟩⟩
  rintro board rfl
  exact dependable (accepted.mp valid)

/-- Regions of one byte and of all addresses, and a clock as slow as the frame rate. -/
def tight : Config where
  name := "Tight"
  memory := {
    rom := [⟨0xFFFF, 0xFFFF, 1, " x"⟩]
    ram := [⟨0x0000, 0xFFFF, 65536⟩]
    video := some { start := 0x2400, stop := some 0x2400 } }
  interrupts := [⟨200, 1⟩]
  timing := ⟨60, 60⟩

/-- A blank token, and behind it a region that ends before it starts. -/
def faulty : Config where
  name := "Faulty"
  memory := { rom := [⟨0x0000, 0x07FF, 2048, " "⟩], ram := [⟨1, 0, 1⟩] }

theorem validation_exact_tight :
    tight.Consistent ∧ (new ⟨tight, {}⟩).Dependable ∧ ∃ requirement,
      Requirement.FirstUnmet faulty.requirements requirement ∧
        requirement.error = .invalidRegion .rom 0x0000 0x07FF .emptyToken := by
  have valid : tight.validate = .ok () := rfl
  have refused : faulty.validate = .error (.invalidRegion .rom 0x0000 0x07FF .emptyToken) := rfl
  obtain ⟨accepted, -, depend⟩ := validation_exact tight
  have first := ((validation_exact faulty).2.1 _).mp refused
  exact ⟨accepted.mp valid, (depend valid).2 _ rfl, first⟩

end Board

end Cabinet
