import Cabinet.Preset
import Cabinet.Proofs.Board.Mounting
import Cabinet.Proofs.Board.Reachable
import Cabinet.Proofs.Config.Validity
import Cabinet.Proofs.Memory

/-!
# What is mounted under the identifier of a mount point

Every region is a mount point, and its identifier always names a region: the first
one with the same token, the case of letters aside. An image that is mounted comes to
that one. So the mount points are what they are shown as if regions whose tokens
differ in case at most are at the same place, and only then; nothing keeps a
description from declaring others.
-/

namespace Cabinet

namespace RomRegion

/-- The addresses of a region. -/
def Covers (region : RomRegion) (address : UInt16) : Prop :=
  Memory.InBlock region.start region.size address

/-- What a region takes of an image, and zeros behind it. -/
def image (region : RomRegion) (bytes : List UInt8) : List UInt8 :=
  bytes.take region.size ++ List.replicate (region.size - bytes.length) 0

/-- An image is in a region. -/
def Holds (region : RomRegion) (memory : Memory) (bytes : List UInt8) : Prop :=
  memory.readRange region.start region.size = region.image bytes

/-- Two regions have the same addresses. -/
def SamePlace (region other : RomRegion) : Prop :=
  region.start = other.start ∧ region.size = other.size

/-- The tokens of two regions differ in the case of letters at most. -/
def SameToken (region other : RomRegion) : Prop :=
  region.isNamed other.fileMatch = true

variable {region other : RomRegion} {memory : Memory} {bytes : List UInt8} {address : UInt16}

theorem length_image (region : RomRegion) (bytes : List UInt8) :
    (region.image bytes).length = region.size := by
  rw [image, List.length_append, List.length_take, List.length_replicate]
  omega

/-- The bytes at the addresses are those of the image. -/
theorem Holds.read (held : region.Holds memory bytes) {index : Nat} (inside : index < region.size) :
    (region.image bytes)[index]? = some (memory.read (region.start + UInt16.ofNat index)) := by
  rw [← held, Memory.getElem?_readRange _ _ inside]

/-- An image of one byte repeated is read at every address. -/
theorem Holds.read_replicate {value : UInt8}
    (held : region.Holds memory (List.replicate region.size value))
    (covered : region.Covers address) : memory.read address = value := by
  obtain ⟨index, inside, rfl⟩ := covered
  have byte := held.read inside
  simp [image, inside] at byte
  exact byte.symm

/-- Copying an image to a region that was wiped puts it there, with zeros behind it. -/
theorem holds_place (fits : region.size ≤ 65536) (memory : Memory) (bytes : List UInt8) :
    region.Holds (region.place (region.wipe memory) bytes) bytes := by
  have room : (bytes.take region.size).length ≤ region.size := List.length_take_le _ _
  apply List.ext_getElem
  · rw [length_image]
    exact Memory.length_readRange _ _ _
  · intro index inside _
    rw [Memory.length_readRange] at inside
    simp only [Memory.readRange_eq, List.getElem_map, List.getElem_range, image,
      List.getElem_append]
    split
    · rename_i copied
      exact Memory.read_load_getElem _ _ (Nat.le_trans room fits) copied
    · rename_i behind
      have past : ¬ Memory.InBlock region.start (bytes.take region.size).length
          (region.start + UInt16.ofNat index) :=
        Memory.not_inBlock_of_le (Nat.le_of_not_lt behind) (Nat.lt_of_lt_of_le inside fits)
      rw [place, Memory.read_load_outside _ past, List.getElem_replicate]
      exact Memory.read_fill_inside memory region.start 0 fits inside

theorem overwrites_wipe (region : RomRegion) : Memory.Overwrites region.Covers region.wipe :=
  Memory.overwrites_fill region.start region.size 0

/-- A region that is wiped before an image is copied there is overwritten as a whole. -/
theorem overwrites_place (region : RomRegion) (bytes : List UInt8) :
    Memory.Overwrites region.Covers fun memory => region.place (region.wipe memory) bytes := by
  refine region.overwrites_wipe.andThen (Memory.overwrites_load region.start _) ?_
  rintro address ⟨index, inside, rfl⟩
  exact ⟨index, Nat.lt_of_lt_of_le inside (List.length_take_le _ _), rfl⟩

/-- Two regions with the same addresses begin and end at the same ones. -/
theorem samePlace_of_covers (fits : Config.Fits region.start region.size)
    (otherFits : Config.Fits other.start other.size)
    (same : ∀ address, region.Covers address ↔ other.Covers address) : region.SamePlace other := by
  obtain ⟨holds, ends⟩ := fits
  obtain ⟨otherHolds, otherEnds⟩ := otherFits
  have within (address : Nat) (bound : address < 65536) :
      (region.start.toNat ≤ address ∧ address < region.start.toNat + region.size) ↔
        (other.start.toNat ≤ address ∧ address < other.start.toNat + other.size) := by
    have covers := same (UInt16.ofNat address)
    rw [Covers, Covers, Memory.inBlock_iff ends, Memory.inBlock_iff otherEnds,
      UInt16.toNat_ofNat', Nat.mod_eq_of_lt bound] at covers
    exact covers
  have starts : region.start.toNat = other.start.toNat := by
    have first := within region.start.toNat region.start.toNat_lt
    have otherFirst := within other.start.toNat other.start.toNat_lt
    omega
  have last := within (region.start.toNat + region.size - 1) (by omega)
  have otherLast := within (other.start.toNat + other.size - 1) (by omega)
  exact ⟨UInt16.toNat_inj.mp starts, by omega⟩

end RomRegion

namespace Board

/-- Under the identifier every image comes to the region, and bytes of other regions only stay. -/
def Serves (board : Board) (id : String) (region : RomRegion) : Prop :=
  ∀ bytes, ∃ next, board.mount id bytes = .ok next ∧ region.Holds next.memory bytes ∧
    ∀ other ∈ board.romRegions, ∀ address, other.Covers address → ¬ region.Covers address →
      next.memory.read address = board.memory.read address

variable {board : Board} {id : String} {region declared : RomRegion}

/-- Mounting puts the image into the region that the identifier names and changes nothing else. -/
theorem mount_places (valid : board.config.validate = .ok ())
    (named : board.region? id = some region) (bytes : List UInt8) :
    ∃ next, board.mount id bytes = .ok next ∧ region.Holds next.memory bytes ∧
      ∀ address, ¬ region.Covers address →
        next.memory.read address = board.memory.read address := by
  obtain ⟨-, ends⟩ := Config.fits_of_rom valid (List.mem_of_find?_eq_some named)
  refine ⟨board.filled region bytes, mount_of_some named bytes, ?_, ?_⟩
  · exact RomRegion.holds_place (Nat.le_of_add_left_le ends) board.memory bytes
  · exact (region.overwrites_place bytes).outside board.memory

theorem serves_of_samePlace (valid : board.config.validate = .ok ())
    (named : board.region? id = some region) (same : region.SamePlace declared) :
    board.Serves id declared := by
  obtain ⟨start, size⟩ := same
  intro bytes
  obtain ⟨next, mounted, held, stays⟩ := mount_places valid named bytes
  refine ⟨next, mounted, ?_, ?_⟩
  · rw [RomRegion.Holds, RomRegion.image, ← start, ← size]
    exact held
  · intro other _ address _ outside
    refine stays address ?_
    rw [RomRegion.Covers, start, size]
    exact outside

/-- If images come to a region, then the one that is named has all of its addresses. -/
theorem Serves.covers (serves : board.Serves id declared) (valid : board.config.validate = .ok ())
    (named : board.region? id = some region) {address : UInt16}
    (covered : declared.Covers address) : region.Covers address := by
  refine Classical.byContradiction fun outside => ?_
  let value := board.memory.read address + 1
  obtain ⟨next, mounted, held, -⟩ := serves (List.replicate declared.size value)
  obtain ⟨other, otherMounted, -, stays⟩ :=
    mount_places valid named (List.replicate declared.size value)
  cases mounted.symm.trans otherMounted
  have kept : board.memory.read address = board.memory.read address + 1 :=
    (stays address outside).symm.trans (held.read_replicate covered)
  simp at kept

/-- If images come to a region, then it has all addresses of the one that is named. -/
theorem Serves.covered (serves : board.Serves id declared)
    (valid : board.config.validate = .ok ()) (named : board.region? id = some region)
    {address : UInt16} (covered : region.Covers address) : declared.Covers address := by
  refine Classical.byContradiction fun outside => ?_
  let value := board.memory.read address + 1
  obtain ⟨next, mounted, -, stays⟩ := serves (List.replicate region.size value)
  obtain ⟨other, otherMounted, held, -⟩ :=
    mount_places valid named (List.replicate region.size value)
  cases mounted.symm.trans otherMounted
  have kept : board.memory.read address = board.memory.read address + 1 :=
    (stays region (List.mem_of_find?_eq_some named) address covered outside).symm.trans
      (held.read_replicate covered)
  simp at kept

theorem serves_iff (valid : board.config.validate = .ok ())
    (named : board.region? id = some region) (member : declared ∈ board.romRegions) :
    board.Serves id declared ↔ region.SamePlace declared := by
  constructor
  · intro serves
    have first := List.mem_of_find?_eq_some named
    refine RomRegion.samePlace_of_covers (Config.fits_of_rom valid first)
      (Config.fits_of_rom valid member) fun address => ⟨?_, ?_⟩
    · exact serves.covered valid named
    · exact serves.covers valid named
  · exact serves_of_samePlace valid named

/-- The token of a region names the first region with it, if not the region itself. -/
theorem region?_token (member : region ∈ board.romRegions) :
    ∃ first, board.region? region.fileMatch = some first ∧ first ∈ board.romRegions ∧
      first.SameToken region := by
  cases named : board.region? region.fileMatch with
  | none =>
      have unnamed := List.find?_eq_none.mp named region member
      exact absurd region.isNamed_token unnamed
  | some first =>
      have isNamed := List.find?_some named
      exact ⟨first, rfl, List.mem_of_find?_eq_some named, isNamed⟩

/--
A mount point always takes an image, which comes to the first region that its
identifier names and nowhere else. This is the region that the mount point stands for,
for all of them, exactly if no two regions at different places have tokens that differ
in case at most.
-/
theorem mount_points_usable (valid : board.config.validate = .ok ()) :
    (∀ (index : Nat) (point : MountPoint), board.mountPoints[index]? = some point →
      ∃ region, board.region? point.id = some region ∧ ∀ bytes,
        ∃ next, board.mount point.id bytes = .ok next ∧ region.Holds next.memory bytes ∧
          ∀ address, ¬ region.Covers address →
            next.memory.read address = board.memory.read address) ∧
    ((∀ (index : Nat) (region : RomRegion) (point : MountPoint),
        board.romRegions[index]? = some region → board.mountPoints[index]? = some point →
        board.Serves point.id region) ↔
      ∀ region ∈ board.romRegions, ∀ other ∈ board.romRegions,
        region.SameToken other → region.SamePlace other) := by
  have shown (index : Nat) :
      board.mountPoints[index]? = board.romRegions[index]?.map RomRegion.mountPoint :=
    List.getElem?_map
  refine ⟨?_, ?_, ?_⟩
  · intro index point listed
    rw [shown, Option.map_eq_some_iff] at listed
    obtain ⟨region, declared, rfl⟩ := listed
    obtain ⟨first, named, -⟩ := region?_token (List.mem_of_getElem? declared)
    exact ⟨first, named, mount_places valid named⟩
  · intro serve region member other otherMember token
    obtain ⟨first, named, -, same⟩ := region?_token member
    have renamed : first.isNamed other.fileMatch = true :=
      (region.isNamed_congr region.isNamed_token token first).trans same
    have place : ∀ {declared}, declared ∈ board.romRegions →
        board.region? declared.fileMatch = some first → first.SamePlace declared := by
      intro declared member named
      obtain ⟨index, at_⟩ := List.mem_iff_getElem?.mp member
      refine (serves_iff valid named member).mp (serve index declared declared.mountPoint at_ ?_)
      rw [shown, at_]
      rfl
    obtain ⟨start, size⟩ := place member named
    obtain ⟨otherStart, otherSize⟩ := place otherMember (region?_eq_of_isNamed named renamed)
    exact ⟨start.symm.trans otherStart, size.symm.trans otherSize⟩
  · intro apart index region point declared listed
    rw [shown, declared] at listed
    cases listed
    have member := List.mem_of_getElem? declared
    obtain ⟨first, named, firstMember, token⟩ := region?_token member
    exact serves_of_samePlace valid named (apart first firstMember region member token)

/-- The mount points of a board whose regions have tokens of their own. -/
theorem mount_points_usable_spaceInvaders :
    let board := new ⟨Preset.spaceInvaders, {}⟩
    board.config.validate = .ok () ∧
      ∀ (index : Nat) (region : RomRegion) (point : MountPoint),
        board.romRegions[index]? = some region → board.mountPoints[index]? = some point →
        board.Serves point.id region := by
  intro board
  have valid : Preset.spaceInvaders.validate = .ok () := rfl
  refine ⟨valid, (@mount_points_usable board valid).2.mpr ?_⟩
  unfold RomRegion.SameToken RomRegion.SamePlace
  decide

/-- A description with two regions whose tokens differ in case only. -/
def sharedToken : Config :=
  { Preset.spaceInvaders with
    memory := { rom := [⟨0x00, 0x03, 4, "rom.a"⟩, ⟨0x10, 0x13, 4, "ROM.A"⟩] } }

/-- The second of the two is a mount point, but what is mounted there comes to the first. -/
theorem mount_points_clash :
    let board := new ⟨sharedToken, {}⟩
    board.config.validate = .ok () ∧ Reachable board ∧
      board.mountPoints[1]? = some ⟨"ROM.A", "ROM 0x0010-0x0013", [], true⟩ ∧
      ∃ next, board.mount "ROM.A" [0xAA] = .ok next ∧
        next.memory.read 0x00 = 0xAA ∧ next.memory.read 0x10 = 0x00 := by
  intro board
  have valid : sharedToken.validate = .ok () := rfl
  have named : board.region? "ROM.A" = some ⟨0x00, 0x03, 4, "rom.a"⟩ := rfl
  obtain ⟨next, mounted, held, stays⟩ := @mount_places board _ _ valid named [0xAA]
  refine ⟨valid, .new _, rfl, next, mounted, ?_, ?_⟩
  · have first : (0 : Nat) < 4 := by decide
    exact (Option.some.inj (held.read first)).symm
  · have outside : ¬ RomRegion.Covers ⟨0x00, 0x03, 4, "rom.a"⟩ 0x10 := by
      rw [RomRegion.Covers, Memory.inBlock_iff (by decide)]
      decide
    rw [stays 0x10 outside, memory_new]
    exact Memory.read_zero 0x10

end Board

end Cabinet
