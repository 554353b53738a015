import Mathlib.Data.List.Pairwise
import Cabinet.Preset
import Cabinet.Proofs.Board.Mounting
import Cabinet.Proofs.Board.Reachable
import Cabinet.Proofs.Config.Validity
import Cabinet.Proofs.Memory

/-!
# Sets of files

Every file of a set is copied to the first region whose token occurs in its name, or
it is skipped. Files may come to the same addresses, because several of them belong to
one region or because regions overlap. Then the last one that reaches an address has
its byte there in the end. If no two files reach the same address, their order does not
matter.
-/

namespace Cabinet

/-- What is reported of a file that came to a region. -/
structure LoadedRom.Records (rom : LoadedRom) (file : RomFile) (region : RomRegion) : Prop where
  name : rom.file = file.name
  token : rom.token = region.fileMatch
  start : rom.start = region.start
  loaded : rom.loaded = min file.bytes.length region.size
  ignored : rom.loaded + rom.ignored = file.bytes.length

namespace RomFile

/-- A file is loaded to the first region that its name mentions, or it is skipped. -/
inductive Sorted (regions : List RomRegion) : List RomFile → List LoadedRom → List String → Prop
  | none : Sorted regions [] [] []
  | loaded {file : RomFile} {region : RomRegion} {rom : LoadedRom} {files : List RomFile}
      {loaded : List LoadedRom} {skipped : List String}
      (belongs : First file.Mentions regions region) (records : rom.Records file region)
      (rest : Sorted regions files loaded skipped) :
      Sorted regions (file :: files) (rom :: loaded) skipped
  | skipped {file : RomFile} {files : List RomFile} {loaded : List LoadedRom}
      {skipped : List String} (nowhere : ∀ region ∈ regions, ¬ file.Mentions region)
      (rest : Sorted regions files loaded skipped) :
      Sorted regions (file :: files) loaded (file.name :: skipped)

/-- In its region a file has a byte for an address. -/
def Brings (file : RomFile) (regions : List RomRegion) (address : UInt16) (value : UInt8) : Prop :=
  ∃ region, First file.Mentions regions region ∧
    ∃ index < min file.bytes.length region.size,
      region.start.toNat + index = address.toNat ∧ file.bytes[index]? = some value

/-- An address is among those that a file is copied to. -/
def Reaches (file : RomFile) (regions : List RomRegion) (address : UInt16) : Prop :=
  ∃ value, file.Brings regions address value

/-- Two files are copied to different addresses. -/
def Apart (regions : List RomRegion) (file other : RomFile) : Prop :=
  ∀ address, file.Reaches regions address → ¬ other.Reaches regions address

/-- It does not matter which of two files is copied first. -/
def Swap (regions : List RomRegion) (file other : RomFile) : Prop :=
  ∀ memory, other.place regions (file.place regions memory) =
    file.place regions (other.place regions memory)

instance {regions : List RomRegion} : Std.Symm (Swap regions) where
  symm _ _ swap memory := (swap memory).symm

end RomFile

/--
What becomes of a set of files, whatever was in memory before. The last file that reaches an
address has its byte there, and no file goes past the last address. Files that are copied to
different addresses may be given in any order.
-/
structure RomSet (regions : List RomRegion) (files : List RomFile) : Prop where
  sorted : RomFile.Sorted regions files
    (RomReport.ofFiles regions files).loaded (RomReport.ofFiles regions files).skipped
  last : ∀ (memory : Memory) (earlier : List RomFile) (file : RomFile) (later : List RomFile)
    (address : UInt16) (value : UInt8), files = earlier ++ file :: later →
      file.Brings regions address value → (∀ other ∈ later, ¬ other.Reaches regions address) →
        (RomFile.placeAll regions memory files).read address = value
  kept : ∀ (memory : Memory) (address : UInt16),
    (∀ file ∈ files, ¬ file.Reaches regions address) →
      (RomFile.placeAll regions memory files).read address = memory.read address
  inside : ∀ rom ∈ (RomReport.ofFiles regions files).loaded,
    rom.start.toNat + rom.loaded ≤ 65536
  missing : (RomReport.ofFiles regions files).missing regions =
    regions.filter fun region => decide <| ¬ ∃ rom ∈ (RomReport.ofFiles regions files).loaded,
      rom.token = region.fileMatch ∧ rom.start = region.start
  order : files.Pairwise (RomFile.Apart regions) → ∀ others, files.Perm others →
    (∀ memory, RomFile.placeAll regions memory others = RomFile.placeAll regions memory files) ∧
      ∀ board : Board, board.romRegions = regions → board.loadRoms others = board.loadRoms files

/-- A region misses its file if nothing with its token and start is reported as loaded. -/
theorem RomReport.missing_eq_filter (report : RomReport) (regions : List RomRegion) :
    report.missing regions = regions.filter fun region => decide <| ¬ ∃ rom ∈ report.loaded,
      rom.token = region.fileMatch ∧ rom.start = region.start := by
  refine List.filter_congr fun region _ => ?_
  rw [Bool.eq_iff_iff, decide_eq_true_iff, RomReport.covers, Bool.not_eq_true', Bool.eq_false_iff,
    ne_eq, List.any_eq_true]
  simp only [Bool.and_eq_true, beq_iff_eq]

namespace RomFile

variable {regions : List RomRegion} {file other : RomFile} {region : RomRegion}
  {files others : List RomFile} {address : UInt16} {value : UInt8}

/-! ## The report -/

theorem sorted_ofFiles (regions : List RomRegion) (files : List RomFile) :
    Sorted regions files (RomReport.ofFiles regions files).loaded
      (RomReport.ofFiles regions files).skipped := by
  induction files with
  | nil => exact .none
  | cons file files ih =>
      unfold RomReport.ofFiles at ih ⊢
      cases found : file.region? regions with
      | some region =>
          have loaded : file.loaded? regions = some _ :=
            Option.map_eq_some_iff.mpr ⟨region, found, rfl⟩
          rw [List.filterMap_cons_some loaded, List.filter_cons_of_neg (by simp [found])]
          refine .loaded (region?_eq_some_iff.mp found) ⟨rfl, rfl, rfl, rfl, ?_⟩ ih
          exact Nat.add_sub_of_le (Nat.min_le_left _ _)
      | none =>
          have left : file.loaded? regions = none := Option.map_eq_none_iff.mpr found
          rw [List.filterMap_cons_none left, List.filter_cons_of_pos (by simp [found])]
          exact .skipped (region?_eq_none_iff.mp found) ih

/-- What is reported as loaded is a file that came to a region. -/
theorem Sorted.records {loaded : List LoadedRom} {skipped : List String}
    (sorted : Sorted regions files loaded skipped) {rom : LoadedRom} (reported : rom ∈ loaded) :
    ∃ file region, First (Mentions file) regions region ∧ rom.Records file region := by
  induction sorted with
  | none => cases reported
  | loaded belongs records rest ih =>
      rcases List.mem_cons.mp reported with rfl | later
      · exact ⟨_, _, belongs, records⟩
      · exact ih later
  | skipped nowhere rest ih => exact ih reported

/-! ## One file -/

/-- A file reaches a block of its region. -/
theorem reaches_iff (found : file.region? regions = some region)
    (fits : Config.Fits region.start region.size) :
    file.Reaches regions address ↔
      Memory.InBlock region.start (file.bytes.take region.size).length address := by
  obtain ⟨-, ends⟩ := fits
  have count : (file.bytes.take region.size).length = min file.bytes.length region.size := by
    rw [List.length_take, Nat.min_comm]
  rw [count]
  constructor
  · rintro ⟨value, other, belongs, index, bound, here, -⟩
    cases found.symm.trans (region?_eq_some_iff.mpr belongs)
    exact ⟨index, bound, (Memory.add_ofNat_eq here).symm⟩
  · rintro ⟨index, bound, rfl⟩
    have given : index < file.bytes.length := Nat.lt_of_lt_of_le bound (Nat.min_le_left _ _)
    refine ⟨file.bytes[index], region, region?_eq_some_iff.mp found, index, bound, ?_,
      List.getElem?_eq_getElem given⟩
    exact (Memory.toNat_add_ofNat (by omega)).symm

theorem not_reaches_of_none (nowhere : file.region? regions = none) :
    ¬ file.Reaches regions address := by
  rintro ⟨value, region, belongs, -⟩
  exact region?_eq_none_iff.mp nowhere region belongs.mem belongs.has

variable (fits : ∀ region ∈ regions, Config.Fits region.start region.size)
include fits

/-- A file changes the addresses that it reaches only, whatever was there. -/
theorem overwrites_place (file : RomFile) :
    Memory.Overwrites (file.Reaches regions) fun memory => file.place regions memory := by
  unfold place
  cases found : file.region? regions with
  | none => exact Memory.overwrites_none fun address => not_reaches_of_none found
  | some region =>
      have room := fits region (region?_eq_some_iff.mp found).mem
      have block : file.Reaches regions =
          Memory.InBlock region.start (file.bytes.take region.size).length :=
        funext fun address => propext (reaches_iff found room)
      rw [block]
      exact Memory.overwrites_load region.start (file.bytes.take region.size)

/-- What a file brings to an address is there when it has been copied. -/
theorem read_place (memory : Memory) (brings : file.Brings regions address value) :
    (file.place regions memory).read address = value := by
  obtain ⟨region, belongs, index, bound, here, byte⟩ := brings
  obtain ⟨-, ends⟩ := fits region belongs.mem
  have inside : index < (file.bytes.take region.size).length := by
    rw [List.length_take]
    omega
  have short : (file.bytes.take region.size).length ≤ 65536 := by
    rw [List.length_take]
    omega
  rw [place, region?_eq_some_iff.mpr belongs, ← Memory.add_ofNat_eq here]
  refine (Memory.read_load_getElem memory region.start short inside).trans ?_
  rw [List.getElem_take]
  exact Option.some.inj ((List.getElem?_eq_getElem _).symm.trans byte)

/-! ## All files -/

theorem read_placeAll_outside (memory : Memory)
    (outside : ∀ file ∈ files, ¬ file.Reaches regions address) :
    (placeAll regions memory files).read address = memory.read address := by
  refine (Memory.overwrites_foldl (overwrites_place fits) files).outside memory address ?_
  rintro ⟨file, given, reached⟩
  exact outside file given reached

/-- The last file that reaches an address has its byte there. -/
theorem read_placeAll_last (memory : Memory) (earlier : List RomFile) {later : List RomFile}
    (brings : file.Brings regions address value)
    (outside : ∀ other ∈ later, ¬ other.Reaches regions address) :
    (placeAll regions memory (earlier ++ file :: later)).read address = value := by
  rw [placeAll, List.foldl_append, List.foldl_cons]
  exact (read_placeAll_outside fits _ outside).trans (read_place fits _ brings)

omit fits in
/-- Files of which any two may trade places may be copied in any order. -/
theorem placeAll_perm_of_swap (swaps : files.Pairwise (Swap regions)) (same : files.Perm others)
    (memory : Memory) : placeAll regions memory others = placeAll regions memory files := by
  -- A file that is given twice is copied twice, in either order.
  have all := swaps.forall_of_forall fun _ _ _ => rfl
  exact (same.foldl_eq' (fun file given other also => all given also) memory).symm

theorem Apart.swap (apart : Apart regions file other) : Swap regions file other := fun memory =>
  ((overwrites_place fits file).comm (overwrites_place fits other) apart memory).symm

end RomFile

namespace Board

/-- The tokens that files bring to the list of what is mounted, in any order. -/
theorem mounted_perm (board : Board) {files others : List RomFile} (same : files.Perm others) :
    (board.loadRoms others).mounted = (board.loadRoms files).mounted := by
  have reports := same.filterMap (RomFile.loaded? board.romRegions)
  exact (reports.foldl_eq' (fun rom _ other _ mounted =>
    insertToken_comm other.token rom.token mounted) board.mounted).symm

theorem loadRoms_eq_withImages (board : Board) (files : List RomFile) :
    board.loadRoms files =
      board.withImages (RomFile.placeAll board.romRegions board.memory files)
        (board.loadRoms files).mounted := rfl

end Board

/-! ## The whole set -/

/-- What becomes of any files if the regions are accepted. -/
theorem rom_set_loaded {regions : List RomRegion}
    (valid : ∀ region ∈ regions, Config.checkRom region = .ok ()) (files : List RomFile) :
    RomSet regions files := by
  have fits (region : RomRegion) (declared : region ∈ regions) :
      Config.Fits region.start region.size :=
    Config.fits_of_checkRom (valid region declared)
  constructor
  case sorted => exact RomFile.sorted_ofFiles regions files
  case last =>
    rintro memory earlier file later address value rfl brings outside
    exact RomFile.read_placeAll_last fits memory earlier brings outside
  case kept =>
    intro memory address outside
    exact RomFile.read_placeAll_outside fits memory outside
  case inside =>
    intro rom reported
    obtain ⟨file, region, belongs, records⟩ :=
      (RomFile.sorted_ofFiles regions files).records reported
    obtain ⟨-, ends⟩ := fits region belongs.mem
    rw [records.start, records.loaded]
    omega
  case missing => exact RomReport.missing_eq_filter _ regions
  case order =>
    intro apart others same
    have swaps := apart.imp fun {_ _} apart => RomFile.Apart.swap fits apart
    have placed := RomFile.placeAll_perm_of_swap swaps same
    refine ⟨placed, ?_⟩
    rintro board rfl
    rw [board.loadRoms_eq_withImages others, placed, board.mounted_perm same]
    rfl

/-- Two files of one region, of which the second one is shorter, and one that belongs nowhere. -/
theorem rom_set_loaded_twice :
    let regions := Preset.spaceInvaders.memory.rom
    let files : List RomFile :=
      [⟨"invaders.h", [0xC3, 0x01]⟩, ⟨"INVADERS.H", [0x76]⟩, ⟨"readme", [0xFF]⟩]
    (∀ region ∈ regions, Config.checkRom region = .ok ()) ∧
      ∀ memory, (RomFile.placeAll regions memory files).read 0x0000 = 0x76 ∧
        (RomFile.placeAll regions memory files).read 0x0001 = 0x01 := by
  intro regions files
  let region := Preset.romAt 0x0000 2048 "invaders.h"
  have accepted : Preset.spaceInvaders.validate = .ok () := rfl
  obtain ⟨-, -, valid, -⟩ := Config.validate_eq_ok_iff.mp accepted
  have loaded := rom_set_loaded valid files
  have unnamed (address : UInt16) : ¬ RomFile.Reaches ⟨"readme", [0xFF]⟩ regions address :=
    RomFile.not_reaches_of_none (by decide)
  have long : First (RomFile.Mentions ⟨"invaders.h", [0xC3, 0x01]⟩) regions region :=
    RomFile.region?_eq_some_iff.mp (by decide)
  have belongs : RomFile.region? ⟨"INVADERS.H", [0x76]⟩ regions = some region := by decide
  have short : ¬ RomFile.Reaches ⟨"INVADERS.H", [0x76]⟩ regions 0x0001 := by
    rw [RomFile.reaches_iff belongs ⟨by decide, by decide⟩, Memory.inBlock_iff (by decide)]
    decide
  refine ⟨valid, fun memory => ⟨?_, ?_⟩⟩
  · refine loaded.last memory [⟨"invaders.h", [0xC3, 0x01]⟩] _ _ 0x0000 0x76 rfl ?_ ?_
    · exact ⟨region, RomFile.region?_eq_some_iff.mp belongs, 0, by decide, rfl, rfl⟩
    · exact List.forall_mem_singleton.mpr (unnamed _)
  · refine loaded.last memory [] _ _ 0x0001 0x01 rfl ?_ ?_
    · exact ⟨region, long, 1, by decide, rfl, rfl⟩
    · exact List.forall_mem_cons.mpr ⟨short, List.forall_mem_singleton.mpr (unnamed _)⟩

end Cabinet
