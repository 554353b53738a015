import Cabinet.Proofs.Config.ReadBack
import Cabinet.Proofs.Config.Validity
import Cabinet.Proofs.Json.Printed

/-!
# Descriptions as texts

A description that is accepted is read back from every text that it can be written as:
compact or indented, with any space, its members in any order. So reading a text and
writing what was read again leads to the same description at once.
-/

namespace Cabinet

open Json

/-! ## What a description is written as -/

theorem plain_uint8 (value : UInt8) : Plain (.ofNat value.toNat) :=
  .number (Nat.lt_trans value.toNat_lt (by decide))

theorem plain_uint16 (value : UInt16) : Plain (wordJson value) :=
  .number (Nat.lt_trans value.toNat_lt (by decide))

theorem plain_uint32 (value : UInt32) : Plain (.ofNat value.toNat) :=
  .number (Nat.lt_trans value.toNat_lt (by decide))

theorem plain_list {α : Type} {encode : α → Json} {values : List α}
    (plain : ∀ value ∈ values, Plain (encode value)) : Plain (.array (values.map encode)) :=
  .array (List.forall_mem_map.mpr plain)

theorem plain_optional {α : Type} {key : String} {encode : α → Json} {value : Option α}
    (plain : ∀ value, Plain (encode value)) :
    ∀ member ∈ optionalMember key encode value, Plain member.2 := by
  cases value with
  | none => exact nofun
  | some value => simpa [optionalMember] using plain value

theorem Display.plain_toJson (display : Display) : Plain display.toJson := by
  refine .object ?_
  simp only [List.forall_mem_cons]
  exact ⟨.bool _, plain_uint32 _, plain_uint16 _, plain_uint32 _, nofun⟩

theorem RomRegion.plain_toJson {region : RomRegion} (fits : region.size < UInt64.size) :
    Plain region.toJson := by
  refine .object ?_
  simp only [List.forall_mem_cons]
  exact ⟨plain_uint16 _, .string _, .number fits, plain_uint16 _, nofun⟩

theorem RamRegion.plain_toJson {region : RamRegion} (fits : region.size < UInt64.size) :
    Plain region.toJson := by
  refine .object ?_
  simp only [List.forall_mem_cons]
  exact ⟨plain_uint16 _, .number fits, plain_uint16 _, nofun⟩

theorem VideoRegion.plain_toJson (region : VideoRegion) : Plain region.toJson := by
  refine .object ?_
  simp only [List.forall_mem_append, List.forall_mem_cons]
  exact ⟨⟨⟨⟨⟨plain_optional plain_uint16, plain_optional fun _ => .string _⟩,
    plain_optional plain_uint16⟩, plain_optional plain_uint16⟩, plain_uint16 _, nofun⟩,
    plain_optional plain_uint16⟩

theorem MemoryMap.plain_toJson {memory : MemoryMap} (fits : memory.Sizes) :
    Plain memory.toJson := by
  obtain ⟨rom, ram⟩ := fits
  refine .object ?_
  simp only [List.forall_mem_cons]
  refine ⟨plain_list fun region inside => RamRegion.plain_toJson (ram region inside),
    plain_list fun region inside => RomRegion.plain_toJson (rom region inside), ?_, nofun⟩
  cases memory.video with
  | none => exact .null
  | some region => exact region.plain_toJson

theorem Wiring.plain_toJson (wiring : Wiring) : Plain wiring.toJson :=
  .object (List.forall_mem_map.mpr fun _ _ => .string _)

theorem PortNames.plain_toJson (ports : PortNames) : Plain ports.toJson := by
  refine .object ?_
  simp only [List.forall_mem_cons]
  exact ⟨ports.inputs.plain_toJson, ports.outputs.plain_toJson, nofun⟩

theorem Interrupt.plain_toJson (interrupt : Interrupt) : Plain interrupt.toJson := by
  refine .object ?_
  simp only [List.forall_mem_cons]
  exact ⟨plain_uint32 _, plain_uint8 _, nofun⟩

theorem FrameTiming.plain_toJson (timing : FrameTiming) : Plain timing.toJson := by
  refine .object ?_
  simp only [List.forall_mem_cons]
  exact ⟨plain_uint32 _, plain_uint32 _, nofun⟩

namespace Config

theorem plain_dip (dip : UInt8) : Plain (dipJson dip) :=
  .object (List.forall_mem_singleton.mpr (plain_uint8 dip))

theorem plain_toJson {config : Config} (fits : config.memory.Sizes) : Plain config.toJson := by
  refine .object ?_
  simp only [List.forall_mem_append, List.forall_mem_cons]
  exact ⟨⟨⟨⟨plain_dip _, plain_list fun interrupt _ => interrupt.plain_toJson, nofun⟩,
    plain_optional .string⟩, MemoryMap.plain_toJson fits, .string _, config.ports.plain_toJson,
    config.timing.plain_toJson, config.display.plain_toJson, nofun⟩, plain_optional plain_uint16⟩

/-! ## Reading it back -/

theorem sizes_of_validate {config : Config} (valid : config.validate = .ok ()) :
    config.memory.Sizes := by
  have small {start : UInt16} {size : Nat} (fits : Fits start size) : size < UInt64.size := by
    obtain ⟨-, ends⟩ := fits
    exact Nat.lt_of_le_of_lt (Nat.le_of_add_left_le ends) (by decide)
  exact ⟨fun _ declared => small (fits_of_rom valid declared),
    fun _ declared => small (fits_of_ram valid declared)⟩

/--
A description is read back from what is written of it; space and the order of members do not
count.
-/
structure ReadBack (config : Config) : Prop where
  compact : ofText config.toJson.compact = .ok config
  indented : ofText config.toJson.indented = .ok config
  writes : ∀ text, Writes config.toJson text → ofText text = .ok config

theorem ofText_of_writes {config : Config} (valid : config.validate = .ok ()) {text : String}
    (writes : Writes config.toJson text) : ofText text = .ok config := by
  have read := (reads_toJson (sizes_of_validate valid)).readText writes
  rw [ofText, read, Outcome.ok_mapError, Outcome.ok_bind, valid, Outcome.ok_bind]
  rfl

theorem readBack_of_validate {config : Config} (valid : config.validate = .ok ()) :
    config.ReadBack := by
  have plain := plain_toJson (sizes_of_validate valid)
  exact
    { compact := ofText_of_writes valid plain.writes_compact
      indented := ofText_of_writes valid plain.writes_indented
      writes := fun _ => ofText_of_writes valid }

/-- What is read from a text was accepted. -/
theorem validate_of_ofText {config : Config} {text : String} (read : ofText text = .ok config) :
    config.validate = .ok () := by
  unfold ofText at read
  obtain ⟨other, -, rest⟩ := Outcome.bind_eq_ok_iff.mp read
  obtain ⟨valid, rest⟩ := Outcome.check_eq_ok_iff.mp rest
  cases rest
  exact valid

/--
A description that is accepted is read back from all of its texts, and so is one that
was read from any text, whatever that text left out, added or spelled differently.
-/
theorem text_round_trip (config : Config) :
    (config.validate = .ok () → config.ReadBack) ∧
      ∀ text, ofText text = .ok config → config.ReadBack :=
  ⟨readBack_of_validate, fun _ read => readBack_of_validate (validate_of_ofText read)⟩

/-- A description with a name to escape, ports, and some of the optional members. -/
def oddities : Config where
  name := "\x22Ω\x22\n\x01"
  year := some 1978
  memory :=
    { ram := [⟨0x2000, 0x23FF, 1024⟩]
      video := some { start := 0x2400, sprites := some 0x4000, format := some .color } }
  ports := { inputs := .ofList [(10, "coin"), (9, "dip"), (100, "")] }
  interrupts := [⟨1, 2⟩]

theorem text_round_trip_oddities :
    oddities.validate = .ok () ∧ oddities.ReadBack ∧
      ofText oddities.toJson.compact = .ok oddities ∧
      ofText oddities.toJson.indented = .ok oddities := by
  have valid : oddities.validate = .ok () := rfl
  obtain ⟨accepted, given⟩ := text_round_trip oddities
  have first := accepted valid
  have second := given oddities.toJson.compact first.compact
  exact ⟨valid, first, second.compact, second.indented⟩

end Config

end Cabinet
