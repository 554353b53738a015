import Cabinet.Config.Format
import Cabinet.Proofs.Json.Record

/-!
# Descriptions are read back

Every part of a description is read back as it was written. A member that is left out
because it has no value is read as having none. The ports of a wiring are found whatever
their order, since each of them is written once.
-/

namespace Cabinet

open Json Outcome Json.Fields

/-! ## Members that may be left out -/

namespace Json

variable {α : Type} {reader : Reader α} {encode : α → Json} {key : String} {value : Option α}

@[simp] theorem lookup_optionalMember (key name : String) (encode : α → Json)
    (value : Option α) :
    (optionalMember key encode value).lookup name =
      if name = key then value.map encode else none := by
  cases value with
  | none => simp [optionalMember]
  | some value =>
      rw [optionalMember, List.lookup_cons]
      split <;> simp_all

/-- The keys are one key or none. -/
theorem keys_optionalMember (key : String) (encode : α → Json) (value : Option α) :
    ((optionalMember key encode value).map Prod.fst).Sublist [key] := by
  cases value with
  | none => exact List.nil_sublist [key]
  | some value => exact .refl [key]

theorem admitted_optional {fields : List Field} (reads : ∀ value, Reads reader (encode value) value)
    (notNull : ∀ value, encode value ≠ .null)
    (found : (fields.find? fun field => field.name == key).map Field.check =
      some fun node => (Reader.option reader node).map fun _ => ()) :
    ∀ member ∈ optionalMember key encode value, Admits fields member := by
  cases value with
  | none => exact admitted_nil
  | some value => exact admitted_cons (reads_some (reads value) (notNull value)) found admitted_nil

theorem Fields.Holds.optional {given : Fields} {members : List (String × Json)}
    (holds : given.Holds members) (name : String) (value : Option α)
    (member : members.lookup name = value.map encode)
    (reads : ∀ value, Reads reader (encode value) value)
    (notNull : ∀ value, encode value ≠ .null) :
    given.defaultTo name (Reader.option reader) none = .ok value := by
  cases value with
  | none => exact holds.defaulted name none member
  | some value => exact holds.defaultTo name none member (reads_some (reads value) (notNull value))

end Json

/-! ## The screen, regions and timing -/

theorem Display.reads_toJson (display : Display) : Reads reader display.toJson display := by
  intro node shows
  obtain ⟨given, read, holds⟩ := read_object "DisplayConfig" fields shows (by simp) <|
    admitted_cons (reads_bool display.color) rfl <|
    admitted_cons (reads_uint32 display.height) rfl <|
    admitted_cons (reads_uint16 display.rotation) rfl <|
    admitted_cons (reads_uint32 display.width) rfl admitted_nil
  simp only [reader, read, ok_bind,
    holds.required "width" rfl (reads_uint32 display.width),
    holds.required "height" rfl (reads_uint32 display.height),
    holds.defaultTo "rotation" 0 rfl (reads_uint16 display.rotation),
    holds.defaultTo "color" false rfl (reads_bool display.color)]
  rfl

theorem reads_size {size : Nat} (fits : size < UInt64.size) :
    Reads Reader.size (.ofNat size) size :=
  reads_natBelow "usize" fits

theorem RomRegion.reads_toJson {region : RomRegion} (fits : region.size < UInt64.size) :
    Reads reader region.toJson region := by
  intro node shows
  obtain ⟨given, read, holds⟩ := read_object "RomRegion" fields shows (by simp) <|
    admitted_cons (reads_uint16 region.stop) rfl <|
    admitted_cons (reads_string region.fileMatch) rfl <|
    admitted_cons (reads_size fits) rfl <|
    admitted_cons (reads_uint16 region.start) rfl admitted_nil
  simp only [reader, read, ok_bind,
    holds.required "start" rfl (reads_uint16 region.start),
    holds.required "end" rfl (reads_uint16 region.stop),
    holds.required "size" rfl (reads_size fits),
    holds.required "fileMatch" rfl (reads_string region.fileMatch)]
  rfl

theorem RamRegion.reads_toJson {region : RamRegion} (fits : region.size < UInt64.size) :
    Reads reader region.toJson region := by
  intro node shows
  obtain ⟨given, read, holds⟩ := read_object "RamRegion" fields shows (by simp) <|
    admitted_cons (reads_uint16 region.stop) rfl <|
    admitted_cons (reads_size fits) rfl <|
    admitted_cons (reads_uint16 region.start) rfl admitted_nil
  simp only [reader, read, ok_bind,
    holds.required "start" rfl (reads_uint16 region.start),
    holds.required "end" rfl (reads_uint16 region.stop),
    holds.required "size" rfl (reads_size fits)]
  rfl

theorem VideoFormat.reads_toJson (format : VideoFormat) : Reads reader format.toJson format := by
  rintro _ ⟨⟩
  cases format <;> rfl

namespace VideoRegion

theorem keys_nodup (region : VideoRegion) :
    ((optionalMember "end" wordJson region.stop ++
      optionalMember "format" VideoFormat.toJson region.format ++
      optionalMember "spritePatterns" wordJson region.patterns ++
      optionalMember "sprites" wordJson region.sprites ++
      [("start", wordJson region.start)] ++
      optionalMember "tilemap" wordJson region.tilemap).map Prod.fst).Nodup := by
  simp only [List.map_append]
  refine List.Sublist.nodup ((((((keys_optionalMember _ _ _).append
    (keys_optionalMember _ _ _)).append (keys_optionalMember _ _ _)).append
    (keys_optionalMember _ _ _)).append (.refl ["start"])).append (keys_optionalMember _ _ _)) ?_
  decide

theorem reads_toJson (region : VideoRegion) : Reads reader region.toJson region := by
  intro node shows
  have word (value : UInt16) : Reads Reader.uint16 (wordJson value) value := reads_uint16 value
  have wordThere (value : UInt16) : wordJson value ≠ .null := nofun
  have formatThere (value : VideoFormat) : value.toJson ≠ .null := nofun
  obtain ⟨given, read, holds⟩ := read_object "VideoRegion" fields shows region.keys_nodup (by
    simp only [List.forall_mem_append]
    exact ⟨⟨⟨⟨⟨admitted_optional word wordThere rfl,
      admitted_optional VideoFormat.reads_toJson formatThere rfl⟩,
      admitted_optional word wordThere rfl⟩,
      admitted_optional word wordThere rfl⟩,
      admitted_cons (word region.start) rfl admitted_nil⟩,
      admitted_optional word wordThere rfl⟩)
  simp only [reader, read, ok_bind,
    holds.required "start" (by simp [List.lookup_append]) (word region.start),
    holds.optional "end" region.stop (by simp [List.lookup_append, List.lookup_cons]) word
      wordThere,
    holds.optional "tilemap" region.tilemap (by simp [List.lookup_append, List.lookup_cons]) word
      wordThere,
    holds.optional "sprites" region.sprites (by simp [List.lookup_append, List.lookup_cons]) word
      wordThere,
    holds.optional "spritePatterns" region.patterns (by simp [List.lookup_append, List.lookup_cons])
      word wordThere,
    holds.optional "format" region.format (by simp [List.lookup_append, List.lookup_cons])
      VideoFormat.reads_toJson formatThere]
  rfl

end VideoRegion

/-! ## Memory, interrupts and timing -/

/-- The sizes of all regions fit 64 bits. -/
def MemoryMap.Sizes (memory : MemoryMap) : Prop :=
  (∀ region ∈ memory.rom, region.size < UInt64.size) ∧
    ∀ region ∈ memory.ram, region.size < UInt64.size

theorem MemoryMap.reads_toJson {memory : MemoryMap} (fits : memory.Sizes) :
    Reads reader memory.toJson memory := by
  intro node shows
  obtain ⟨fitsRom, fitsRam⟩ := fits
  have rom := reads_list fun region inside => RomRegion.reads_toJson (fitsRom region inside)
  have ram := reads_list fun region inside => RamRegion.reads_toJson (fitsRam region inside)
  have video := reads_option VideoRegion.reads_toJson (fun _ => nofun) memory.video
  obtain ⟨given, read, holds⟩ := read_object "MemoryMap" fields shows (by simp) <|
    admitted_cons ram rfl <| admitted_cons rom rfl <| admitted_cons video rfl admitted_nil
  simp only [reader, read, ok_bind, holds.defaultTo "rom" [] rfl rom,
    holds.defaultTo "ram" [] rfl ram, holds.defaultTo "video" none rfl video]
  rfl

theorem Interrupt.reads_toJson (interrupt : Interrupt) :
    Reads reader interrupt.toJson interrupt := by
  intro node shows
  obtain ⟨given, read, holds⟩ := read_object "InterruptSchedule" fields shows (by simp) <|
    admitted_cons (reads_uint32 interrupt.period) rfl <|
    admitted_cons (reads_uint8 interrupt.vector) rfl admitted_nil
  simp only [reader, read, ok_bind,
    holds.required "vector" rfl (reads_uint8 interrupt.vector),
    holds.required "period" rfl (reads_uint32 interrupt.period)]
  rfl

theorem FrameTiming.reads_toJson (timing : FrameTiming) : Reads reader timing.toJson timing := by
  intro node shows
  obtain ⟨given, read, holds⟩ := read_object "FrameTiming" fields shows (by simp) <|
    admitted_cons (reads_uint32 timing.clockHz) rfl <|
    admitted_cons (reads_uint32 timing.refreshHz) rfl admitted_nil
  simp only [reader, read, ok_bind,
    holds.required "clockHz" rfl (reads_uint32 timing.clockHz),
    holds.required "refreshHz" rfl (reads_uint32 timing.refreshHz)]
  rfl

/-! ## Ports -/

namespace Wiring

theorem ext_name {first second : Wiring} (same : ∀ port, first.name? port = second.name? port) :
    first = second := by
  apply Vector.ext
  intro index bound
  have port := same (UInt8.ofNat index)
  simpa [name?, Nat.mod_eq_of_lt bound] using port

theorem name?_empty (port : UInt8) : empty.name? port = none := by
  simp [name?, empty]

theorem name?_connect (wiring : Wiring) (port other : UInt8) (name : String) :
    (wiring.connect port name).name? other =
      if other = port then some name else wiring.name? other := by
  simp only [name?, connect, Vector.getElem_set, UInt8.toNat_inj, eq_comm]

theorem mem_toList {wiring : Wiring} {port : UInt8} {name : String} :
    (port, name) ∈ wiring.toList ↔ wiring.name? port = some name := by
  simp only [toList, List.mem_filterMap, List.mem_range, Option.map_eq_some_iff, Prod.mk.injEq]
  constructor
  · rintro ⟨index, -, name, named, rfl, rfl⟩
    exact named
  · intro named
    exact ⟨port.toNat, port.toNat_lt, name, by simpa using named, by simp, rfl⟩

/-- A port is read from its number in quotes. -/
theorem portOfKey_of_spells {key : Key} {port : UInt8}
    (spells : key.Spells (toString port.toNat)) : portOfKey key = .ok port := by
  have fits : port.toNat < NumberText.wordBound :=
    Nat.lt_trans port.toNat_lt (by decide)
  have inRange : Reader.integerBelow 256 "u8" (.integer port.toNat) = .ok port.toNat :=
    if_pos port.toNat_lt
  simp only [portOfKey, spells.number port.toNat fits rfl, Fault.raise, ok_bind, inRange, if_true,
    UInt8.ofNat_toNat]
  rfl

theorem toString_port_inj {port other : UInt8}
    (same : toString port.toNat = toString other.toNat) : port = other := by
  have spelled (port : UInt8) := portOfKey_of_spells (Key.spells_body (toString port.toNat) [])
  have first := spelled port
  rw [same, spelled other] at first
  exact (Except.ok.inj first).symm

/-- The connections of a wiring, one after another, whatever their order. -/
theorem ofMembers_shown {wiring : Wiring} {members : List (String × Json)}
    {nodes : List (Key × Node)} (shown : List.Forall₂ ShowsMember members nodes)
    (bound : ∀ member ∈ members, ∃ port name, member = (toString port.toNat, .string name) ∧
      wiring.name? port = some name) (start : Wiring) :
    ∃ result, ofMembers start nodes = .ok result ∧ ∀ port, result.name? port =
      if toString port.toNat ∈ members.map Prod.fst then wiring.name? port
      else start.name? port := by
  induction shown generalizing start with
  | nil => exact ⟨start, rfl, fun port => rfl⟩
  | @cons member node members nodes shows _ ih =>
      obtain ⟨⟨port, name, rfl, named⟩, later⟩ := List.forall_mem_cons.mp bound
      obtain ⟨key, node⟩ := node
      obtain ⟨spells, shows⟩ := shows
      obtain ⟨result, read, names⟩ := ih later (start.connect port name)
      refine ⟨result, ?_, ?_⟩
      · simp only [ofMembers, portOfKey_of_spells spells, reads_string name node shows, ok_bind]
        exact read
      · intro other
        simp only [names other, name?_connect, List.map_cons, List.mem_cons]
        by_cases later : toString other.toNat ∈ members.map Prod.fst
        · rw [if_pos later, if_pos (Or.inr later)]
        · by_cases same : other = port
          · subst same
            rw [if_neg later, if_pos rfl, if_pos (Or.inl rfl), named]
          · have apart : toString other.toNat ≠ toString port.toNat :=
              fun equal => same (toString_port_inj equal)
            rw [if_neg later, if_neg same, if_neg (not_or.mpr ⟨apart, later⟩)]

theorem reads_toJson (wiring : Wiring) : Reads reader wiring.toJson wiring := by
  intro node shows
  obtain ⟨ordered, nodes, ending, rfl, order, shown, complete⟩ := shows.members
  have written {port : UInt8} {name : String} (named : wiring.name? port = some name) :
      (toString port.toNat, Json.string name) ∈ ordered :=
    order.mem_iff.mpr (List.mem_map.mpr ⟨(port, name), mem_toList.mpr named, rfl⟩)
  have bound : ∀ member ∈ ordered, ∃ port name, member = (toString port.toNat, .string name) ∧
      wiring.name? port = some name := by
    intro member inside
    obtain ⟨⟨port, name⟩, listed, rfl⟩ := List.mem_map.mp (order.mem_iff.mp inside)
    exact ⟨port, name, rfl, mem_toList.mp listed⟩
  obtain ⟨result, read, names⟩ := ofMembers_shown shown bound empty
  have same : result = wiring := by
    apply ext_name
    intro port
    rw [names port]
    split
    · rfl
    · rename_i unwritten
      cases named : wiring.name? port with
      | none => exact name?_empty port
      | some name => exact absurd (List.mem_map_of_mem (written named)) unwritten
  simp only [reader, read, finish_of_complete complete, ok_bind, same]
  rfl

end Wiring

theorem PortNames.reads_toJson (ports : PortNames) : Reads reader ports.toJson ports := by
  intro node shows
  obtain ⟨given, read, holds⟩ := read_object "PortBindings" fields shows (by simp) <|
    admitted_cons ports.inputs.reads_toJson rfl <|
    admitted_cons ports.outputs.reads_toJson rfl admitted_nil
  simp only [reader, read, ok_bind,
    holds.defaultTo "in" Wiring.empty rfl ports.inputs.reads_toJson,
    holds.defaultTo "out" Wiring.empty rfl ports.outputs.reads_toJson]
  rfl

/-! ## Whole descriptions -/

namespace Config

theorem reads_dip (dip : UInt8) : Reads dipReader (dipJson dip) dip := by
  intro node shows
  obtain ⟨given, read, holds⟩ := read_object "DipSettings" dipFields shows (by simp) <|
    admitted_cons (reads_uint8 dip) rfl admitted_nil
  simp only [dipReader, read, ok_bind, holds.defaultTo "default" 0 rfl (reads_uint8 dip)]

theorem keys_nodup (config : Config) :
    (([("dipSettings", dipJson config.dip),
        ("interrupts", .array (config.interrupts.map Interrupt.toJson))] ++
      optionalMember "manufacturer" .string config.manufacturer ++
      [("memoryMap", config.memory.toJson), ("name", .string config.name),
        ("ports", config.ports.toJson), ("timing", config.timing.toJson),
        ("video", config.display.toJson)] ++
      optionalMember "year" wordJson config.year).map Prod.fst).Nodup := by
  simp only [List.map_append]
  refine List.Sublist.nodup ((((List.Sublist.refl ["dipSettings", "interrupts"]).append
    (keys_optionalMember _ _ _)).append
    (.refl ["memoryMap", "name", "ports", "timing", "video"])).append
    (keys_optionalMember _ _ _)) ?_
  decide

theorem reads_toJson {config : Config} (fits : config.memory.Sizes) :
    Reads reader config.toJson config := by
  intro node shows
  have word (value : UInt16) : Reads Reader.uint16 (wordJson value) value := reads_uint16 value
  have wordThere (value : UInt16) : wordJson value ≠ .null := nofun
  have textThere (value : String) : Json.string value ≠ .null := nofun
  have interrupts := reads_list fun interrupt (_ : interrupt ∈ config.interrupts) =>
    interrupt.reads_toJson
  have memory := MemoryMap.reads_toJson fits
  obtain ⟨given, read, holds⟩ := read_object "HardwareConfig" fields shows config.keys_nodup (by
    simp only [List.forall_mem_append]
    exact ⟨⟨⟨admitted_cons (reads_dip config.dip) rfl <| admitted_cons interrupts rfl admitted_nil,
      admitted_optional reads_string textThere rfl⟩,
      admitted_cons memory rfl <| admitted_cons (reads_string config.name) rfl <|
        admitted_cons config.ports.reads_toJson rfl <|
        admitted_cons config.timing.reads_toJson rfl <|
        admitted_cons config.display.reads_toJson rfl admitted_nil⟩,
      admitted_optional word wordThere rfl⟩)
  simp only [reader, read, ok_bind,
    holds.required "name" (by simp [List.lookup_append, List.lookup_cons])
      (reads_string config.name),
    holds.optional "year" config.year (by simp [List.lookup_append, List.lookup_cons]) word
      wordThere,
    holds.optional "manufacturer" config.manufacturer
      (by simp [List.lookup_append, List.lookup_cons]) reads_string textThere,
    holds.defaultTo "video" {} (by simp [List.lookup_append, List.lookup_cons])
      config.display.reads_toJson,
    holds.required "memoryMap" (by simp [List.lookup_append, List.lookup_cons]) memory,
    holds.defaultTo "ports" {} (by simp [List.lookup_append, List.lookup_cons])
      config.ports.reads_toJson,
    holds.defaultTo "interrupts" [] rfl interrupts,
    holds.defaultTo "dipSettings" 0 rfl (reads_dip config.dip),
    holds.defaultTo "timing" {} (by simp [List.lookup_append, List.lookup_cons])
      config.timing.reads_toJson]
  rfl

end Config

end Cabinet
