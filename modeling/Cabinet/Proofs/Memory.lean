import Cabinet.Memory

/-!
# Blocks of memory

Bytes that are copied to a block change nothing outside it. What they leave in it
does not depend on what was there, and a block that is copied to where it is
changes nothing at all. Of the bytes that come to one address the last one is there
in the end. All this holds for blocks of any length, past the last address and over
themselves.
-/

namespace Cabinet.Memory

/-- An address among `count` consecutive ones, which may go past the last address. -/
def InBlock (start : UInt16) (count : Nat) (address : UInt16) : Prop :=
  ∃ index < count, address = start + UInt16.ofNat index

theorem add_ofNat_zero (start : UInt16) : start + UInt16.ofNat 0 = start :=
  UInt16.add_zero start

theorem add_ofNat_succ (start : UInt16) (index : Nat) :
    start + UInt16.ofNat (index + 1) = start + 1 + UInt16.ofNat index := by
  rw [UInt16.ofNat_add, UInt16.add_assoc, UInt16.add_comm (UInt16.ofNat index)]
  rfl

theorem readRange_eq (memory : Memory) (start : UInt16) (count : Nat) :
    memory.readRange start count =
      (List.range count).map fun index => memory.read (start + UInt16.ofNat index) := by
  simp only [readRange, addressAt_eq]

theorem readRange_succ (memory : Memory) (start : UInt16) (count : Nat) :
    memory.readRange start (count + 1) =
      memory.read start :: memory.readRange (start + 1) count := by
  rw [readRange_eq, List.range_succ_eq_map, List.map_cons, List.map_map, add_ofNat_zero,
    readRange_eq]
  congr 1
  apply List.map_congr_left
  intro index _
  exact congrArg memory.read (add_ofNat_succ start index)

theorem length_readRange (memory : Memory) (start : UInt16) (count : Nat) :
    (memory.readRange start count).length = count := by
  rw [readRange_eq, List.length_map, List.length_range]

theorem readRange_add (memory : Memory) (start : UInt16) (first second : Nat) :
    memory.readRange start (first + second) =
      memory.readRange start first ++ memory.readRange (start + UInt16.ofNat first) second := by
  rw [readRange_eq, List.range_add, List.map_append, List.map_map, readRange_eq, readRange_eq]
  congr 1
  apply List.map_congr_left
  intro index _
  rw [Function.comp_apply, UInt16.ofNat_add, UInt16.add_assoc]

theorem getElem?_readRange (memory : Memory) (start : UInt16) {count index : Nat}
    (inside : index < count) :
    (memory.readRange start count)[index]? = some (memory.read (start + UInt16.ofNat index)) := by
  rw [readRange_eq, List.getElem?_map, List.getElem?_range inside, Option.map_some]

/-- A block is its first address and the block behind it. -/
theorem inBlock_succ_iff {start address : UInt16} {count : Nat} :
    InBlock start (count + 1) address ↔ address = start ∨ InBlock (start + 1) count address := by
  constructor
  · rintro ⟨index, bound, rfl⟩
    cases index with
    | zero => exact Or.inl (add_ofNat_zero start)
    | succ index =>
        exact Or.inr ⟨index, Nat.lt_of_succ_lt_succ bound, add_ofNat_succ start index⟩
  · rintro (rfl | ⟨index, bound, rfl⟩)
    · exact ⟨0, Nat.succ_pos count, (add_ofNat_zero address).symm⟩
    · exact ⟨index + 1, Nat.succ_lt_succ bound, (add_ofNat_succ start index).symm⟩

theorem toNat_add_ofNat {start : UInt16} {index : Nat} (fits : start.toNat + index < 65536) :
    (start + UInt16.ofNat index).toNat = start.toNat + index := by
  rw [UInt16.toNat_add, UInt16.toNat_ofNat', Nat.add_mod_mod]
  exact Nat.mod_eq_of_lt fits

/-- An address that is reached without going past the last one. -/
theorem add_ofNat_eq {start address : UInt16} {index : Nat}
    (here : start.toNat + index = address.toNat) : start + UInt16.ofNat index = address := by
  have small := address.toNat_lt
  rw [← UInt16.toNat_inj, toNat_add_ofNat (by omega), here]

/-- A block that does not go past the last address is an interval. -/
theorem inBlock_iff {start address : UInt16} {count : Nat} (fits : start.toNat + count ≤ 65536) :
    InBlock start count address ↔
      start.toNat ≤ address.toNat ∧ address.toNat < start.toNat + count := by
  constructor
  · rintro ⟨index, bound, rfl⟩
    rw [toNat_add_ofNat (by omega)]
    omega
  · rintro ⟨above, below⟩
    have here : start.toNat + (address.toNat - start.toNat) = address.toNat := by omega
    exact ⟨address.toNat - start.toNat, by omega, (add_ofNat_eq here).symm⟩

/-- Behind a block there is none of its addresses, up to where the block begins again. -/
theorem not_inBlock_of_le {start : UInt16} {count index : Nat} (behind : count ≤ index)
    (bound : index < 65536) : ¬ InBlock start count (start + UInt16.ofNat index) := by
  rintro ⟨other, inside, same⟩
  rw [← UInt16.toNat_inj, UInt16.toNat_add, UInt16.toNat_add, UInt16.toNat_ofNat',
    UInt16.toNat_ofNat'] at same
  have small := start.toNat_lt
  omega

/-- No block comes back to its first address before it fills all of memory. -/
theorem not_inBlock_behind {start : UInt16} {count : Nat} (fits : count < 65536) :
    ¬ InBlock (start + 1) count start := by
  rintro ⟨index, bound, same⟩
  rw [← add_ofNat_succ, ← UInt16.toNat_inj, UInt16.toNat_add, UInt16.toNat_ofNat'] at same
  have small := start.toNat_lt
  omega

/-- A block shows only what is at its own addresses. -/
theorem readRange_congr {first second : Memory} {start : UInt16} {count : Nat}
    (same : ∀ address, InBlock start count address → first.read address = second.read address) :
    first.readRange start count = second.readRange start count := by
  rw [readRange_eq, readRange_eq]
  apply List.map_congr_left
  intro index inside
  exact same _ ⟨index, List.mem_range.mp inside, rfl⟩

/-- A byte that is written elsewhere is not seen in a block. -/
theorem readRange_write_outside (memory : Memory) {start address : UInt16} {count : Nat}
    (value : UInt8) (outside : ¬ InBlock start count address) :
    (memory.write address value).readRange start count = memory.readRange start count := by
  apply readRange_congr
  rintro other inside
  apply read_write_of_ne
  rintro rfl
  exact outside inside

/-! ## Overwritten addresses -/

/--
A change of memory that is confined to some addresses. What it leaves at these does not
depend on what was there.
-/
structure Overwrites (covers : UInt16 → Prop) (change : Memory → Memory) : Prop where
  inside : ∀ (memory other : Memory) (address : UInt16), covers address →
    (change memory).read address = (change other).read address
  outside : ∀ (memory : Memory) (address : UInt16), ¬ covers address →
    (change memory).read address = memory.read address

/-- No change is one of no addresses. -/
theorem overwrites_none {covers : UInt16 → Prop} (never : ∀ address, ¬ covers address) :
    Overwrites covers fun memory => memory where
  inside _ _ address covered := absurd covered (never address)
  outside _ _ _ := rfl

namespace Overwrites

variable {covers others : UInt16 → Prop} {change next : Memory → Memory}

theorem seq (first : Overwrites covers change) (second : Overwrites others next) :
    Overwrites (fun address => covers address ∨ others address) fun memory =>
      next (change memory) where
  inside := by
    intro memory other address covered
    by_cases again : others address
    · exact second.inside _ _ address again
    · rw [second.outside _ address again, second.outside _ address again]
      exact first.inside memory other address (covered.resolve_right again)
  outside := by
    intro memory address beyond
    rw [not_or] at beyond
    rw [second.outside _ address beyond.2]
    exact first.outside memory address beyond.1

/-- A change of some of the addresses behind a change of all of them. -/
theorem andThen (first : Overwrites covers change) (second : Overwrites others next)
    (within : ∀ address, others address → covers address) :
    Overwrites covers fun memory => next (change memory) := by
  have all : (fun address => covers address ∨ others address) = covers :=
    funext fun address => propext (or_iff_left_of_imp (within address))
  have both := first.seq second
  rwa [all] at both

/-- Nothing remains of a change of the same addresses. -/
theorem absorbs (second : Overwrites covers next) (first : Overwrites covers change)
    (memory : Memory) : next (change memory) = next memory := by
  apply ext_read
  intro address
  by_cases covered : covers address
  · exact second.inside _ _ address covered
  · rw [second.outside _ address covered, second.outside _ address covered]
    exact first.outside memory address covered

/-- Changes that have no address in common may trade places. -/
theorem comm (first : Overwrites covers change) (second : Overwrites others next)
    (apart : ∀ address, covers address → ¬ others address) (memory : Memory) :
    change (next memory) = next (change memory) := by
  apply ext_read
  intro address
  by_cases covered : covers address
  · rw [second.outside _ address (apart address covered)]
    exact first.inside _ _ address covered
  · rw [first.outside _ address covered]
    by_cases changed : others address
    · exact second.inside _ _ address changed
    · rw [second.outside _ address changed, second.outside _ address changed]
      exact (first.outside memory address covered).symm

end Overwrites

/-- Changes in order, each at addresses of its own or of others. -/
theorem overwrites_foldl {α : Type} {change : Memory → α → Memory} {covers : α → UInt16 → Prop}
    (each : ∀ value, Overwrites (covers value) fun memory => change memory value)
    (values : List α) :
    Overwrites (fun address => ∃ value ∈ values, covers value address) fun memory =>
      values.foldl change memory := by
  induction values with
  | nil => exact overwrites_none fun address ⟨value, given, _⟩ => List.not_mem_nil given
  | cons value values ih =>
      simp only [List.mem_cons, exists_eq_or_imp, List.foldl_cons]
      exact (each value).seq ih

/-! ## Copied blocks -/

theorem overwrites_write (address : UInt16) (value : UInt8) :
    Overwrites (fun other => other = address) fun memory => memory.write address value where
  inside := by
    rintro memory other _ rfl
    rw [read_write_same, read_write_same]
  outside := by
    intro memory other elsewhere
    exact read_write_of_ne memory value (Ne.symm elsewhere)

/-- Copying overwrites the whole block. -/
theorem overwrites_load (start : UInt16) (values : List UInt8) :
    Overwrites (InBlock start values.length) fun memory => memory.load start values := by
  induction values generalizing start with
  | nil => exact overwrites_none fun address ⟨index, bound, _⟩ => Nat.not_lt_zero index bound
  | cons value values ih =>
      have block : InBlock start (values.length + 1) =
          fun address => address = start ∨ InBlock (start + 1) values.length address :=
        funext fun address => propext inBlock_succ_iff
      rw [List.length_cons, block]
      -- The rest of a long block may come back to its first address.
      exact (overwrites_write start value).seq (ih (start + 1))

/-- Bytes are copied into their block only. -/
theorem read_load_outside (memory : Memory) {start address : UInt16} {values : List UInt8}
    (outside : ¬ InBlock start values.length address) :
    (memory.load start values).read address = memory.read address :=
  (overwrites_load start values).outside memory address outside

/-- A byte that no later one of a block comes to is found where it was copied to. -/
theorem read_load_last (memory : Memory) (start : UInt16) {values : List UInt8} {index : Nat}
    (inside : index < values.length) (last : values.length ≤ index + 65536) :
    (memory.load start values).read (start + UInt16.ofNat index) = values[index] := by
  induction values generalizing memory start index with
  | nil => exact absurd inside (Nat.not_lt_zero index)
  | cons value values ih =>
      rw [List.length_cons] at inside last
      cases index with
      | zero =>
          have outside : ¬ InBlock (start + 1) values.length start :=
            not_inBlock_behind (by omega)
          rw [add_ofNat_zero, load, read_load_outside _ outside]
          exact read_write_same memory start value
      | succ index =>
          rw [add_ofNat_succ]
          exact ih _ _ (Nat.lt_of_succ_lt_succ inside) (by omega)

/-- Bytes that do not fill all of memory are found where they were copied to. -/
theorem read_load_getElem (memory : Memory) (start : UInt16) {values : List UInt8}
    (fits : values.length ≤ 65536) {index : Nat} (inside : index < values.length) :
    (memory.load start values).read (start + UInt16.ofNat index) = values[index] :=
  memory.read_load_last start inside (Nat.le_add_left_of_le fits)

/-- They are read back as a block. -/
theorem readRange_load (memory : Memory) (start : UInt16) {values : List UInt8}
    (fits : values.length ≤ 65536) :
    (memory.load start values).readRange start values.length = values := by
  apply List.ext_getElem (length_readRange _ _ _)
  intro index _ inside
  apply Option.some_inj.mp
  rw [← List.getElem?_eq_getElem, getElem?_readRange _ _ inside,
    read_load_getElem memory start fits inside]

/-- Bytes that are copied elsewhere are not seen in a block. -/
theorem readRange_load_outside (memory : Memory) {start other : UInt16} {count : Nat}
    {values : List UInt8}
    (apart : ∀ index < count, ¬ InBlock other values.length (start + UInt16.ofNat index)) :
    (memory.load other values).readRange start count = memory.readRange start count := by
  apply readRange_congr
  rintro address ⟨index, inside, rfl⟩
  exact memory.read_load_outside (apart index inside)

theorem fill_succ (memory : Memory) (start : UInt16) (count : Nat) (value : UInt8) :
    memory.fill start (count + 1) value =
      (memory.write start value).fill (start + 1) count value := by
  simp only [fill, addressAt_eq]
  rw [List.range_succ_eq_map, List.foldl_cons, List.foldl_map, add_ofNat_zero]
  simp only [Nat.succ_eq_add_one, add_ofNat_succ]

/-- Counting the addresses with a word comes to the same as counting them from the start. -/
theorem fill_eq_load (memory : Memory) (start : UInt16) (count : Nat) (value : UInt8) :
    memory.fill start count value = memory.load start (List.replicate count value) := by
  induction count generalizing memory start with
  | zero => rfl
  | succ count ih => rw [fill_succ, ih, List.replicate_succ, load]

theorem overwrites_fill (start : UInt16) (count : Nat) (value : UInt8) :
    Overwrites (InBlock start count) fun memory => memory.fill start count value := by
  have copied := overwrites_load start (List.replicate count value)
  rw [List.length_replicate] at copied
  simpa only [fill_eq_load] using copied

theorem read_fill_inside (memory : Memory) (start : UInt16) {count : Nat} (value : UInt8)
    (fits : count ≤ 65536) {index : Nat} (inside : index < count) :
    (memory.fill start count value).read (start + UInt16.ofNat index) = value := by
  rw [fill_eq_load, read_load_getElem _ _ (by rwa [List.length_replicate])
    (by rwa [List.length_replicate]), List.getElem_replicate]

/-- Writing the byte that is there already changes nothing. -/
theorem write_read (memory : Memory) (address : UInt16) :
    memory.write address (memory.read address) = memory := by
  apply ext_read
  intro other
  rw [read_write]
  split
  · rename_i same
    rw [same]
  · rfl

/-- Copying a block to where it is changes nothing. -/
theorem load_readRange (memory : Memory) (start : UInt16) (count : Nat) :
    memory.load start (memory.readRange start count) = memory := by
  induction count generalizing start with
  | zero => rfl
  | succ count ih => rw [readRange_succ, load, write_read, ih]

/-- Nor do many blocks, one after another. -/
theorem foldl_load_self {α : Type} (start : α → UInt16) (count : α → Nat) (memory : Memory)
    (blocks : List α) :
    blocks.foldl (fun other block =>
      other.load (start block) (memory.readRange (start block) (count block))) memory = memory := by
  induction blocks with
  | nil => rfl
  | cons block blocks ih => rw [List.foldl_cons, load_readRange, ih]

/-! ## Stored bytes -/

/-- The memory after bytes are stored in order, each at its own address. -/
def store (memory : Memory) (bytes : List (UInt16 × UInt8)) : Memory :=
  bytes.foldl (fun memory byte => memory.write byte.1 byte.2) memory

theorem store_cons (memory : Memory) (address : UInt16) (value : UInt8)
    (bytes : List (UInt16 × UInt8)) :
    memory.store ((address, value) :: bytes) = (memory.write address value).store bytes := rfl

theorem store_append (memory : Memory) (first second : List (UInt16 × UInt8)) :
    memory.store (first ++ second) = (memory.store first).store second :=
  List.foldl_append

/-- An address at which nothing is stored. -/
theorem read_store_elsewhere (memory : Memory) {bytes : List (UInt16 × UInt8)} {address : UInt16}
    (free : address ∉ bytes.map Prod.fst) :
    (memory.store bytes).read address = memory.read address := by
  induction bytes generalizing memory with
  | nil => rfl
  | cons byte bytes ih =>
      rw [List.map_cons, List.mem_cons, not_or] at free
      obtain ⟨place, value⟩ := byte
      rw [store_cons, ih _ free.2, read_write_of_ne _ _ (Ne.symm free.1)]

/-- Bytes at different addresses are all there in the end. -/
theorem read_store_of_mem (memory : Memory) {bytes : List (UInt16 × UInt8)}
    (apart : (bytes.map Prod.fst).Nodup) {address : UInt16} {value : UInt8}
    (stored : (address, value) ∈ bytes) : (memory.store bytes).read address = value := by
  induction bytes generalizing memory with
  | nil => cases stored
  | cons byte bytes ih =>
      obtain ⟨place, first⟩ := byte
      rw [List.map_cons, List.nodup_cons] at apart
      rw [store_cons]
      rcases List.mem_cons.mp stored with same | later
      · cases same
        rw [read_store_elsewhere _ apart.1, read_write_same]
      · exact ih _ apart.2 later

/-- Of the bytes that are stored at an address the last one is there in the end. -/
theorem read_store (memory : Memory) (bytes : List (UInt16 × UInt8)) (address : UInt16) :
    (memory.store bytes).read address =
      (bytes.reverse.lookup address).getD (memory.read address) := by
  induction bytes generalizing memory with
  | nil => rfl
  | cons byte bytes ih =>
      obtain ⟨place, value⟩ := byte
      rw [store_cons, ih, List.reverse_cons, List.lookup_append]
      cases bytes.reverse.lookup address with
      | some later => rfl
      | none =>
          rw [read_write, Option.none_or, List.lookup_cons]
          by_cases here : place = address
          · subst here
            rw [if_pos rfl, beq_self_eq_true]
            rfl
          · have elsewhere : (address == place) = false := beq_eq_false_iff_ne.mpr (Ne.symm here)
            rw [if_neg here, elsewhere]
            rfl

/-- The bytes of a block, each with the address that it is copied to. -/
def addressed (start : UInt16) (values : List UInt8) : List (UInt16 × UInt8) :=
  values.mapIdx fun index value => (start + UInt16.ofNat index, value)

theorem addressed_cons (start : UInt16) (value : UInt8) (values : List UInt8) :
    addressed start (value :: values) = (start, value) :: addressed (start + 1) values := by
  rw [addressed, List.mapIdx_cons, add_ofNat_zero, addressed]
  congr 2
  funext index value
  rw [add_ofNat_succ]

theorem load_eq_store (memory : Memory) (start : UInt16) (values : List UInt8) :
    memory.load start values = memory.store (addressed start values) := by
  induction values generalizing memory start with
  | nil => rfl
  | cons value values ih => rw [load, ih, addressed_cons, store_cons]

end Cabinet.Memory
