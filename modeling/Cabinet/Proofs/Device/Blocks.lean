import Cabinet.Device.SystemBus
import Cabinet.Proofs.Memory

/-!
# Blocks on the bus

Blocks of bytes are copied to memory, filled and read out on the bus. The processor
sees each byte of a block at the address that counts from the start of the block,
modulo the size of memory. Copying counts the addresses with a word that wraps, the
other two with a remainder; they agree for blocks of any length. So blocks that were
read out of one memory restore it, in any order and over each other.
-/

namespace Cabinet

namespace Memory

/-- The byte at an index of a block comes to an address. -/
def ComesTo (start : UInt16) (index : Nat) (address : UInt16) : Prop :=
  address.toNat = (start.toNat + index) % 65536

theorem comesTo_iff {start address : UInt16} {index : Nat} :
    ComesTo start index address ↔ address = start + UInt16.ofNat index := by
  rw [← addressAt_eq, ← UInt16.toNat_inj, toNat_addressAt]
  rfl

theorem inBlock_iff_comesTo {start address : UInt16} {count : Nat} :
    InBlock start count address ↔ ∃ index < count, ComesTo start index address := by
  simp only [InBlock, comesTo_iff]

/-- A block that fills all of memory comes to every address, for the last time at some index. -/
theorem exists_last {count : Nat} (long : 65536 ≤ count) (start address : UInt16) :
    ∃ index < count, ComesTo start index address ∧ count ≤ index + 65536 := by
  have small := address.toNat_lt
  let first := start.toNat + (count - 65536)
  let behind := (address.toNat + 65536 - first % 65536) % 65536
  have near : behind < 65536 := Nat.mod_lt _ (by decide)
  refine ⟨count - 65536 + behind, by omega, ?_, by omega⟩
  have here : (first + behind) % 65536 = address.toNat := by omega
  rw [ComesTo, ← Nat.add_assoc]
  exact here.symm

/-- No block comes twice to one address within the size of memory. -/
theorem ComesTo.not_later {start address : UInt16} {index later : Nat}
    (here : ComesTo start index address) (behind : index < later) (near : later < index + 65536) :
    ¬ ComesTo start later address := by
  intro again
  unfold ComesTo at here again
  omega

/-- Blocks of a memory that are copied over one another to another memory restore it. -/
theorem foldl_load_readRange (original : Memory) {other : Memory} {blocks : List (UInt16 × Nat)}
    (agree : ∀ address, (∀ block ∈ blocks, ¬ InBlock block.1 block.2 address) →
      other.read address = original.read address) :
    blocks.foldl (fun memory block =>
      memory.load block.1 (original.readRange block.1 block.2)) other = original := by
  have each (block : UInt16 × Nat) : Overwrites (InBlock block.1 block.2) fun memory =>
      memory.load block.1 (original.readRange block.1 block.2) := by
    have copied := overwrites_load block.1 (original.readRange block.1 block.2)
    rwa [length_readRange] at copied
  have all := overwrites_foldl each blocks
  -- The blocks leave the same bytes in the memory that they were read from, where they are idle.
  have idle := original.foldl_load_self Prod.fst Prod.snd blocks
  apply ext_read
  intro address
  by_cases covered : ∃ block ∈ blocks, InBlock block.1 block.2 address
  · rw [all.inside other original address covered, idle]
  · rw [all.outside other address covered]
    exact agree address fun block listed inside => covered ⟨block, listed, inside⟩

end Memory

namespace SystemBus

open Memory (ComesTo)

/--
What the operations on blocks and the accesses of the processor have to do with each other.
Copying is the same as writing the bytes one after another; of the bytes of a block that is
longer than memory the last one for each address stays. Blocks of this bus restore its
memory where that differs in these blocks at most.
-/
structure BlocksAgree (bus : SystemBus) : Prop where
  written : ∀ start values, bus.load start values =
    (Memory.addressed start values).foldl (fun bus byte => Bus.write bus byte.1 byte.2) bus
  copied : ∀ start (values : List UInt8), values.length ≤ 65536 → ∀ index address,
    ComesTo start index address → ∀ inside : index < values.length,
      Bus.read (bus.load start values) address = values[index]
  kept : ∀ start (values : List UInt8) address,
    (∀ index < values.length, ¬ ComesTo start index address) →
      Bus.read (bus.load start values) address = Bus.read bus address
  last : ∀ start (values : List UInt8), 65536 < values.length → ∀ address,
    ∃ index, ∃ inside : index < values.length, ComesTo start index address ∧
      (∀ later < values.length, index < later → ¬ ComesTo start later address) ∧
        Bus.read (bus.load start values) address = values[index]
  seen : ∀ start count index address, index < count → ComesTo start index address →
    (bus.readRange start count)[index]? = some (Bus.read bus address)
  readBack : ∀ start (values : List UInt8), values.length ≤ 65536 →
    (bus.load start values).readRange start values.length = values
  filled : ∀ start count value,
    bus.fill start count value = bus.load start (List.replicate count value)
  restored : ∀ (other : SystemBus) (blocks : List (UInt16 × Nat)),
    (∀ address, (∀ block ∈ blocks, ∀ index < block.2, ¬ ComesTo block.1 index address) →
      Bus.read other address = Bus.read bus address) →
        blocks.foldl (fun other block => other.load block.1 (bus.readRange block.1 block.2)) other =
          { other with memory := bus.memory }

theorem foldl_write (bus : SystemBus) (bytes : List (UInt16 × UInt8)) :
    bytes.foldl (fun bus byte => Bus.write bus byte.1 byte.2) bus =
      { bus with memory := bus.memory.store bytes } := by
  induction bytes generalizing bus with
  | nil => rfl
  | cons byte bytes ih => exact ih _

theorem foldl_load (bus other : SystemBus) (blocks : List (UInt16 × Nat)) :
    blocks.foldl (fun other block => other.load block.1 (bus.readRange block.1 block.2)) other =
      { other with
        memory := blocks.foldl (fun memory block =>
          memory.load block.1 (bus.memory.readRange block.1 block.2)) other.memory } := by
  induction blocks generalizing other with
  | nil => rfl
  | cons block blocks ih => exact ih _

/--
The operations on blocks agree with each other and with the processor's accesses, for
blocks of any length that start anywhere.
-/
theorem blocks_agree (bus : SystemBus) : bus.BlocksAgree where
  written := by
    intro start values
    rw [foldl_write, ← Memory.load_eq_store]
    rfl
  copied := by
    intro start values fits index address here inside
    rw [Memory.comesTo_iff] at here
    subst here
    exact bus.memory.read_load_getElem start fits inside
  kept := by
    intro start values address outside
    apply bus.memory.read_load_outside
    rw [Memory.inBlock_iff_comesTo]
    rintro ⟨index, inside, here⟩
    exact outside index inside here
  last := by
    intro start values long address
    obtain ⟨index, inside, here, last⟩ := Memory.exists_last (Nat.le_of_lt long) start address
    refine ⟨index, inside, here, ?_, ?_⟩
    · intro later bound behind
      exact here.not_later behind (Nat.lt_of_lt_of_le bound last)
    · rw [Memory.comesTo_iff] at here
      subst here
      exact bus.memory.read_load_last start inside last
  seen := by
    intro start count index address inside here
    rw [Memory.comesTo_iff] at here
    subst here
    exact bus.memory.getElem?_readRange start inside
  readBack := by
    intro start values fits
    exact bus.memory.readRange_load start fits
  filled := by
    intro start count value
    rw [fill, Memory.fill_eq_load]
    rfl
  restored := by
    intro other blocks agree
    have same : ∀ address, (∀ block ∈ blocks, ¬ Memory.InBlock block.1 block.2 address) →
        other.memory.read address = bus.memory.read address := by
      intro address outside
      refine agree address fun block listed index inside here => ?_
      exact outside block listed (Memory.inBlock_iff_comesTo.mpr ⟨index, inside, here⟩)
    rw [foldl_load, bus.memory.foldl_load_readRange same]

end SystemBus

end Cabinet
