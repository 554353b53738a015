/-!
# Memory

One byte for each of the 65536 addresses. Addresses are 16-bit words, so every
address is valid and address arithmetic wraps. Blocks of bytes are copied in,
read out and filled address by address, past the last address to the first.
-/

namespace Cabinet

/-- The number of addresses. -/
def memorySize : Nat := 65536

/-- The contents of the whole address space. -/
structure Memory where
  cells : Vector UInt8 65536
deriving DecidableEq

namespace Memory

/-- Every byte is zero. -/
def zero : Memory :=
  ⟨Vector.replicate 65536 0⟩

def read (memory : Memory) (address : UInt16) : UInt8 :=
  have bound : address.toNat < 65536 := address.toNat_lt
  memory.cells[address.toNat]

def write (memory : Memory) (address : UInt16) (value : UInt8) : Memory :=
  ⟨memory.cells.set address.toNat value address.toNat_lt⟩

/-- The little-endian word whose low byte is at `address`. -/
def readWord (memory : Memory) (address : UInt16) : UInt16 :=
  (memory.read (address + 1)).toUInt16 <<< 8 ||| (memory.read address).toUInt16

/-- Copy bytes to consecutive addresses, wrapping past the last one. -/
def load (memory : Memory) (start : UInt16) : List UInt8 → Memory
  | [] => memory
  | value :: values => (memory.write start value).load (start + 1) values

/-- The address `index` places behind `start`; behind the last address comes the first. -/
def addressAt (start : UInt16) (index : Nat) : UInt16 :=
  UInt16.ofNat ((start.toNat + index) % memorySize)

/-- Set `count` consecutive bytes to one value, wrapping past the last address. -/
def fill (memory : Memory) (start : UInt16) (count : Nat) (value : UInt8) : Memory :=
  (List.range count).foldl (fun memory index => memory.write (addressAt start index) value) memory

/-- Set every byte to zero. -/
def clear (memory : Memory) : Memory :=
  ⟨memory.cells.map fun _ => 0⟩

/-- The bytes at `count` consecutive addresses, wrapping past the last one. -/
def readRange (memory : Memory) (start : UInt16) (count : Nat) : List UInt8 :=
  (List.range count).map fun index => memory.read (addressAt start index)

theorem toNat_addressAt (start : UInt16) (index : Nat) :
    (addressAt start index).toNat = (start.toNat + index) % memorySize := by
  rw [addressAt, UInt16.toNat_ofNat']
  exact Nat.mod_mod _ _

/-- An address that counts modulo the size of memory is a word that wraps. -/
theorem addressAt_eq (start : UInt16) (index : Nat) :
    addressAt start index = start + UInt16.ofNat index := by
  rw [← UInt16.toNat_inj, toNat_addressAt, UInt16.toNat_add, UInt16.toNat_ofNat', Nat.add_mod_mod]
  rfl

@[simp] theorem read_zero (address : UInt16) : zero.read address = 0 := by
  simp [read, zero]

theorem read_write (memory : Memory) (address other : UInt16) (value : UInt8) :
    (memory.write address value).read other =
      if address = other then value else memory.read other := by
  simp only [read, write, Vector.getElem_set, UInt16.toNat_inj]

@[simp] theorem read_write_same (memory : Memory) (address : UInt16) (value : UInt8) :
    (memory.write address value).read address = value := by
  simp [read_write]

theorem read_write_of_ne (memory : Memory) {address other : UInt16} (value : UInt8)
    (apart : address ≠ other) : (memory.write address value).read other = memory.read other := by
  simp [read_write, apart]

/-- Two memories with the same byte at every address are equal. -/
theorem ext_read {first second : Memory}
    (same : ∀ address, first.read address = second.read address) : first = second := by
  obtain ⟨cells⟩ := first
  obtain ⟨others⟩ := second
  congr
  apply Vector.ext
  intro index bound
  have := same (UInt16.ofNat index)
  simpa [read, Nat.mod_eq_of_lt bound] using this

theorem clear_eq_zero (memory : Memory) : memory.clear = zero := by
  apply ext_read
  intro address
  simp only [read, clear, zero, Vector.getElem_map, Vector.getElem_replicate]

end Memory

end Cabinet
