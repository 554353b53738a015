import Cabinet.Proofs.Machine.Calculating
import Cabinet.Proofs.Machine.FlagDiscipline
import Cabinet.Proofs.Memory

/-!
# Storing

A step stores two bytes at most. Which ones, and where, is settled by its opcode
and by registers and memory as they are before the step, so it does not matter
whether the bytes are stored over the instruction itself or past the last
address. The rest of memory stays as it is.
-/

namespace Cabinet

namespace Cpu

/-! ## What opcodes store -/

namespace Opcode

open Pattern

/--
What an instruction stores, and where. STAX stores the accumulator at the address in a pair,
STA and SHLD store at the address in their operand, and MOV M, MVI M, INR M and DCR M at the
address in HL. PUSH puts a pair below the stack pointer, and so do CALL, RST and a
conditional call that is taken with the address behind them. XTHL puts L and H in place of
the word on top of the stack.
-/
inductive Store where
  | nothing
  | through (pair : Pair)
  | direct
  | directPair
  | moved (source : Reg)
  | immediate
  | incremented
  | decremented
  | pushed (pair : StackPair)
  | saved (condition : Option (Fin 8))
  | exchanged
deriving DecidableEq

/-- MOV M, with any register in bits 0 to 2. -/
def storesRegister : Pattern := ⟨0xF8, 0x70⟩

def store (opcode : UInt8) : Store :=
  if opcode = 0x02 then .through .bc
  else if opcode = 0x12 then .through .de
  else if opcode = 0x22 then .directPair
  else if opcode = 0x32 then .direct
  else if opcode = 0x34 then .incremented
  else if opcode = 0x35 then .decremented
  else if opcode = 0x36 then .immediate
  else if opcode = 0x76 then .nothing
  else if storesRegister.fits opcode then .moved (.ofCode (lowerField opcode))
  else if opcode = 0xC5 then .pushed .bc
  else if opcode = 0xD5 then .pushed .de
  else if opcode = 0xE5 then .pushed .hl
  else if opcode = pushPsw then .pushed .psw
  else if opcode = 0xCD then .saved none
  else if (anyField 0xC4).fits opcode then .saved (some (upperField opcode))
  else if (anyField 0xC7).fits opcode then .saved none
  else if opcode = 0xE3 then .exchanged
  else .nothing

end Opcode

namespace Instruction

/-- What an instruction stores, and where. -/
def store : Instruction → Opcode.Store
  | .stax pair => .through pair
  | .sta => .direct
  | .shld => .directPair
  | .mov .m source => .moved source
  | .mvi .m => .immediate
  | .inr .m => .incremented
  | .dcr .m => .decremented
  | .push pair => .pushed pair
  | .call | .rst _ => .saved none
  | .ccc cond => .saved (some cond.code)
  | .xthl => .exchanged
  | _ => .nothing

theorem store_ofOpcode (opcode : UInt8) : (ofOpcode opcode).store = Opcode.store opcode := by
  rw [ofOpcode_eq_decode]
  revert opcode
  exact Opcode.forall_opcode (by decide +kernel)

end Instruction

theorem hl_incrementFlags (cpu : Cpu) (value : UInt8) :
    (cpu.incrementFlags value).hl = cpu.hl := by
  rw [incrementFlags_eq]
  rfl

theorem hl_decrementFlags (cpu : Cpu) (value : UInt8) :
    (cpu.decrementFlags value).hl = cpu.hl := by
  rw [decrementFlags_eq]
  rfl

end Cpu

namespace Machine

open Cpu
open Cpu.Opcode (Store)

variable {β : Type}

/-- A word below the stack pointer, its high byte first. -/
def below (machine : Machine β) (word : UInt16) : List (UInt16 × UInt8) :=
  [(machine.cpu.sp - 1, highByte word), (machine.cpu.sp - 2, lowByte word)]

theorem nodup_below (machine : Machine β) (word : UInt16) :
    ((machine.below word).map Prod.fst).Nodup := by
  have apart : machine.cpu.sp - 1 ≠ machine.cpu.sp - 2 := by
    grind
  simp [below, apart]

variable [Bus β]

/-- The bytes that an instruction at the program counter stores, if `next` is behind it. -/
def bytesOf (machine : Machine β) (next : UInt16) : Store → List (UInt16 × UInt8)
  | .nothing => []
  | .through pair => [(machine.cpu.pair pair, machine.cpu.a)]
  | .direct => [(machine.readWord (machine.cpu.pc + 1), machine.cpu.a)]
  | .directPair =>
      let address := machine.readWord (machine.cpu.pc + 1)
      [(address, machine.cpu.l), (address + 1, machine.cpu.h)]
  | .moved source => [(machine.cpu.hl, machine.reg source)]
  | .immediate => [(machine.cpu.hl, machine.read (machine.cpu.pc + 1))]
  | .incremented => [(machine.cpu.hl, machine.read machine.cpu.hl + 1)]
  | .decremented => [(machine.cpu.hl, machine.read machine.cpu.hl - 1)]
  | .pushed pair => machine.below (machine.cpu.stackPair pair)
  | .saved condition =>
      if condition.all (Opcode.met machine.cpu.flags) then machine.below next else []
  | .exchanged =>
      [(machine.cpu.sp, machine.cpu.l), (machine.cpu.sp + 1, machine.cpu.h)]

/-- The bytes that the next step stores, in order. -/
def stores (machine : Machine β) : List (UInt16 × UInt8) :=
  match machine.cpu.serviceable, machine.executed? with
  | some _, _ => machine.below machine.cpu.pc
  | none, some opcode => machine.bytesOf (machine.behind opcode) (Opcode.store opcode)
  | none, none => []

theorem next_ne (address : UInt16) : address + 1 ≠ address := by
  grind

/-- No instruction stores at one address twice. -/
theorem nodup_bytesOf (machine : Machine β) (next : UInt16) (store : Store) :
    ((machine.bytesOf next store).map Prod.fst).Nodup := by
  cases store with
  | directPair | exchanged => simp [bytesOf, (next_ne _).symm]
  | pushed pair => exact machine.nodup_below _
  | saved condition =>
      simp only [bytesOf]
      split
      · exact machine.nodup_below next
      · exact List.nodup_nil
  | _ => simp [bytesOf]

theorem nodup_stores (machine : Machine β) : (machine.stores.map Prod.fst).Nodup := by
  unfold stores
  split
  · exact machine.nodup_below _
  · exact machine.nodup_bytesOf _ _
  · exact List.nodup_nil

theorem length_bytesOf_le (machine : Machine β) (next : UInt16) (store : Store) :
    (machine.bytesOf next store).length ≤ 2 := by
  cases store with
  | saved condition =>
      simp only [bytesOf]
      split <;> simp [below]
  | _ => simp [bytesOf, below]

theorem length_stores_le (machine : Machine β) : machine.stores.length ≤ 2 := by
  unfold stores
  split
  · simp [below]
  · exact machine.length_bytesOf_le _ _
  · simp

/-! ## Instructions -/

variable [Bus.OverMemory β]

theorem memory_push_eq_store (machine : Machine β) (word : UInt16) :
    (machine.push word).memory = machine.memory.store (machine.below word) :=
  machine.memory_push word

/-- A new value for an operand is stored if the operand is the one in memory. -/
theorem memory_setReg (machine : Machine β) (reg : Reg) (value : UInt8) :
    (machine.setReg reg value).memory =
      if reg = .m then machine.memory.write machine.cpu.hl value else machine.memory := by
  cases reg with
  | m => exact machine.memory_write machine.cpu.hl value
  | b | c | d | e | h | l | a => rfl

/-- Marking the flags before does not move the operand in memory. -/
theorem memory_setReg_marked (machine : Machine β) {marked : Cpu}
    (kept : marked.hl = machine.cpu.hl) (reg : Reg) (value : UInt8) :
    (setReg ⟨marked, machine.bus⟩ reg value).memory =
      if reg = .m then machine.memory.write machine.cpu.hl value else machine.memory := by
  rw [← kept]
  exact memory_setReg ⟨marked, machine.bus⟩ reg value

/-- A conditional call stores the address behind it if its condition holds. -/
theorem memory_perform_ccc (machine : Machine β) (cond : Cond) (next : UInt16)
    (behind : machine.cpu.pc + (Instruction.ccc cond).length = next) :
    (machine.perform (.ccc cond)).memory =
      machine.memory.store (machine.bytesOf next (.saved (some cond.code))) := by
  have condition : (some cond.code).all (Opcode.met machine.cpu.flags) =
      (machine.jump next).cpu.holds cond := (holds_eq_met (machine.jump next).cpu cond).symm
  rw [perform, behind, execute, bytesOf, condition]
  split
  · exact memory_push_eq_store (machine.jump next) next
  · rfl

/-- What an instruction leaves of memory, operands and addresses being those before it. -/
theorem memory_perform (machine : Machine β) (instruction : Instruction) {next : UInt16}
    (behind : machine.cpu.pc + instruction.length = next) :
    (machine.perform instruction).memory =
      machine.memory.store (machine.bytesOf next instruction.store) := by
  cases instruction with
  | stax pair => exact machine.memory_write _ _
  | sta => exact machine.memory_write _ _
  | shld | xthl =>
      -- The two bytes are stored in this order.
      rw [Instruction.store, bytesOf, Memory.store_cons, Memory.store_cons, ← memory_write,
        ← memory_write]
      rfl
  | mov target source =>
      rw [perform, execute, memory_setReg, reg_jump]
      cases target <;> rfl
  | mvi reg =>
      rw [perform, execute, memory_setReg]
      cases reg <;> rfl
  | inr reg =>
      have kept := (machine.jump next).cpu.hl_incrementFlags (machine.reg reg)
      rw [perform, behind, execute, reg_jump, mapCpu]
      refine (memory_setReg_marked (machine.jump next) kept reg _).trans ?_
      cases reg <;> rfl
  | dcr reg =>
      have kept := (machine.jump next).cpu.hl_decrementFlags (machine.reg reg)
      rw [perform, behind, execute, reg_jump, mapCpu]
      refine (memory_setReg_marked (machine.jump next) kept reg _).trans ?_
      cases reg <;> rfl
  | push pair => exact memory_push_eq_store _ _
  | call | rst number =>
      rw [perform, behind]
      exact memory_push_eq_store (machine.jump next) next
  | ccc cond => exact machine.memory_perform_ccc cond next behind
  | jcc cond | rcc cond =>
      rw [perform, execute]
      split <;> rfl
  | input => exact Bus.OverMemory.memory_input _ _
  | output => exact Bus.OverMemory.memory_output _ _ _
  | _ => rfl

/-! ## Steps -/

/--
What a step does to memory. The bytes that it stores are there behind it, and no byte is
changed at another address.
-/
structure Stored (machine : Machine β) : Prop where
  memory : machine.step.2.memory = machine.memory.store machine.stores
  atMostTwo : machine.stores.length ≤ 2
  there : ∀ address value, (address, value) ∈ machine.stores →
    machine.step.2.memory.read address = value
  elsewhere : ∀ address, address ∉ machine.stores.map Prod.fst →
    machine.step.2.memory.read address = machine.memory.read address

theorem memory_step (machine : Machine β) :
    machine.step.2.memory = machine.memory.store machine.stores := by
  rcases machine.step_cases with
    ⟨vector, waits, taken⟩ | ⟨quiet, halted, taken⟩ | ⟨quiet, running, taken⟩
  · rw [taken]
    simp only [stores, waits]
    exact memory_push_eq_store _ machine.cpu.pc
  · have executed : machine.executed? = none := by
      simp [executed?, halted]
    rw [taken]
    simp only [stores, quiet, executed]
    rfl
  · have executed : machine.executed? = some (machine.read machine.cpu.pc) :=
      executed?_eq_some_iff.mpr ⟨⟨quiet, running⟩, rfl⟩
    have behind : machine.cpu.pc + machine.current.length =
        machine.behind (machine.read machine.cpu.pc) := by
      rw [current, Instruction.length_ofOpcode, Machine.behind]
    have store : machine.current.store = Opcode.store (machine.read machine.cpu.pc) :=
      Instruction.store_ofOpcode _
    -- What the instruction is does not matter any more.
    generalize machine.current = instruction at taken behind store
    have performed := machine.memory_perform instruction behind
    rw [store] at performed
    rw [taken]
    simp only [stores, quiet, executed]
    exact performed

/-- A step stores the bytes that its opcode stands for and leaves the rest of memory alone. -/
theorem step_stores (machine : Machine β) : machine.Stored where
  memory := machine.memory_step
  atMostTwo := machine.length_stores_le
  there := by
    intro address value stored
    rw [memory_step]
    exact Memory.read_store_of_mem _ machine.nodup_stores stored
  elsewhere := by
    intro address free
    rw [memory_step]
    exact Memory.read_store_elsewhere _ free

end Machine

end Cabinet
