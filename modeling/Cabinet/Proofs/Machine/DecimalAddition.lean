import Cabinet.Proofs.Cpu.Packed
import Cabinet.Proofs.Machine.Calculating
import Cabinet.Proofs.Machine.Spending
import Cabinet.Proofs.Memory
import Mathlib.Algebra.Ring.Nat

/-!
# Addition of decimal numbers

A loop of eight instructions adds a packed decimal number at DE to another one at
HL, a byte of two digits in every turn, with C as the counter of the bytes. The
carry goes from each byte to the next one through instructions that do not
change it. The loop may stand anywhere, also across the last address, and so may
both numbers.
-/

namespace Cabinet.Machine

open Cpu
open Cpu.Packed (StandsFor)

variable {β : Type} [Bus β] [Bus.OverMemory β]

/-! ## The code -/

/-- LDAX D, ADC M, DAA, MOV M A, INX D, INX H, DCR C and JNZ back to the start. -/
def additionLoop (start : UInt16) : List UInt8 :=
  [0x1A, 0x8E, 0x27, 0x77, 0x13, 0x23, 0x0D, 0xC2, lowByte start, highByte start]

/-- The opcodes of the loop as instructions. -/
def additionCode : List Instruction :=
  [.ldax .de, .alu .adc .m, .daa, .mov .m .a, .inx .de, .inx .hl, .dcr .c, .jcc .notZero]

theorem decoded_additionLoop (start : UInt16) :
    ((additionLoop start).take 8).map Instruction.ofOpcode = additionCode := by
  simp only [additionLoop, List.take, List.map, Instruction.ofOpcode_eq_decode]
  rfl

/-- The machine is about to execute one of the instructions of the loop. -/
structure InLoop (machine : Machine β) (start : UInt16) (index : Nat) : Prop where
  code : machine.memory.readRange start 10 = additionLoop start
  pc : machine.cpu.pc = start + UInt16.ofNat index
  quiet : machine.cpu.serviceable = none
  running : machine.cpu.halted = false

section

variable {machine : Machine β} {start : UInt16} {index : Nat}

/-- The bytes of the loop are found where it stands. -/
theorem InLoop.read (here : machine.InLoop start index) {offset : Nat} (inside : offset < 10) :
    (additionLoop start)[offset]? = some (machine.read (start + UInt16.ofNat offset)) := by
  rw [read_eq, ← Memory.getElem?_readRange _ _ inside, here.code]

/-- The instruction at the program counter. -/
theorem InLoop.current (here : machine.InLoop start index)
    {instruction : Instruction} (written : additionCode[index]? = some instruction) :
    machine.current = instruction := by
  have inside : index < 8 := (List.getElem?_eq_some_iff.mp written).1
  rw [← decoded_additionLoop start, List.getElem?_map, List.getElem?_take_of_lt inside,
    here.read (Nat.lt_of_lt_of_le inside (by decide)), ← here.pc, Option.map_some] at written
  exact Option.some_inj.mp written

theorem InLoop.step (here : machine.InLoop start index)
    (instruction : Instruction) (written : additionCode[index]? = some instruction) :
    machine.step = (instruction.cost machine.cpu,
      (machine.perform instruction).tick (instruction.cost machine.cpu)) := by
  rw [step_of_running here.quiet here.running, here.current written]

/-- The part of the machine that the loop works on. -/
structure Workings where
  accumulator : UInt8
  counter : UInt8
  de : UInt16
  hl : UInt16
  carry : Bool
  memory : Memory

def workings (machine : Machine β) : Workings where
  accumulator := machine.cpu.a
  counter := machine.cpu.c
  de := machine.cpu.de
  hl := machine.cpu.hl
  carry := machine.cpu.flag .carry
  memory := machine.memory

/-- An instruction that neither jumps nor changes the code hands on to the next one. -/
theorem InLoop.next (here : machine.InLoop start index)
    (instruction : Instruction) (written : additionCode[index]? = some instruction)
    (plain : instruction.length = 1 ∧ instruction.transfer = .onward)
    (steady : instruction.steer machine.cpu.control = machine.cpu.control) {rest : Workings}
    (changed : machine.step.2.workings = rest)
    (code : rest.memory.readRange start 10 = machine.memory.readRange start 10) :
    machine.step.2.InLoop start (index + 1) := by
  have kept := (machine.control_perform instruction).trans steady
  have pc : (machine.perform instruction).cpu.pc = machine.cpu.pc + 1 := by
    rw [perform, pc_execute_of_onward _ _ plain.2, plain.1]
    rfl
  have memory : machine.step.2.memory = rest.memory := congrArg Workings.memory changed
  rw [here.step instruction written] at memory ⊢
  constructor
  · rw [memory, code, here.code]
  · change (machine.perform instruction).cpu.pc = _
    rw [pc, here.pc, UInt16.add_assoc, UInt16.ofNat_add]
    rfl
  · exact (serviceable_of_control kept).trans here.quiet
  · exact (congrArg Control.halted kept).trans here.running

/-! ## The instructions -/

theorem InLoop.workings (here : machine.InLoop start index)
    (instruction : Instruction) (written : additionCode[index]? = some instruction) :
    machine.step.2.workings = (machine.perform instruction).workings := by
  rw [here.step instruction written]
  rfl

/-- A calculation in A or C leaves the rest of the workings as they are. -/
theorem Calculated.workings {calculation : Calculation} {code : Fin 8} {length : UInt16}
    (calculated : machine.Calculated calculation (some code) length)
    (target : code = 1 ∨ code = 7) :
    machine.step.2.workings = { machine.workings with
      accumulator := machine.step.2.cpu.a
      counter := machine.step.2.cpu.c
      carry := machine.step.2.cpu.flag .carry } := by
  have elsewhere : some code ≠ some 6 := by
    rcases target with rfl | rfl <;> decide
  have bus : machine.step.2.bus = machine.bus :=
    calculated.bus.trans (if_neg elsewhere)
  have memory : machine.step.2.memory = machine.memory := congrArg Bus.OverMemory.memory bus
  have de : machine.step.2.cpu.de = machine.cpu.de := by
    rw [calculated.cpu]
    rcases target with rfl | rfl <;> rfl
  have hl : machine.step.2.cpu.hl = machine.cpu.hl := by
    rw [calculated.cpu]
    rcases target with rfl | rfl <;> rfl
  rw [Machine.workings, memory, de, hl]
  rfl

theorem InLoop.load (here : machine.InLoop start 0) :
    machine.step.2.workings =
      { machine.workings with accumulator := machine.read machine.workings.de } :=
  here.workings (.ldax .de) rfl

/-- The sum of two bytes and the carry, before the adjustment. -/
theorem InLoop.add (here : machine.InLoop start 1) :
    machine.Calculated
      (.sum machine.cpu.a.toNat (machine.read machine.cpu.hl).toNat
        (machine.cpu.flag .carry).toNat) (some 7) 1 :=
  calculated_operand 1 6 (here.step (.alu .adc .m) rfl)

/-- The processor behind the adjustment, before the clock states are counted. -/
def adjusted (machine : Machine β) : Cpu :=
  (machine.jump (machine.cpu.pc + 1)).cpu.decimalAdjust

theorem InLoop.adjust (here : machine.InLoop start 2) :
    machine.step.2.workings = { machine.workings with
      accumulator := machine.adjusted.a
      carry := machine.adjusted.flag .carry } :=
  here.workings .daa rfl

/-- Two digits in the accumulator, two at HL and the carry make two digits and a carry. -/
theorem InLoop.sum (here : machine.InLoop start 1) (first : Packed.IsDigits machine.cpu.a)
    (second : Packed.IsDigits (machine.read machine.cpu.hl)) :
    machine.step.2.adjusted.DecimalSum
      (Packed.number machine.cpu.a + Packed.number (machine.read machine.cpu.hl) +
        (machine.cpu.flag .carry).toNat) := by
  have accumulator : machine.step.2.cpu.a = UInt8.ofNat ((machine.cpu.a.toNat +
      (machine.read machine.cpu.hl).toNat + (machine.cpu.flag .carry).toNat) % 256) :=
    congrArg Cpu.a here.add.cpu
  have result := congrArg UInt8.toNat accumulator
  rw [UInt8.toNat_ofNat', Nat.mod_mod] at result
  let moved := (machine.step.2.jump (machine.step.2.cpu.pc + 1)).cpu
  exact moved.decimalSum_adjusted first second (here.add.flags.congr rfl rfl) result

/-- The addition and the adjustment in a row. -/
theorem InLoop.sumAdjusted (here : machine.InLoop start 1) :
    machine.step.2.InLoop start 2 ∧ machine.step.2.step.2.InLoop start 3 ∧
      machine.step.2.step.2.workings =
      { machine.workings with
        accumulator := machine.step.2.adjusted.a
        carry := machine.step.2.adjusted.flag .carry } := by
  have added := here.add.workings (.inr rfl)
  have summed := here.next (.alu .adc .m) rfl ⟨rfl, rfl⟩ rfl added rfl
  have counter : machine.step.2.cpu.c = machine.cpu.c := by
    rw [here.add.cpu]
    rfl
  have adjusted := summed.next .daa rfl ⟨rfl, rfl⟩ rfl summed.adjust rfl
  refine ⟨summed, adjusted, ?_⟩
  rw [summed.adjust, added, counter]
  rfl

theorem InLoop.store (here : machine.InLoop start 3) :
    machine.step.2.workings = { machine.workings with
      memory :=
        machine.workings.memory.write machine.workings.hl machine.workings.accumulator } := by
  change _ = { machine.workings with memory := machine.memory.write machine.cpu.hl machine.cpu.a }
  rw [here.workings (.mov .m .a) rfl, ← memory_write]
  rfl

theorem InLoop.nextDe (here : machine.InLoop start 4) :
    machine.step.2.workings = { machine.workings with de := machine.workings.de + 1 } := by
  change _ = { machine.workings with de := machine.cpu.de + 1 }
  rw [here.workings (.inx .de) rfl,
    ← joinBytes_highByte_lowByte (machine.cpu.de + 1)]
  rfl

theorem InLoop.nextHl (here : machine.InLoop start 5) :
    machine.step.2.workings = { machine.workings with hl := machine.workings.hl + 1 } := by
  change _ = { machine.workings with hl := machine.cpu.hl + 1 }
  rw [here.workings (.inx .hl) rfl,
    ← joinBytes_highByte_lowByte (machine.cpu.hl + 1)]
  rfl

/-- The counter goes down, and the carry is kept for the next turn. -/
theorem InLoop.count (here : machine.InLoop start 6) :
    machine.step.2.workings = { machine.workings with counter := machine.workings.counter - 1 } ∧
      machine.step.2.cpu.flag .zero = (machine.workings.counter - 1 == 0) := by
  have calculated : machine.Calculated
      (.decrement machine.cpu.c.toNat (machine.cpu.flag .carry)) (some 1) 1 :=
    calculated_decrement 1 (here.step (.dcr .c) rfl)
  have result : (machine.cpu.c - 1).toNat =
      (Calculation.decrement machine.cpu.c.toNat (machine.cpu.flag .carry)).result :=
    toNat_decrement _
  have zero := calculated.flags.zero
  have carry : machine.step.2.cpu.flag .carry = machine.cpu.flag .carry := calculated.flags.carry
  have cpu := calculated.cpu
  rw [← result, UInt8.ofNat_toNat] at cpu
  rw [← result, ← zero_eq] at zero
  have accumulator : machine.step.2.cpu.a = machine.cpu.a := by
    rw [cpu]
    rfl
  have counter : machine.step.2.cpu.c = machine.cpu.c - 1 := by
    rw [cpu]
    rfl
  rw [calculated.workings (.inl rfl), accumulator, counter, carry]
  exact ⟨rfl, zero⟩

/-- The last instruction ends the loop with the zero flag and goes back to its start otherwise. -/
theorem InLoop.back (here : machine.InLoop start 7) :
    machine.step.2.workings = machine.workings ∧
      machine.step.2.InLoop start (if machine.cpu.flag .zero = true then 10 else 0) := by
  have target : machine.readWord (machine.cpu.pc + 1) = start := by
    have low : lowByte start = machine.read (start + 8) :=
      Option.some_inj.mp (here.read (by decide : 8 < 10))
    have high : highByte start = machine.read (start + 9) :=
      Option.some_inj.mp (here.read (by decide : 9 < 10))
    rw [here.pc, UInt16.add_assoc, readWord, UInt16.add_assoc]
    change joinBytes (machine.read (start + 9)) (machine.read (start + 8)) = start
    rw [← low, ← high, joinBytes_highByte_lowByte]
  have behind : machine.cpu.pc + 3 = start + UInt16.ofNat 10 := by
    rw [here.pc, UInt16.add_assoc]
    rfl
  rw [here.step (.jcc .notZero) rfl]
  cases zero : machine.cpu.flag .zero with
  | true =>
      have holds : (machine.jump (machine.cpu.pc + 3)).cpu.holds .notZero = false :=
        congrArg not zero
      have performed : machine.perform (.jcc .notZero) = machine.jump (machine.cpu.pc + 3) :=
        if_neg (Bool.eq_false_iff.mp holds)
      rw [performed, behind]
      exact ⟨rfl, here.code, rfl, here.quiet, here.running⟩
  | false =>
      have holds : (machine.jump (machine.cpu.pc + 3)).cpu.holds .notZero = true :=
        congrArg not zero
      have performed : machine.perform (.jcc .notZero) =
          machine.jump (machine.readWord (machine.cpu.pc + 1)) := if_pos holds
      rw [performed, target]
      exact ⟨rfl, here.code, (UInt16.add_zero start).symm, here.quiet, here.running⟩

/-! ## One turn -/

/-- The numbers of two digits that a turn adds, and the carry. -/
def pairTotal (machine : Machine β) : Nat :=
  Packed.number (machine.read machine.cpu.de) + Packed.number (machine.read machine.cpu.hl) +
    (machine.cpu.flag .carry).toNat

/-- What a turn leaves, with the byte that it stores. -/
structure Turned (machine : Machine β) (start : UInt16) (byte : UInt8) : Prop where
  visits : ∀ index < 8, (machine.after index).cpu.pc = start + UInt16.ofNat index
  here : (machine.after 8).InLoop start (if machine.cpu.c - 1 = 0 then 10 else 0)
  digits : Packed.IsDigits byte
  number : Packed.number byte = machine.pairTotal % 100
  workings : (machine.after 8).workings = {
    accumulator := byte
    counter := machine.cpu.c - 1
    de := machine.cpu.de + 1
    hl := machine.cpu.hl + 1
    carry := decide (100 ≤ machine.pairTotal)
    memory := machine.memory.write machine.cpu.hl byte }

/-- The two bytes and the carry that a turn finds go into its sum. -/
theorem InLoop.pairSum (here : machine.InLoop start 0) (loaded : machine.step.2.InLoop start 1)
    (first : Packed.IsDigits (machine.read machine.cpu.de))
    (second : Packed.IsDigits (machine.read machine.cpu.hl)) :
    machine.step.2.step.2.adjusted.DecimalSum machine.pairTotal := by
  have accumulator : machine.step.2.cpu.a = machine.read machine.cpu.de :=
    congrArg Workings.accumulator here.load
  have hl : machine.step.2.cpu.hl = machine.cpu.hl := congrArg Workings.hl here.load
  have carry : machine.step.2.cpu.flag .carry = machine.cpu.flag .carry :=
    congrArg Workings.carry here.load
  have memory : machine.step.2.memory = machine.memory := congrArg Workings.memory here.load
  have byte : machine.step.2.read machine.cpu.hl = machine.read machine.cpu.hl := by
    rw [read_eq, read_eq, memory]
  have sum := loaded.sum
  rw [accumulator, hl, byte, carry] at sum
  exact sum first second

theorem InLoop.turn (here : machine.InLoop start 0)
    (first : Packed.IsDigits (machine.read machine.cpu.de))
    (second : Packed.IsDigits (machine.read machine.cpu.hl))
    (apart : ¬ Memory.InBlock start 10 machine.cpu.hl) :
    ∃ byte, machine.Turned start byte := by
  -- Of the eight instructions only the fourth one stores, and not in the code.
  have loaded := here.next (.ldax .de) rfl ⟨rfl, rfl⟩ rfl here.load rfl
  obtain ⟨summed, adjusted, workings⟩ := loaded.sumAdjusted
  rw [here.load] at workings
  have sum := here.pairSum loaded first second
  have place : machine.step.2.step.2.step.2.workings.hl = machine.cpu.hl :=
    congrArg Workings.hl workings
  have stored := adjusted.next (.mov .m .a) rfl ⟨rfl, rfl⟩ rfl adjusted.store
    (Memory.readRange_write_outside _ _ (place ▸ apart))
  have pastDe := stored.next (.inx .de) rfl ⟨rfl, rfl⟩ rfl stored.nextDe rfl
  have pastHl := pastDe.next (.inx .hl) rfl ⟨rfl, rfl⟩ rfl pastDe.nextHl rfl
  obtain ⟨counted, zero⟩ := pastHl.count
  have last := pastHl.next (.dcr .c) rfl ⟨rfl, rfl⟩ rfl counted rfl
  rw [pastDe.nextHl, stored.nextDe, adjusted.store, workings, sum.carry] at counted zero
  obtain ⟨kept, back⟩ := last.back
  have eight : machine.after 8 =
      machine.step.2.step.2.step.2.step.2.step.2.step.2.step.2.step.2 := rfl
  refine ⟨machine.step.2.step.2.adjusted.a, ?_⟩
  constructor
  case visits =>
    intro index inside
    match index with
    | 0 => exact here.pc
    | 1 => exact loaded.pc
    | 2 => exact summed.pc
    | 3 => exact adjusted.pc
    | 4 => exact stored.pc
    | 5 => exact pastDe.pc
    | 6 => exact pastHl.pc
    | 7 => exact last.pc
  case here =>
    simp only [zero, beq_iff_eq] at back
    exact back
  case digits => exact sum.digits
  case number => exact sum.number
  case workings =>
    rw [eight, kept, counted]
    rfl

/-! ## All turns -/

/--
Two numbers are in place, and the loop is ready for what is left of them. The sum is written
neither over the addend nor over the code.
-/
structure Summands (machine : Machine β) (start : UInt16) (count first second : Nat) : Prop where
  counter : machine.cpu.c = UInt8.ofNat count
  addend : StandsFor (machine.memory.readRange machine.cpu.de count) first
  augend : StandsFor (machine.memory.readRange machine.cpu.hl count) second
  apart : ∀ address, Memory.InBlock machine.cpu.hl count address →
    ¬ Memory.InBlock machine.cpu.de count address ∧ ¬ Memory.InBlock start 10 address

/--
What the loop leaves of numbers with two digits in each byte, when it comes to its end for
the first time.
-/
structure SumStored (machine : Machine β) (start : UInt16) (count total : Nat) : Prop where
  here : (machine.after (8 * count)).cpu.pc = start + 10
  first : ∀ earlier < 8 * count, (machine.after earlier).cpu.pc ≠ start + 10
  sum : StandsFor ((machine.after (8 * count)).memory.readRange machine.cpu.hl count)
    (total % 100 ^ count)
  carry : (machine.after (8 * count)).cpu.flag .carry = decide (100 ^ count ≤ total)
  outside : ∀ address, ¬ Memory.InBlock machine.cpu.hl count address →
    (machine.after (8 * count)).memory.read address = machine.memory.read address

/-- The carry of a turn counts in hundreds. -/
theorem toNat_carry {total : Nat} (small : total < 200) :
    (decide (100 ≤ total)).toNat = total / 100 := by
  by_cases large : 100 ≤ total
  · rw [decide_eq_true large, Bool.toNat_true]
    omega
  · rw [decide_eq_false large, Bool.toNat_false]
    omega

theorem ofNat_counter_eq_zero_iff {count : Nat} (bound : count < 256) :
    UInt8.ofNat count = 0 ↔ count = 0 := by
  rw [← UInt8.toNat_inj, UInt8.toNat_ofNat', Nat.mod_eq_of_lt bound]
  rfl

theorem ofNat_succ_sub_one (count : Nat) : UInt8.ofNat (count + 1) - 1 = UInt8.ofNat count := by
  rw [UInt8.ofNat_add]
  exact UInt8.add_sub_cancel ..

/-- Behind a turn the summands are what is left of them. -/
theorem Turned.summands {byte : UInt8} {count first second : Nat}
    (turned : machine.Turned start byte) (bound : count < 256)
    (counter : machine.cpu.c = UInt8.ofNat (count + 1))
    (addend : StandsFor (machine.memory.readRange (machine.cpu.de + 1) count) first)
    (augend : StandsFor (machine.memory.readRange (machine.cpu.hl + 1) count) second)
    (apart : ∀ address, Memory.InBlock machine.cpu.hl (count + 1) address →
      ¬ Memory.InBlock machine.cpu.de (count + 1) address ∧ ¬ Memory.InBlock start 10 address) :
    (machine.after 8).Summands start count first second := by
  have de : (machine.after 8).cpu.de = machine.cpu.de + 1 := congrArg Workings.de turned.workings
  have hl : (machine.after 8).cpu.hl = machine.cpu.hl + 1 := congrArg Workings.hl turned.workings
  have memory : (machine.after 8).memory = machine.memory.write machine.cpu.hl byte :=
    congrArg Workings.memory turned.workings
  have behindDe {address : UInt16}
      (outside : ¬ Memory.InBlock machine.cpu.de (count + 1) address) :
      ¬ Memory.InBlock (machine.cpu.de + 1) count address := fun inside =>
    outside (Memory.inBlock_succ_iff.mpr (.inr inside))
  constructor
  case counter =>
    have left : (machine.after 8).cpu.c = machine.cpu.c - 1 :=
      congrArg Workings.counter turned.workings
    rw [left, counter, ofNat_succ_sub_one]
  case addend =>
    have here := apart machine.cpu.hl (Memory.inBlock_succ_iff.mpr (.inl rfl))
    rw [memory, de, Memory.readRange_write_outside _ _ (behindDe here.1)]
    exact addend
  case augend =>
    rw [memory, hl, Memory.readRange_write_outside _ _ (Memory.not_inBlock_behind (by omega))]
    exact augend
  case apart =>
    rw [de, hl]
    intro address inside
    obtain ⟨addend, code⟩ := apart address (Memory.inBlock_succ_iff.mpr (.inr inside))
    exact ⟨behindDe addend, code⟩

/-- A turn and the turns behind it make the whole sum. -/
theorem Turned.sumStored {byte : UInt8} {count total : Nat} (turned : machine.Turned start byte)
    (bound : count < 256) (small : machine.pairTotal < 200)
    (rest : (machine.after 8).SumStored start count
      (total + ((machine.after 8).cpu.flag .carry).toNat)) :
    machine.SumStored start (count + 1) (machine.pairTotal + 100 * total) := by
  have hl : (machine.after 8).cpu.hl = machine.cpu.hl + 1 := congrArg Workings.hl turned.workings
  have memory : (machine.after 8).memory = machine.memory.write machine.cpu.hl byte :=
    congrArg Workings.memory turned.workings
  have carry : (machine.after 8).cpu.flag .carry = decide (100 ≤ machine.pairTotal) :=
    congrArg Workings.carry turned.workings
  rw [carry, toNat_carry small] at rest
  have turns : 8 * (count + 1) = 8 + 8 * count := by
    omega
  -- The digits above the lowest two are those that the turns behind the first one add.
  have above : (machine.pairTotal + 100 * total) / 100 = total + machine.pairTotal / 100 := by
    omega
  rw [← above] at rest
  have kept := rest.outside
  rw [hl] at kept
  constructor
  case here =>
    rw [turns, after_add]
    exact rest.here
  case first =>
    intro earlier before
    by_cases inTurn : earlier < 8
    · have ahead : start + UInt16.ofNat earlier ≠ start + 10 := by
        intro same
        have same := (UInt16.add_right_inj start).mp same
        rw [← UInt16.toNat_inj, UInt16.toNat_ofNat'] at same
        change earlier % 65536 = 10 at same
        omega
      rw [turned.visits earlier inTurn]
      exact ahead
    · obtain ⟨later, rfl⟩ := Nat.exists_eq_add_of_le (Nat.le_of_not_lt inTurn)
      rw [after_add]
      exact rest.first later (by omega)
  case sum =>
    have stored : (machine.after (8 + 8 * count)).memory.read machine.cpu.hl = byte := by
      have outside : ¬ Memory.InBlock (machine.cpu.hl + 1) count machine.cpu.hl :=
        Memory.not_inBlock_behind (by omega)
      rw [after_add, kept _ outside, memory, Memory.read_write_same]
    have sum := rest.sum
    rw [hl, ← after_add] at sum
    have number : (machine.pairTotal + 100 * total) % 100 ^ (count + 1) = Packed.number byte +
        100 * ((machine.pairTotal + 100 * total) / 100 % 100 ^ count) := by
      rw [turned.number, Nat.pow_succ', Nat.mod_mul]
      omega
    rw [turns, Memory.readRange_succ, stored, number]
    exact .more turned.digits sum
  case carry =>
    rw [turns, after_add, rest.carry, Bool.eq_iff_iff, decide_eq_true_iff, decide_eq_true_iff,
      Nat.le_div_iff_mul_le (by decide), Nat.pow_succ]
  case outside =>
    intro address outside
    rw [Memory.inBlock_succ_iff, not_or] at outside
    rw [turns, after_add, kept address outside.2, memory,
      Memory.read_write_of_ne _ _ (Ne.symm outside.1)]

/-- By induction on the bytes that are left, from the end of the loop on. -/
theorem sumStored {count first second : Nat} (bound : count ≤ 256)
    (here : machine.InLoop start (if count = 0 then 10 else 0))
    (summands : machine.Summands start count first second) :
    machine.SumStored start count (first + second + (machine.cpu.flag .carry).toNat) := by
  induction count generalizing machine first second with
  | zero =>
      obtain ⟨-, addend, augend, -⟩ := summands
      cases addend
      cases augend
      constructor
      case here => exact here.pc
      case first =>
        intro earlier none
        exact absurd none (Nat.not_lt_zero earlier)
      case sum =>
        rw [Nat.pow_zero, Nat.mod_one]
        exact .none
      case carry =>
        change machine.cpu.flag .carry = _
        cases machine.cpu.flag .carry <;> rfl
      case outside =>
        intro address _
        rfl
  | succ count ih =>
      obtain ⟨counter, addend, augend, apart⟩ := summands
      rw [Memory.readRange_succ, ← read_eq] at addend augend
      cases addend with
      | @more _ _ firstRest firstDigits addend =>
      cases augend with
      | @more _ _ secondRest secondDigits augend =>
      -- One turn adds the lowest bytes, and the numbers above them are left to the others.
      have code := apart machine.cpu.hl (Memory.inBlock_succ_iff.mpr (.inl rfl))
      obtain ⟨byte, turned⟩ := InLoop.turn here firstDigits secondDigits code.2
      have summands := turned.summands bound counter addend augend apart
      have head := turned.here
      simp only [counter, ofNat_succ_sub_one, ofNat_counter_eq_zero_iff bound] at head
      have rest := ih (Nat.le_of_lt bound) head summands
      have small : machine.pairTotal < 200 := by
        have first := Packed.number_lt firstDigits
        have second := Packed.number_lt secondDigits
        have carry := (machine.cpu.flag .carry).toNat_le
        rw [pairTotal]
        omega
      have total : Packed.number (machine.read machine.cpu.de) + 100 * firstRest +
          (Packed.number (machine.read machine.cpu.hl) + 100 * secondRest) +
          (machine.cpu.flag .carry).toNat =
          machine.pairTotal + 100 * (firstRest + secondRest) := by
        rw [pairTotal]
        omega
      rw [total]
      exact turned.sumStored bound small rest

/--
The loop adds two packed numbers of up to 256 bytes in eight steps for each byte:
the sum takes the place of the number at HL, what does not fit is in the carry,
and the rest of memory is as it was.
-/
theorem decimal_addition {count first second : Nat} (some : 0 < count) (bound : count ≤ 256)
    (code : machine.memory.readRange start 10 = additionLoop start)
    (entered : machine.cpu.pc = start) (quiet : machine.cpu.serviceable = none)
    (running : machine.cpu.halted = false)
    (summands : machine.Summands start count first second) :
    machine.SumStored start count (first + second + (machine.cpu.flag .carry).toNat) := by
  apply sumStored bound _ summands
  rw [if_neg (Nat.pos_iff_ne_zero.mp some)]
  exact ⟨code, entered.trans (UInt16.add_zero start).symm, quiet, running⟩

end

/-- 9938 and 145 with a carry, of which the latter goes past the last address. -/
theorem decimal_addition_9938_145 :
    let memory := ((Memory.zero.load 0x0100 (additionLoop 0x0100)).load 0x2000 [0x38, 0x99]).load
      0xFFFF [0x45, 0x01]
    let machine : Machine Memory :=
      ⟨{ c := 2, d := 0x20, h := 0xFF, l := 0xFF, pc := 0x0100, flags := 0x01 }, memory⟩
    machine.SumStored 0x0100 2 10084 := by
  intro memory machine
  have de : machine.cpu.de = 0x2000 := by
    decide
  have hl : machine.cpu.hl = 0xFFFF := by
    decide
  have code : machine.memory.readRange 0x0100 10 = additionLoop 0x0100 := by
    change memory.readRange 0x0100 10 = _
    rw [Memory.readRange_load_outside, Memory.readRange_load_outside]
    · exact Memory.zero.readRange_load 0x0100 (by decide)
    · unfold Memory.InBlock
      decide
    · unfold Memory.InBlock
      decide
  have addend : machine.memory.readRange 0x2000 2 = [0x38, 0x99] := by
    change memory.readRange 0x2000 2 = _
    rw [Memory.readRange_load_outside]
    · exact Memory.readRange_load _ 0x2000 (by decide)
    · unfold Memory.InBlock
      decide
  have augend : machine.memory.readRange 0xFFFF 2 = [0x45, 0x01] :=
    Memory.readRange_load _ 0xFFFF (by decide)
  have besideAddend : ∀ index < 2, ¬ Memory.InBlock 0x2000 2 (0xFFFF + UInt16.ofNat index) := by
    unfold Memory.InBlock
    decide
  have besideCode : ∀ index < 2, ¬ Memory.InBlock 0x0100 10 (0xFFFF + UInt16.ofNat index) := by
    unfold Memory.InBlock
    decide
  have summands : machine.Summands 0x0100 2 9938 145 := by
    constructor
    case counter => rfl
    case addend =>
      rw [de, addend]
      exact .more (by decide) (.more (by decide) .none)
    case augend =>
      rw [hl, augend]
      exact .more (by decide) (.more (by decide) .none)
    case apart =>
      rw [de, hl]
      rintro address ⟨index, inside, rfl⟩
      exact ⟨besideAddend index inside, besideCode index inside⟩
  have total : 9938 + 145 + (machine.cpu.flag .carry).toNat = 10084 := by
    decide
  rw [← total]
  exact decimal_addition (by decide) (by decide) code rfl rfl rfl summands

end Cabinet.Machine
