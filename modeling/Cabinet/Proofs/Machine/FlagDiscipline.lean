import Cabinet.Proofs.Machine.OverMemory
import Cabinet.Proofs.Machine.Sequencing

/-!
# Flag discipline

Each opcode may change certain bits of the flag byte, and most opcodes none. The
three bits without meaning are out of reach of all but POP PSW, which clears
them. A processor that starts without such bits never has one, so the flag byte
goes to the stack and comes back without loss.
-/

namespace Cabinet

namespace Cpu

/-- Every flag but carry. -/
def withoutCarry : UInt8 := 0xD4

theorem outside_setCarry (cpu : Cpu) (on : Bool) :
    (cpu.setFlag .carry on).flags &&& ~~~0x01 = cpu.flags &&& ~~~0x01 :=
  cpu.outside_setFlag .carry on (by decide)

theorem outside_setResultFlags (cpu : Cpu) (result : UInt8) :
    (cpu.setResultFlags result).flags &&& ~~~withoutCarry = cpu.flags &&& ~~~withoutCarry := by
  rw [setResultFlags, outside_setFlag _ .parity _ (by decide),
    outside_setFlag _ .zero _ (by decide), outside_setFlag _ .sign _ (by decide)]

theorem outside_incrementFlags (cpu : Cpu) (value : UInt8) :
    (cpu.incrementFlags value).flags &&& ~~~withoutCarry = cpu.flags &&& ~~~withoutCarry := by
  rw [incrementFlags, outside_setResultFlags, outside_setFlag _ .auxCarry _ (by decide)]

theorem outside_decrementFlags (cpu : Cpu) (value : UInt8) :
    (cpu.decrementFlags value).flags &&& ~~~withoutCarry = cpu.flags &&& ~~~withoutCarry := by
  rw [decrementFlags, outside_setResultFlags, outside_setFlag _ .auxCarry _ (by decide)]

theorem flags_setPair (cpu : Cpu) (pair : Pair) (value : UInt16) :
    (cpu.setPair pair value).flags = cpu.flags := by
  cases pair <;> rfl

/-- The accumulator and the flags come back from the word that they were made into. -/
theorem setPsw_psw {cpu : Cpu} (clear : cpu.stray = 0) (other : Cpu) :
    other.setPsw cpu.psw = { other with a := cpu.a, flags := cpu.flags } := by
  have unstacked : (cpu.flags &&& flagBits ||| stackedBit) &&& flagBits = cpu.flags := by
    have kept : cpu.flags &&& flagBits = cpu.flags :=
      congrArg Cpu.flags (restored_of_clear clear)
    have dropped : stackedBit &&& flagBits = 0 := by
      decide
    rw [kept, show (cpu.flags ||| stackedBit) &&& flagBits =
        cpu.flags &&& flagBits ||| stackedBit &&& flagBits from
      UInt8.toBitVec_inj.mp BitVec.and_or_distrib_right, kept, dropped, UInt8.or_zero]
  rw [setPsw, psw, highByte_joinBytes, lowByte_joinBytes, unstacked]

end Cpu

namespace Machine

open Cpu

variable {β : Type} [Bus β]

/-! ## One step -/

theorem flags_setReg (machine : Machine β) (reg : Reg) (value : UInt8) :
    (machine.setReg reg value).cpu.flags = machine.cpu.flags := by
  cases reg <;> rfl

/-- Operations that do not steer the processor leave the bits without meaning alone. -/
theorem stray_execute (machine : Machine β) (operand : UInt16) {instruction : Instruction}
    (steady : instruction.steer machine.cpu.control = machine.cpu.control) :
    (machine.execute operand instruction).cpu.stray = machine.cpu.stray := by
  have kept := congrArg Control.stray (machine.control_execute operand instruction)
  rwa [steady] at kept

/-- No instruction changes a bit that it does not affect. -/
theorem outside_execute (machine : Machine β) (operand : UInt16) (instruction : Instruction) :
    (machine.execute operand instruction).cpu.flags &&& ~~~instruction.affected =
      machine.cpu.flags &&& ~~~instruction.affected := by
  cases instruction with
  -- These affect all flags, so only the bits without meaning are left to be looked at.
  | alu op | aluImm op | daa => exact machine.stray_execute operand rfl
  | inr reg =>
      rw [execute, flags_setReg]
      exact outside_incrementFlags machine.cpu _
  | dcr reg =>
      rw [execute, flags_setReg]
      exact outside_decrementFlags machine.cpu _
  | dad pair => exact outside_setCarry _ _
  | rlc | rrc | ral | rar | stc | cmc => exact outside_setCarry _ _
  | pop pair =>
      cases pair with
      | bc | de | hl => rfl
      | psw =>
          have none : ~~~(Instruction.pop .psw).affected = 0 := by
            decide
          rw [none, UInt8.and_zero, UInt8.and_zero]
  | lxi pair | inx pair | dcx pair =>
      rw [execute, mapCpu, flags_setPair]
  | mvi reg | mov reg => rw [execute, flags_setReg]
  | jcc cond | ccc cond | rcc cond =>
      simp only [execute]
      split <;> rfl
  | _ => rfl

theorem outside_perform (machine : Machine β) (instruction : Instruction) :
    (machine.perform instruction).cpu.flags &&& ~~~instruction.affected =
      machine.cpu.flags &&& ~~~instruction.affected :=
  outside_execute _ _ instruction

/-- The opcode that the next step executes, if it neither accepts a vector nor idles. -/
def executed? (machine : Machine β) : Option UInt8 :=
  if machine.cpu.serviceable = none ∧ machine.cpu.halted = false then
    some (machine.read machine.cpu.pc)
  else none

theorem executed?_eq_some_iff {machine : Machine β} {opcode : UInt8} :
    machine.executed? = some opcode ↔
      (machine.cpu.serviceable = none ∧ machine.cpu.halted = false) ∧
        machine.read machine.cpu.pc = opcode := by
  unfold executed?
  split
  · rename_i free
    simp [free]
  · rename_i busy
    simp [busy]

theorem step_of_executed {machine : Machine β} {opcode : UInt8} {instruction : Instruction}
    (executed : machine.executed? = some opcode)
    (decoded : Instruction.ofOpcode opcode = instruction) :
    machine.step.2 = (machine.perform instruction).tick (instruction.cost machine.cpu) := by
  obtain ⟨⟨quiet, running⟩, fetched⟩ := executed?_eq_some_iff.mp executed
  rw [step_of_decoded fetched quiet running decoded]

/-- HLT halts the machine with the program counter behind it. -/
theorem step_of_hlt {machine : Machine β} (executed : machine.executed? = some 0x76) :
    machine.step.2 = ⟨{ machine.cpu with
      pc := machine.cpu.pc + 1
      halted := true
      cycles := machine.cpu.cycles + 7 }, machine.bus⟩ := by
  have decoded : Instruction.ofOpcode 0x76 = .hlt := Instruction.ofOpcode_of_decode rfl
  rw [step_of_executed executed decoded]
  rfl

/-- STA stores the accumulator at the address behind the opcode. -/
theorem step_of_sta {machine : Machine β} (executed : machine.executed? = some 0x32)
    {target : UInt16} (operand : machine.readWord (machine.cpu.pc + 1) = target) :
    machine.step.2 = ⟨{ machine.cpu with
      pc := machine.cpu.pc + 3
      cycles := machine.cpu.cycles + 13 }, (machine.write target machine.cpu.a).bus⟩ := by
  have decoded : Instruction.ofOpcode 0x32 = .sta := Instruction.ofOpcode_of_decode rfl
  subst operand
  rw [step_of_executed executed decoded]
  rfl

/-- The bits of the flag byte that the next step may change. -/
def affected (machine : Machine β) : UInt8 :=
  match machine.executed? with
  | some opcode => Opcode.affected opcode
  | none => 0

theorem affected_of_executed {machine : Machine β} {opcode : UInt8}
    (executed : machine.executed? = some opcode) :
    machine.affected = Opcode.affected opcode := by
  rw [affected, executed]

theorem affected_of_idle {machine : Machine β} (idle : machine.executed? = none) :
    machine.affected = 0 := by
  rw [affected, idle]

/-- A step changes no bit that its opcode does not affect. -/
theorem outside_step (machine : Machine β) :
    machine.step.2.cpu.flags &&& ~~~machine.affected =
      machine.cpu.flags &&& ~~~machine.affected := by
  rcases machine.step_cases with
    ⟨vector, -, taken⟩ | ⟨-, -, taken⟩ | ⟨quiet, running, taken⟩
  · rw [taken]
    rfl
  · rw [taken]
    rfl
  · have executed : machine.executed? = some (machine.read machine.cpu.pc) :=
      executed?_eq_some_iff.mpr ⟨⟨quiet, running⟩, rfl⟩
    have affected : machine.affected = machine.current.affected := by
      rw [affected_of_executed executed, current, Instruction.affected_ofOpcode]
    -- What the instruction is does not matter any more.
    generalize machine.current = instruction at taken affected
    rw [taken, affected]
    exact machine.outside_perform instruction

/--
What a step leaves of the flag byte. The bits without meaning stay, but for POP PSW, which
clears them. DAD, RLC, RRC, RAL, RAR, STC and CMC change no flag but carry, and INR and DCR
leave carry as it is. All other opcodes that are not meant to change flags, idling and the
acceptance of a vector leave the byte as it is.
-/
structure FlagsKept (machine : Machine β) : Prop where
  stray : machine.step.2.cpu.stray =
    if machine.executed? = some Opcode.popPsw then 0 else machine.cpu.stray
  carryOnly : ∀ opcode, machine.executed? = some opcode →
    Opcode.isOneOf Opcode.carryOnly opcode = true →
      ∀ flag, flag ≠ .carry → machine.step.2.cpu.flag flag = machine.cpu.flag flag
  stepping : ∀ opcode, machine.executed? = some opcode →
    Opcode.isOneOf Opcode.stepping opcode = true →
      machine.step.2.cpu.flag .carry = machine.cpu.flag .carry
  others : (∀ opcode, machine.executed? = some opcode → Opcode.changesFlags opcode = false) →
    machine.step.2.cpu.flags = machine.cpu.flags

/-- Flags that an opcode does not affect have the same values behind it. -/
theorem flag_step {machine : Machine β} {flag : Flag}
    (apart : ~~~machine.affected &&& flag.mask = flag.mask) :
    machine.step.2.cpu.flag flag = machine.cpu.flag flag := by
  have same := and_eq_of_outside machine.outside_step apart
  rw [Cpu.flag, Cpu.flag, testFlags, testFlags, same]

theorem flags_step {machine : Machine β} (unaffected : machine.affected = 0) :
    machine.step.2.cpu.flags = machine.cpu.flags := by
  have same := machine.outside_step
  rwa [unaffected, show ~~~(0 : UInt8) = -1 from rfl, UInt8.and_neg_one, UInt8.and_neg_one]
    at same

/-- Every step but POP PSW leaves the bits without meaning alone. -/
theorem stray_step_of_ne {machine : Machine β}
    (other : machine.executed? ≠ some Opcode.popPsw) :
    machine.step.2.cpu.stray = machine.cpu.stray := by
  refine and_eq_of_outside machine.outside_step ?_
  cases executed : machine.executed? with
  | none =>
      rw [affected_of_idle executed]
      decide
  | some opcode =>
      rw [affected_of_executed executed]
      apply Opcode.affected_apart
      rintro rfl
      exact other executed

theorem stray_step_popPsw {machine : Machine β}
    (executed : machine.executed? = some Opcode.popPsw) : machine.step.2.cpu.stray = 0 := by
  rw [step_of_executed executed Instruction.ofOpcode_popPsw, stray_tick]
  exact congrArg Control.stray (machine.control_perform (.pop .psw))

theorem flagsKept (machine : Machine β) : machine.FlagsKept where
  stray := by
    split
    · rename_i executed
      exact stray_step_popPsw executed
    · rename_i other
      exact stray_step_of_ne other
  carryOnly := by
    intro opcode executed listed flag other
    apply flag_step
    rw [affected_of_executed executed, Opcode.affected_of_carryOnly opcode listed]
    cases flag with
    | carry => exact absurd rfl other
    | sign | zero | auxCarry | parity => decide
  stepping := by
    intro opcode executed listed
    apply flag_step
    rw [affected_of_executed executed, Opcode.affected_of_stepping opcode listed]
    decide
  others := by
    intro unlisted
    apply flags_step
    cases executed : machine.executed? with
    | none => exact affected_of_idle executed
    | some opcode =>
        rw [affected_of_executed executed]
        exact Opcode.affected_of_not_changesFlags opcode (unlisted opcode executed)

/-! ## Runs -/

/-- The machines that power-on, steps, raised vectors, resets and saved processors lead to. -/
inductive Reached : Machine β → Prop where
  | powerOn (bus : β) : Reached ⟨{}, bus⟩
  | step {machine} : Reached machine → Reached machine.step.2
  | raise {machine} : Reached machine → ∀ vector, Reached (machine.raise vector)
  | reset {machine} : Reached machine → Reached machine.reset
  | restore {machine} : Reached machine → ∀ saved : Cpu,
      Reached { machine with cpu := saved.restored }

theorem Reached.clear {machine : Machine β} (reached : Reached machine) :
    machine.cpu.stray = 0 := by
  induction reached with
  | powerOn bus => exact stray_powerOn
  | step _ ih => exact stray_step ih
  | raise _ vector ih => exact ih
  | reset _ _ => exact stray_powerOn
  | restore _ saved _ => exact stray_restored saved

/-! ## Through the stack -/

theorem step_push {machine : Machine β} {opcode : UInt8} {pair : StackPair}
    (executed : machine.executed? = some opcode)
    (decoded : Instruction.ofOpcode opcode = .push pair) :
    machine.step.2 =
      ((machine.jump (machine.cpu.pc + 1)).push (machine.cpu.stackPair pair)).tick 11 :=
  step_of_executed executed decoded

theorem step_pushPsw {machine : Machine β} (executed : machine.executed? = some Opcode.pushPsw) :
    machine.step.2 =
      ((machine.jump (machine.cpu.pc + 1)).push machine.cpu.psw).tick 11 := by
  rw [step_push executed Instruction.ofOpcode_pushPsw, stackPair]

theorem step_popPsw {machine : Machine β} (executed : machine.executed? = some Opcode.popPsw) :
    machine.step.2.cpu = { machine.cpu.setPsw (machine.readWord machine.cpu.sp) with
      pc := machine.cpu.pc + 1
      sp := machine.cpu.sp + 2
      cycles := machine.cpu.cycles + 10 } := by
  rw [step_of_executed executed Instruction.ofOpcode_popPsw]
  rfl

variable [Bus.OverMemory β]

/-- PUSH PSW and POP PSW in a row change nothing of what they move. -/
theorem step_pushPsw_popPsw {machine : Machine β} (clear : machine.cpu.stray = 0)
    (executed : machine.executed? = some Opcode.pushPsw)
    (follows : machine.read (machine.cpu.pc + 1) = Opcode.popPsw)
    (high : machine.cpu.sp - 1 ≠ machine.cpu.pc + 1)
    (low : machine.cpu.sp - 2 ≠ machine.cpu.pc + 1) (vectors : List UInt8)
    (quiet : (vectors.foldl raise machine.step.2).cpu.serviceable = none) :
    (vectors.foldl raise machine.step.2).step.2.cpu.a = machine.cpu.a ∧
      (vectors.foldl raise machine.step.2).step.2.cpu.flags = machine.cpu.flags ∧
        (vectors.foldl raise machine.step.2).step.2.cpu.sp = machine.cpu.sp := by
  obtain ⟨⟨-, running⟩, -⟩ := executed?_eq_some_iff.mp executed
  generalize made : vectors.foldl raise machine.step.2 = pushed at quiet ⊢
  rw [step_pushPsw executed, foldl_raise] at made
  have pc : pushed.cpu.pc = machine.cpu.pc + 1 := by
    rw [← made]
    rfl
  have sp : pushed.cpu.sp = machine.cpu.sp - 2 := by
    rw [← made]
    rfl
  have stillRunning : pushed.cpu.halted = false := by
    rw [← made]
    exact running
  -- The second instruction and its word are where the first one left memory.
  let moved := machine.jump (machine.cpu.pc + 1)
  have bus : pushed.bus = (moved.push machine.cpu.psw).bus := by
    rw [← made]
    rfl
  have opcode : pushed.read (machine.cpu.pc + 1) = Opcode.popPsw := by
    rw [read, bus]
    exact (moved.read_push_of_ne machine.cpu.psw high low).trans follows
  have word : pushed.readWord (machine.cpu.sp - 2) = machine.cpu.psw := by
    rw [readWord, read, read, bus]
    exact moved.readWord_push machine.cpu.psw
  have popped := step_popPsw
    (executed?_eq_some_iff.mpr ⟨⟨quiet, stillRunning⟩, pc ▸ opcode⟩)
  rw [sp, word, setPsw_psw clear] at popped
  rw [popped]
  exact ⟨rfl, rfl, UInt16.sub_add_cancel machine.cpu.sp 2⟩

/--
The discipline of the flag byte on one kind of bus. Every step of every machine changes only
the flags that its opcode is meant to change, and bits without meaning never appear. PUSH
PSW and then POP PSW bring back what was there, with vectors raised but not accepted in
between.
-/
structure FlagDiscipline (β : Type) [Bus β] [Bus.OverMemory β] : Prop where
  step : ∀ machine : Machine β, machine.FlagsKept
  clear : ∀ machine : Machine β, Reached machine → machine.cpu.flags &&& ~~~flagBits = 0
  stack : ∀ machine : Machine β, Reached machine →
    machine.executed? = some Opcode.pushPsw →
    machine.read (machine.cpu.pc + 1) = Opcode.popPsw →
    machine.cpu.sp - 1 ≠ machine.cpu.pc + 1 → machine.cpu.sp - 2 ≠ machine.cpu.pc + 1 →
    ∀ vectors : List UInt8, (vectors.foldl raise machine.step.2).cpu.serviceable = none →
      let popped : Machine β := (vectors.foldl raise machine.step.2).step.2
      popped.cpu.a = machine.cpu.a ∧ popped.cpu.flags = machine.cpu.flags ∧
        popped.cpu.sp = machine.cpu.sp

/-- Flags change as the opcodes say, and no run of a processor makes or loses any other bit. -/
theorem flag_discipline : FlagDiscipline β where
  step := flagsKept
  clear := by
    intro machine reached
    exact reached.clear
  stack := by
    intro machine reached executed follows high low vectors quiet
    exact step_pushPsw_popPsw reached.clear executed follows high low vectors quiet

/-- PUSH PSW at the last address and POP PSW at the first, just below the stacked bytes. -/
theorem flag_discipline_wrapped :
    let memory := Memory.zero.load 0xFFFF [0xF5, 0xF1]
    let saved : Cpu := { a := 0x12, flags := 0xFF, sp := 0x0003, pc := 0xFFFF }
    let machine : Machine Memory := ⟨saved.restored, memory⟩
    let popped := machine.step.2.step.2
    popped.cpu.a = 0x12 ∧ popped.cpu.flags = 0xD5 ∧ popped.cpu.sp = 0x0003 := by
  intro memory saved machine
  have reached : Reached machine := (Reached.powerOn memory).restore saved
  have holds (address : UInt16) : machine.read address = memory.read address :=
    machine.read_eq address
  have push : machine.read 0xFFFF = Opcode.pushPsw := by
    rw [holds]
    simp [memory, Memory.load, Memory.read_write, Opcode.pushPsw]
  have pop : machine.read 0x0000 = Opcode.popPsw := by
    rw [holds]
    simp [memory, Memory.load, Opcode.popPsw]
  have start : machine.cpu.pc = 0xFFFF := by
    decide
  have behind : machine.cpu.pc + 1 = 0x0000 := by
    decide
  have executed : machine.executed? = some Opcode.pushPsw :=
    executed?_eq_some_iff.mpr ⟨⟨rfl, rfl⟩, (congrArg machine.read start).trans push⟩
  have quiet : ([].foldl raise machine.step.2).cpu.serviceable = none := by
    rw [step_pushPsw executed]
    rfl
  have kept := flag_discipline.stack machine reached executed
    ((congrArg machine.read behind).trans pop) (by decide) (by decide) [] quiet
  simp only [List.foldl_nil] at kept
  obtain ⟨a, flags, sp⟩ := kept
  exact ⟨a, flags.trans (by decide), sp⟩

end Machine

end Cabinet
