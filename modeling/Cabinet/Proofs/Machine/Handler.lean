import Cabinet.Proofs.Machine.FlagDiscipline
import Cabinet.Proofs.Machine.InterruptLine
import Cabinet.Proofs.Machine.Spending
import Cabinet.Proofs.Machine.Stack

/-!
# Interrupt handlers

A handler that puts all registers on the stack, does its work and takes them back
in the opposite order is not noticed by the program that it interrupts. Its work
may be anything, of any length and with interrupts of its own, as long as the
stack is where it was at the end and holds what was put there.
-/

namespace Cabinet

namespace Cpu

/-- The registers come back from the words that they were saved as. -/
theorem restore_pairs (cpu : Cpu) {saved : Cpu} (clear : saved.stray = 0) :
    (((cpu.setHl saved.hl).setDe saved.de).setBc saved.bc).setPsw saved.psw =
      { saved with
        sp := cpu.sp
        pc := cpu.pc
        enabled := cpu.enabled
        halted := cpu.halted
        pending := cpu.pending
        cycles := cpu.cycles } := by
  rw [setPsw_psw clear]
  simp only [setHl, setDe, setBc, hl, de, bc, highByte_joinBytes, lowByte_joinBytes]

end Cpu

namespace Machine

open Cpu
open Memory (Below)

variable {β : Type} [Bus β]

/-! ## The code -/

/-- PUSH PSW, PUSH B, PUSH D and PUSH H. -/
def savingCode : List UInt8 := [0xF5, 0xC5, 0xD5, 0xE5]

/-- POP H, POP D, POP B, POP PSW, EI and RET. -/
def restoringCode : List UInt8 := [0xE1, 0xD1, 0xC1, 0xF1, 0xFB, 0xC9]

/-- The pairs in the order in which they are saved. -/
def savedPairs : List StackPair := [.psw, .bc, .de, .hl]

theorem decoded_savingCode : savingCode.map Instruction.ofOpcode = savedPairs.map .push := by
  simp only [savingCode, List.map, Instruction.ofOpcode_eq_decode]
  rfl

/-- The opcodes that restore them as instructions. -/
def restoring : List Instruction := savedPairs.reverse.map .pop ++ [.ei, .ret]

theorem decoded_restoringCode : restoringCode.map Instruction.ofOpcode = restoring := by
  simp only [restoringCode, List.map, Instruction.ofOpcode_eq_decode]
  rfl

/-- A word is taken from the stack behind a jump as before it. -/
theorem pop_jump (machine : Machine β) (target : UInt16) :
    (machine.jump target).pop = (machine.readWord machine.cpu.sp,
      ⟨{ machine.cpu with sp := machine.cpu.sp + 2, pc := target }, machine.bus⟩) := rfl

theorem ret_jump (machine : Machine β) (target : UInt16) :
    (machine.jump target).ret =
      ⟨{ machine.cpu with
        sp := machine.cpu.sp + 2
        pc := machine.readWord machine.cpu.sp }, machine.bus⟩ := rfl

/-! ## Saving -/

/-- The words on the stack when so many pairs are saved, the latest first. -/
def savedWords (cpu : Cpu) (count : Nat) : List UInt16 :=
  ((savedPairs.take count).map cpu.stackPair).reverse ++ [cpu.pc]

theorem savedWords_succ (cpu : Cpu) {count : Nat} {pair : StackPair}
    (next : savedPairs[count]? = some pair) :
    savedWords cpu (count + 1) = cpu.stackPair pair :: savedWords cpu count := by
  rw [savedWords, List.take_add_one, next, List.map_append, List.reverse_append]
  rfl

/-- A push of the handler is found in its place when its turn comes. -/
def FindsPush (machine : Machine β) (vector : UInt8) (index : Nat) : Prop :=
  savingCode[index]? =
    some ((machine.after (index + 1)).read (handlerAddress vector + UInt16.ofNat index))

variable [Bus.OverMemory β]

/-- The machine behind the first pushes of the handler of a vector. -/
structure Saving (machine : Machine β) (vector : UInt8) (count : Nat) : Prop where
  cpu : (machine.after (count + 1)).cpu =
    { machine.cpu with
      enabled := false
      halted := false
      pending := none
      sp := machine.cpu.sp - UInt16.ofNat (2 * (count + 1))
      pc := handlerAddress vector + UInt16.ofNat count
      cycles := (machine.after (count + 1)).cpu.cycles }
  words : (machine.after (count + 1)).topWords (count + 1) = savedWords machine.cpu count
  outside : ∀ address, ¬ Below machine.cpu.sp (2 * (count + 1)) address →
    (machine.after (count + 1)).read address = machine.read address

/-- The acceptance of the vector itself saves the program counter. -/
theorem saving_zero {machine : Machine β} {vector : UInt8}
    (waits : machine.cpu.serviceable = some vector) : machine.Saving vector 0 := by
  let deaf := machine.mapCpu fun cpu =>
    { cpu with pending := none, enabled := false, halted := false }
  have first : machine.after 1 =
      ((deaf.push machine.cpu.pc).jump (handlerAddress vector)).tick interruptCost := by
    change machine.step.2 = _
    rw [step_of_serviceable waits]
    rfl
  constructor
  case cpu =>
    rw [first, Memory.add_ofNat_zero]
    rfl
  case words =>
    rw [first]
    exact deaf.topWords_push machine.cpu.pc (by decide)
  case outside =>
    intro address free
    rw [first]
    exact deaf.read_push_outside machine.cpu.pc (by decide) free

/-- The next push is executed with the registers as they were before the vector was accepted. -/
theorem Saving.push {machine : Machine β} {vector : UInt8} {count : Nat} {pair : StackPair}
    (saving : machine.Saving vector count) (next : savedPairs[count]? = some pair)
    (found : machine.FindsPush vector count) :
    let now := machine.after (count + 1)
    machine.after (count + 1 + 1) =
      ((now.jump (now.cpu.pc + 1)).push (machine.cpu.stackPair pair)).tick 11 := by
  intro now
  have cpu : now.cpu = _ := saving.cpu
  have pc : now.cpu.pc = handlerAddress vector + UInt16.ofNat count := congrArg Cpu.pc cpu
  have executed : now.executed? = some (now.read now.cpu.pc) := by
    rw [executed?_eq_some_iff, cpu]
    exact ⟨⟨rfl, rfl⟩, rfl⟩
  have decoded : Instruction.ofOpcode (now.read now.cpu.pc) = .push pair := by
    have codes := congrArg (fun code : List Instruction => code[count]?) decoded_savingCode
    rw [FindsPush, ← pc] at found
    simpa only [List.getElem?_map, found, next, Option.map_some, Option.some_inj] using codes
  -- No push changes a register, so each of them saves what the program had.
  have pushed : now.cpu.stackPair pair = machine.cpu.stackPair pair := by
    rw [cpu]
    cases pair <;> rfl
  rw [after_step, step_push executed decoded, pushed]

/-- One more pair is on the stack behind each push. -/
theorem Saving.succ {machine : Machine β} {vector : UInt8} {count : Nat}
    (saving : machine.Saving vector count) (bound : count < 4)
    (found : machine.FindsPush vector count) : machine.Saving vector (count + 1) := by
  have next : savedPairs[count]? = some savedPairs[count] := List.getElem?_eq_getElem bound
  have pushed := saving.push next found
  obtain ⟨cpu, words, outside⟩ := saving
  generalize machine.after (count + 1) = now at cpu words outside pushed
  have pc : now.cpu.pc = handlerAddress vector + UInt16.ofNat count := congrArg Cpu.pc cpu
  have sp : now.cpu.sp = machine.cpu.sp - UInt16.ofNat (2 * (count + 1)) := congrArg Cpu.sp cpu
  let moved := now.jump (now.cpu.pc + 1)
  constructor
  case cpu =>
    have lower : now.cpu.sp - 2 = machine.cpu.sp - UInt16.ofNat (2 * (count + 1 + 1)) := by
      rw [sp, Nat.mul_succ 2 (count + 1), UInt16.ofNat_add]
      grind
    have onward : now.cpu.pc + 1 = handlerAddress vector + UInt16.ofNat (count + 1) := by
      rw [pc, UInt16.ofNat_add, UInt16.add_assoc]
      rfl
    rw [pushed, ← lower, ← onward]
    exact congrArg (fun before : Cpu => { before with
      sp := now.cpu.sp - 2
      pc := now.cpu.pc + 1
      cycles := now.cpu.cycles + UInt64.ofNat 11 }) cpu
  case words =>
    rw [pushed, savedWords_succ _ next, ← words]
    exact moved.topWords_push _ (by omega)
  case outside =>
    intro address free
    have apart : ¬ Below moved.cpu.sp 2 address := fun below =>
      free ((sp ▸ below : Below _ 2 address).deeper.mono (by omega))
    rw [pushed]
    refine (moved.read_push_outside _ (Nat.le_refl 2) apart).trans ?_
    exact outside address fun below => free (below.mono (by omega))

theorem saving_of_found {machine : Machine β} {vector : UInt8} {count : Nat} (bound : count ≤ 4)
    (waits : machine.cpu.serviceable = some vector)
    (found : ∀ index < count, machine.FindsPush vector index) : machine.Saving vector count := by
  induction count with
  | zero => exact saving_zero waits
  | succ count ih =>
      have saving := ih (Nat.le_of_succ_le bound) fun index before =>
        found index (Nat.lt_succ_of_lt before)
      exact saving.succ bound (found count (Nat.lt_succ_self count))

/-- The pushes are found if they are there at first, apart from the bytes that they store. -/
theorem findsPush_of_apart {machine : Machine β} {vector : UInt8}
    (waits : machine.cpu.serviceable = some vector)
    (code : machine.memory.readRange (handlerAddress vector) 4 = savingCode)
    (apart : ∀ index < 4, ¬ Below machine.cpu.sp 10 (handlerAddress vector + UInt16.ofNat index))
    {index : Nat} (bound : index < 4) : machine.FindsPush vector index := by
  induction index using Nat.strongRecOn with
  | ind index ih =>
      have saving := saving_of_found (Nat.le_of_lt bound) waits fun earlier before =>
        ih earlier before (Nat.lt_trans before bound)
      have free := apart index bound
      rw [FindsPush, saving.outside _ fun below => free (below.mono (by omega)), read_eq, ← code,
        Memory.getElem?_readRange _ _ bound]

/-- Code elsewhere is still there when the registers are saved. -/
theorem Saving.readRange {machine : Machine β} {vector : UInt8} {count length : Nat}
    {start : UInt16} (saving : machine.Saving vector count)
    (apart : ∀ address, Memory.InBlock start length address →
      ¬ Below machine.cpu.sp (2 * (count + 1)) address) :
    (machine.after (count + 1)).memory.readRange start length =
      machine.memory.readRange start length := by
  apply Memory.readRange_congr
  intro address inside
  rw [← read_eq, ← read_eq]
  exact saving.outside address (apart address inside)

/-! ## Restoring -/

/-- The machine is about to execute one of the instructions that restore the registers. -/
structure Restoring (machine : Machine β) (exit : UInt16) (index : Nat)
    (words : List UInt16) : Prop where
  code : machine.memory.readRange exit 6 = restoringCode
  pc : machine.cpu.pc = exit + UInt16.ofNat index
  empty : machine.cpu.pending = none
  running : machine.cpu.halted = false
  words : machine.topWords words.length = words

section

variable {machine : Machine β} {exit : UInt16} {index : Nat}

theorem Restoring.step {words : List UInt16} (here : machine.Restoring exit index words)
    (instruction : Instruction) (written : restoring[index]? = some instruction) :
    machine.step.2 = (machine.perform instruction).tick (instruction.cost machine.cpu) := by
  have inside : index < 6 := (List.getElem?_eq_some_iff.mp written).1
  rw [← decoded_restoringCode, List.getElem?_map, ← here.code,
    Memory.getElem?_readRange _ _ inside, ← read_eq, ← here.pc, Option.map_some,
    Option.some_inj] at written
  rw [step_of_decoded rfl (serviceable_of_pending here.empty) here.running written]

theorem Restoring.top {word : UInt16} {words : List UInt16}
    (here : machine.Restoring exit index (word :: words)) :
    machine.readWord machine.cpu.sp = word ∧
      machine.memory.words (machine.cpu.sp + 2) words.length = words := by
  have held := here.words
  rw [topWords, List.length_cons, Memory.words, List.cons_eq_cons, ← readWord_eq] at held
  exact held

/-- What a step leaves that neither jumps nor changes memory. -/
theorem Restoring.next {words rest : List UInt16} {after : Machine β}
    (here : machine.Restoring exit index words) (bus : after.bus = machine.bus)
    (pc : after.cpu.pc = machine.cpu.pc + 1) (empty : after.cpu.pending = machine.cpu.pending)
    (running : after.cpu.halted = machine.cpu.halted)
    (held : machine.memory.words after.cpu.sp rest.length = rest) :
    after.Restoring exit (index + 1) rest where
  code := by
    rw [memory, bus]
    exact here.code
  pc := by
    rw [pc, here.pc, UInt16.ofNat_add, UInt16.add_assoc]
    rfl
  empty := empty.trans here.empty
  running := running.trans here.running
  words := by
    rw [topWords, memory, bus]
    exact held

/-- Each pop takes the pair that was saved last of those that are left. -/
theorem Restoring.pop {pair : StackPair} {word : UInt16} {words : List UInt16}
    (here : machine.Restoring exit index (word :: words))
    (written : restoring[index]? = some (.pop pair)) :
    machine.step.2.Restoring exit (index + 1) words ∧
      machine.step.2 = ⟨{ machine.cpu.setStackPair pair word with
        sp := machine.cpu.sp + 2
        pc := machine.cpu.pc + 1
        cycles := machine.cpu.cycles + 10 }, machine.bus⟩ := by
  obtain ⟨top, rest⟩ := here.top
  have popped : machine.step.2 = ⟨{ machine.cpu.setStackPair pair word with
      sp := machine.cpu.sp + 2
      pc := machine.cpu.pc + 1
      cycles := machine.cpu.cycles + 10 }, machine.bus⟩ := by
    rw [here.step (.pop pair) written, perform, execute, pop_jump, top]
    cases pair <;> rfl
  refine ⟨?_, popped⟩
  rw [popped]
  apply here.next
  case pc => rfl
  case empty => cases pair <;> rfl
  case running => cases pair <;> rfl
  case bus => rfl
  case held => exact rest

/-- EI does not touch the stack. -/
theorem Restoring.enable {words : List UInt16} (here : machine.Restoring exit index words)
    (written : restoring[index]? = some .ei) :
    machine.step.2.Restoring exit (index + 1) words ∧
      machine.step.2 = ⟨{ machine.cpu with
        enabled := true
        pc := machine.cpu.pc + 1
        cycles := machine.cpu.cycles + 4 }, machine.bus⟩ := by
  have enabled : machine.step.2 = ⟨{ machine.cpu with
      enabled := true
      pc := machine.cpu.pc + 1
      cycles := machine.cpu.cycles + 4 }, machine.bus⟩ := here.step .ei written
  refine ⟨?_, enabled⟩
  rw [enabled]
  exact here.next rfl rfl rfl rfl here.words

/-- The last word is the address to go on at. -/
theorem Restoring.ret {word : UInt16} (here : machine.Restoring exit index [word])
    (written : restoring[index]? = some .ret) :
    machine.step.2 = ⟨{ machine.cpu with
      sp := machine.cpu.sp + 2
      pc := word
      cycles := machine.cpu.cycles + 10 }, machine.bus⟩ := by
  rw [here.step .ret written, perform, execute, ret_jump, here.top.1]
  rfl

/-- Six steps with the saved words on the stack bring the interrupted processor back. -/
theorem Restoring.all {saved : Cpu} (ready : machine.Restoring exit 0 (savedWords saved 4))
    (clear : saved.stray = 0) :
    machine.after 6 = ⟨{ saved with
      sp := machine.cpu.sp + 10
      enabled := true
      halted := false
      pending := none
      cycles := machine.cpu.cycles + 54 }, machine.bus⟩ := by
  have words : savedWords saved 4 = [saved.hl, saved.de, saved.bc, saved.psw, saved.pc] := rfl
  rw [words] at ready
  obtain ⟨second, popH⟩ := ready.pop rfl
  obtain ⟨third, popD⟩ := second.pop rfl
  obtain ⟨fourth, popB⟩ := third.pop rfl
  obtain ⟨fifth, popPsw⟩ := fourth.pop rfl
  obtain ⟨sixth, enabled⟩ := fifth.enable rfl
  have returned := sixth.ret rfl
  have six : machine.after 6 = machine.step.2.step.2.step.2.step.2.step.2.step.2 := rfl
  have sp : machine.cpu.sp + 2 + 2 + 2 + 2 + 2 = machine.cpu.sp + 10 := by
    grind
  have cycles : machine.cpu.cycles + 10 + 10 + 10 + 10 + 4 + 10 = machine.cpu.cycles + 54 := by
    grind
  have registers := machine.cpu.restore_pairs clear
  rw [ready.running, ready.empty] at registers
  rw [six, returned, enabled, popPsw, popB, popD, popH, ← sp, ← cycles]
  exact congrArg (fun cpu : Cpu => (⟨{ cpu with
    sp := machine.cpu.sp + 2 + 2 + 2 + 2 + 2
    pc := saved.pc
    enabled := true
    cycles := machine.cpu.cycles + 10 + 10 + 10 + 10 + 4 + 10 }, machine.bus⟩ : Machine β))
    registers

end

/-! ## From the acceptance to the return -/

/--
A vector is about to be accepted whose handler saves all registers first. Each push is still
there when its turn comes.
-/
structure Saves (machine : Machine β) (vector : UInt8) : Prop where
  clear : machine.cpu.flags &&& ~~~flagBits = 0
  enabled : machine.cpu.enabled = true
  waits : machine.cpu.pending = some vector
  code : ∀ index < 4, machine.FindsPush vector index

/-- The work of a handler has come to the code that restores what was saved. -/
structure Arrives (machine saved arrived : Machine β) (exit : UInt16) : Prop where
  pc : arrived.cpu.pc = exit
  code : arrived.memory.readRange exit 6 = restoringCode
  empty : arrived.cpu.pending = none
  running : arrived.cpu.halted = false
  sp : arrived.cpu.sp = saved.cpu.sp
  stack : ∀ address, Below machine.cpu.sp 10 address →
    arrived.memory.read address = saved.memory.read address

/--
What a handler does to the processor at its ends. It starts its work with the registers of
the interrupted program, and the program goes on with all of them, whatever they were in
between.
-/
structure Unnoticed (machine saved arrived : Machine β) (vector : UInt8) : Prop where
  before : saved.cpu =
    { machine.cpu with
      enabled := false
      halted := false
      pending := none
      sp := machine.cpu.sp - 10
      pc := handlerAddress vector + 4
      cycles := saved.cpu.cycles }
  behind : (arrived.after 6).cpu =
    { machine.cpu with
      enabled := true
      halted := false
      pending := none
      cycles := arrived.cpu.cycles + 54 }
  bus : (arrived.after 6).bus = arrived.bus

theorem Saves.saving {machine : Machine β} {vector : UInt8} (saves : machine.Saves vector) :
    machine.Saving vector 4 := by
  have serviceable : machine.cpu.serviceable = some vector := by
    rw [serviceable, if_pos saves.enabled, saves.waits]
  exact saving_of_found (Nat.le_refl 4) serviceable saves.code

/-- The words that were saved are still there when they are to be restored. -/
theorem Arrives.restoring {machine arrived : Machine β} {vector : UInt8} {exit : UInt16}
    (saving : machine.Saving vector 4) (arrives : machine.Arrives (machine.after 5) arrived exit) :
    arrived.Restoring exit 0 (savedWords machine.cpu 4) where
  code := arrives.code
  pc := by
    rw [arrives.pc, Memory.add_ofNat_zero]
  empty := arrives.empty
  running := arrives.running
  words := by
    have sp : (machine.after 5).cpu.sp = machine.cpu.sp - UInt16.ofNat 10 :=
      congrArg Cpu.sp saving.cpu
    have held : arrived.topWords 5 = (machine.after 5).topWords 5 := by
      rw [topWords, topWords, arrives.sp]
      apply Memory.words_congr
      intro address inside
      rw [sp] at inside
      exact arrives.stack address inside
    exact held.trans saving.words

/--
The six instructions at the end of a handler bring the interrupted processor back. Between the
four at the start and these there may be any steps and raised vectors.
-/
theorem handler_transparent {machine : Machine β} {vector : UInt8} (saves : machine.Saves vector)
    (work : List Event) {exit : UInt16}
    (arrives : machine.Arrives (machine.after 5) ((machine.after 5).follow work) exit) :
    machine.Unnoticed (machine.after 5) ((machine.after 5).follow work) vector := by
  have saving := saves.saving
  have restored := (arrives.restoring saving).all saves.clear
  have sp : (machine.after 5).cpu.sp = machine.cpu.sp - 10 := congrArg Cpu.sp saving.cpu
  constructor
  case before => exact saving.cpu
  case behind =>
    rw [restored, arrives.sp, sp, UInt16.sub_add_cancel]
  case bus => rw [restored]

/-- The work may be as little as one CMA. -/
theorem Saving.arrives_cma {machine : Machine β} {vector : UInt8}
    (saving : machine.Saving vector 4)
    (code : (machine.after 5).memory.readRange (handlerAddress vector + 4) 7 =
      0x2F :: restoringCode) :
    let arrived := (machine.after 5).follow [.step]
    arrived.cpu.a = ~~~machine.cpu.a ∧
      machine.Arrives (machine.after 5) arrived (handlerAddress vector + 5) := by
  intro arrived
  have cpu : (machine.after 5).cpu = _ := saving.cpu
  rw [Memory.readRange_succ, List.cons_eq_cons, ← read_eq] at code
  obtain ⟨fetched, restores⟩ := code
  have decoded : Instruction.ofOpcode 0x2F = .cma := Instruction.ofOpcode_of_decode rfl
  have pc : (machine.after 5).cpu.pc = handlerAddress vector + 4 := congrArg Cpu.pc cpu
  have empty : (machine.after 5).cpu.pending = none := congrArg Cpu.pending cpu
  have running : (machine.after 5).cpu.halted = false := congrArg Cpu.halted cpu
  have a : (machine.after 5).cpu.a = machine.cpu.a := by
    rw [cpu]
  change (machine.after 5).step.2.cpu.a = _ ∧
    machine.Arrives (machine.after 5) (machine.after 5).step.2 _
  generalize machine.after 5 = saved at fetched restores pc empty running a ⊢
  have taken : saved.step.2 = ⟨{ saved.cpu with
      a := ~~~saved.cpu.a
      pc := saved.cpu.pc + 1
      cycles := saved.cpu.cycles + 4 }, saved.bus⟩ := by
    rw [step_of_decoded (pc ▸ fetched) (serviceable_of_pending empty) running decoded]
    rfl
  rw [taken, a]
  refine ⟨rfl, ?_⟩
  constructor
  case pc =>
    rw [pc, UInt16.add_assoc]
    rfl
  case code =>
    rw [UInt16.add_assoc] at restores
    exact restores
  case empty => exact empty
  case running => exact running
  case sp => rfl
  case stack =>
    intro address _
    rfl

/-- A halted processor whose stack goes past address 0, and a handler that complements A. -/
theorem handler_transparent_halted :
    let machine : Machine Memory :=
      ⟨{ a := 0x12, flags := 0xD5, sp := 0x0004, pc := 0x2000
         halted := true, enabled := true, pending := some 7 },
        Memory.zero.load 0x0038 (savingCode ++ (0x2F :: restoringCode))⟩
    let arrived := (machine.after 5).follow [.step]
    arrived.cpu.a = ~~~machine.cpu.a ∧ (arrived.after 6).cpu =
      { machine.cpu with
        halted := false
        pending := none
        cycles := arrived.cpu.cycles + 54 } := by
  intro machine
  have loaded : machine.memory.readRange 0x0038 11 = savingCode ++ (0x2F :: restoringCode) :=
    Memory.zero.readRange_load 0x0038 (by decide)
  have apart : ∀ address, Memory.InBlock 0x0038 11 address → ¬ Below machine.cpu.sp 10 address := by
    rintro address ⟨index, inside, rfl⟩
    decide +revert
  have saves : machine.Saves 7 := by
    constructor
    case clear => decide
    case enabled => rfl
    case waits => rfl
    case code =>
      intro index bound
      refine findsPush_of_apart rfl ?_ (fun other inside => ?_) bound
      · rw [Memory.readRange_add machine.memory 0x0038 4 7] at loaded
        exact (List.append_inj loaded (Memory.length_readRange _ _ _)).1
      · exact apart _ ⟨other, Nat.lt_trans inside (by decide), rfl⟩
  have saving := saves.saving
  have around : (machine.after 5).memory.readRange 0x0038 11 =
      savingCode ++ (0x2F :: restoringCode) := (saving.readRange apart).trans loaded
  rw [Memory.readRange_add _ 0x0038 4 7] at around
  have behind := (List.append_inj around (Memory.length_readRange _ _ _)).2
  obtain ⟨work, arrives⟩ := saving.arrives_cma behind
  exact ⟨work, (handler_transparent saves [.step] arrives).behind⟩

end Machine

end Cabinet
