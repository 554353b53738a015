import Cabinet.Proofs.Board.Budget
import Cabinet.Proofs.Board.Reachable
import Cabinet.Proofs.Machine.FlagDiscipline
import Cabinet.Proofs.Memory

/-!
# The counter of a frame

The clock states of a frame are counted in 32 bits, and an accepted description
may ask for a budget anywhere in them. The last instruction takes up to 17 clock
states beyond the budget. So the sum fits on all boards of a description whose
budget leaves that room, and only there: a program of XTHL comes to 18 below the
end of the counter, and the next instruction ends the frame in a panic.
-/

namespace Cabinet

namespace Machine

open Cpu

variable {β : Type} [Bus β]

/-! ## Programs of one instruction -/

/-- A jump uses no port. -/
theorem Spinning.usedPortFault? [TellingBus β] [LawfulPorts β] {machine : Machine β}
    (spinning : machine.Spinning) : machine.usedPortFault? = none := by
  have current : machine.current = .jmp := by
    rw [Machine.current, spinning.pc, spinning.opcode, Instruction.ofOpcode_eq_decode]
    rfl
  rw [Machine.usedPortFault?, current]
  split
  · rfl
  · rfl

theorem step_pushHl {machine : Machine β} (fetched : machine.read machine.cpu.pc = 0xE5)
    (deaf : machine.cpu.enabled = false) (running : machine.cpu.halted = false) :
    machine.step = (11, ⟨{ machine.cpu with
      pc := machine.cpu.pc + 1
      sp := machine.cpu.sp - 2
      cycles := machine.cpu.cycles + 11 }, (machine.push machine.cpu.hl).bus⟩) := by
  have decoded : Instruction.ofOpcode 0xE5 = .push .hl := Instruction.ofOpcode_of_decode rfl
  rw [step_of_decoded fetched (serviceable_of_disabled deaf) running decoded]
  rfl

variable [Bus.OverMemory β]

/--
A machine in the midst of XTHL: every byte of memory is the opcode, and so are both
bytes that the stack's top is exchanged with.
-/
structure Exchanging (machine : Machine β) : Prop where
  opcodes : ∀ address, machine.read address = 0xE3
  high : machine.cpu.h = 0xE3
  low : machine.cpu.l = 0xE3
  deaf : machine.cpu.enabled = false
  running : machine.cpu.halted = false

theorem Exchanging.step {machine : Machine β} (exchanging : machine.Exchanging) :
    machine.step.1 = 18 ∧ machine.step.2.Exchanging := by
  have decoded : Instruction.ofOpcode 0xE3 = .xthl := Instruction.ofOpcode_of_decode rfl
  have high : highByte (machine.readWord machine.cpu.sp) = 0xE3 := by
    rw [readWord, highByte_joinBytes, exchanging.opcodes]
  have low : lowByte (machine.readWord machine.cpu.sp) = 0xE3 := by
    rw [readWord, lowByte_joinBytes, exchanging.opcodes]
  -- The exchange writes the bytes that are there already.
  have written (address : UInt16) :
      ((machine.write machine.cpu.sp machine.cpu.l).write (machine.cpu.sp + 1)
        machine.cpu.h).read address = 0xE3 := by
    rw [read_eq, memory_write, memory_write, Memory.read_write, Memory.read_write, ← read_eq,
      exchanging.opcodes, exchanging.high, exchanging.low, ite_self, ite_self]
  rw [step_of_decoded (exchanging.opcodes _) (serviceable_of_disabled exchanging.deaf)
    exchanging.running decoded]
  exact ⟨rfl, written, high, low, exchanging.deaf, exchanging.running⟩

/-- Both bytes of HL come to memory below the stack pointer. -/
theorem read_pushHl {machine next : Machine β} (bus : next.bus = (machine.push machine.cpu.hl).bus)
    (address : UInt16) :
    next.read address =
      if machine.cpu.sp - 2 = address then machine.cpu.l
      else if machine.cpu.sp - 1 = address then machine.cpu.h
      else machine.read address := by
  have pushed : next.read address = (machine.push machine.cpu.hl).read address :=
    congrArg (Bus.read · address) bus
  rw [pushed, read_eq, memory_push, Memory.read_write, Memory.read_write, hl, highByte_joinBytes,
    lowByte_joinBytes, read_eq]

/-- A machine before the first or the second of two PUSH H in a memory of XTHL. -/
structure Priming (pc sp : UInt16) (machine : Machine β) : Prop where
  bytes : ∀ address, machine.read address = if address = 0 ∨ address = 1 then 0xE5 else 0xE3
  high : machine.cpu.h = 0xE3
  low : machine.cpu.l = 0xE3
  pc : machine.cpu.pc = pc
  sp : machine.cpu.sp = sp
  deaf : machine.cpu.enabled = false
  running : machine.cpu.halted = false

/-- The first push goes to bytes of XTHL. -/
theorem Priming.first {machine : Machine β} (priming : machine.Priming 0 4) :
    machine.step.1 = 11 ∧ machine.step.2.Priming 1 2 := by
  have fetched : machine.read machine.cpu.pc = 0xE5 := by
    rw [priming.pc, priming.bytes]
    rfl
  have taken := step_pushHl fetched priming.deaf priming.running
  have bytes (address : UInt16) : machine.step.2.read address =
      if address = 0 ∨ address = 1 then 0xE5 else 0xE3 := by
    rw [read_pushHl (by rw [taken]), priming.sp, priming.high, priming.low, priming.bytes]
    grind
  rw [taken] at bytes ⊢
  refine ⟨rfl, bytes, priming.high, priming.low, ?_, ?_, priming.deaf, priming.running⟩
  · rw [priming.pc]
    rfl
  · rw [priming.sp]
    rfl

/-- The second one goes over both. -/
theorem Priming.second {machine : Machine β} (priming : machine.Priming 1 2) :
    machine.step.1 = 11 ∧ machine.step.2.Exchanging := by
  have fetched : machine.read machine.cpu.pc = 0xE5 := by
    rw [priming.pc, priming.bytes]
    rfl
  have taken := step_pushHl fetched priming.deaf priming.running
  have opcodes (address : UInt16) : machine.step.2.read address = 0xE3 := by
    rw [read_pushHl (by rw [taken]), priming.sp, priming.high, priming.low, priming.bytes]
    grind
  rw [taken] at opcodes ⊢
  exact ⟨rfl, opcodes, priming.high, priming.low, priming.deaf, priming.running⟩

theorem Priming.costOf {machine : Machine β} (priming : machine.Priming 0 4) (count : Nat) :
    machine.costOf (count + 2) = 18 * count + 22 := by
  obtain ⟨first, second⟩ := priming.first
  obtain ⟨second, exchanging⟩ := second.second
  rw [costOf_succ, costOf_succ, first, second,
    costOf_of_steady (fun _ => Exchanging.step) exchanging]
  omega

/-- No sum of clock states lies in the last 17 of the counter. -/
theorem Priming.le_costOf {machine : Machine β} (priming : machine.Priming 0 4) {count : Nat}
    (beyond : 2 ^ 32 - 18 < machine.costOf count) : 2 ^ 32 ≤ machine.costOf count := by
  match count with
  | 0 =>
      rw [costOf_zero] at beyond
      omega
  | 1 =>
      rw [costOf_succ, costOf_zero, priming.first.1] at beyond
      omega
  | count + 2 =>
      rw [priming.costOf] at beyond ⊢
      omega

end Machine

namespace Board

open Machine Outcome

/-! ## Frames -/

/--
What is true of a frame whose clock states fit the counter. The exact sum of what the steps
take is below the end of the counter, and the loop of the frame ends with that sum, whoever
listens, unless one of its steps fails.
-/
structure FrameCounted (board : Board) : Prop where
  fits : board.advance.lastFrameCycles < 2 ^ 32
  ends : ∀ (σ : Type) [Listener σ] (listener : σ),
    ((board.latched.spendM board.budget 0 : Telling σ (Nat × Machine SystemBus)) listener).1 =
      unlessFault (board.latched.runFault? board.stepping)
        (board.advance.lastFrameCycles, board.latched.follow board.stepping)

theorem frameCounted_of_fits {board : Board} (fits : board.advance.lastFrameCycles < 2 ^ 32) :
    board.FrameCounted := by
  refine ⟨fits, fun σ _ listener => ?_⟩
  have speaks : Speaks (board.latched.spendM board.budget 0 : Telling σ _) _ _ :=
    spendM_speaks board.latched (Nat.le_of_lt board.budget_lt_counterLimit) (by decide)
  have sum : sumFault? (board.latched.spend board.budget 0).1 = none :=
    sumFault?_eq_none_iff.mpr fits
  rw [speaks.outcome_eq, spendFault?, sum, Option.or_none, follow_stepping]
  rfl

theorem frameCounted_of_budget_le {board : Board} (some : 0 < board.budget)
    (room : board.budget ≤ 2 ^ 32 - 18) : board.FrameCounted := by
  have most := lastFrameCycles_le some
  exact frameCounted_of_fits (by omega)

/-- A sum that does not fit ends the frame, if nothing else does before. -/
theorem runFrame_of_sum {board : Board} (latched : board.latchFault? = none)
    (steps : board.latched.runFault? board.stepping = none)
    (large : 2 ^ 32 ≤ board.advance.lastFrameCycles) : board.runFrame = .error .addition := by
  have sum : sumFault? (board.latched.spend board.budget 0).1 = some .addition :=
    if_neg (Nat.not_lt.mpr large)
  have spent : board.latched.spendFault? board.budget 0 = some .addition := by
    rw [spendFault?, ← stepping, steps, sum]
    rfl
  rw [runFrame_eq, fault?, latched, spent]
  rfl

/-! ## The board that goes beyond -/

/-- A state whose first frame takes 22 clock states and then 18 for every step. -/
def exchangingState (config : Config) : SavedState where
  system := SavedState.systemName
  version := SavedState.currentVersion
  game := config.name
  frameIndex := 0
  cpu := { h := 0xE3, l := 0xE3, sp := 4 }
  devices := {}
  ram := [⟨0, List.replicate 65536 0xE3⟩, ⟨0, [0xE5, 0xE5]⟩]

/-- A board of a description, with the state taken back. -/
def exchangingBoard (config : Config) : Board :=
  (new ⟨config, {}⟩).withState (exchangingState config)

theorem config_exchangingBoard (config : Config) : (exchangingBoard config).config = config := rfl

theorem reachable_exchangingBoard (config : Config) : Reachable (exchangingBoard config) := by
  have restored : (new ⟨config, {}⟩).restore (exchangingState config).toJson =
      .ok (exchangingBoard config) :=
    restore_toJson rfl rfl
  have reachable := (Reachable.new ⟨config, {}⟩).perform (.restore (exchangingState config).toJson)
  rw [Board.perform, restored] at reachable
  exact reachable

theorem read_exchangingBoard (config : Config) (address : UInt16) :
    (exchangingBoard config).memory.read address =
      if address = 0 ∨ address = 1 then 0xE5 else 0xE3 := by
  let filled := (new ⟨config, {}⟩).memory.fill 0 65536 0xE3
  have everywhere : filled.read address = 0xE3 := by
    have here : 0 + UInt16.ofNat address.toNat = address :=
      Memory.add_ofNat_eq (Nat.zero_add _)
    rw [← here]
    exact Memory.read_fill_inside _ _ _ (Nat.le_refl _) address.toNat_lt
  have placed : (exchangingBoard config).memory = (filled.write 0 0xE5).write 1 0xE5 := by
    rw [show filled = _ from Memory.fill_eq_load _ _ _ _]
    rfl
  rw [placed, Memory.read_write, Memory.read_write, everywhere]
  grind

theorem read_latched (board : Board) (address : UInt16) :
    board.latched.read address = board.memory.read address := rfl

theorem priming_exchangingBoard (config : Config) :
    (exchangingBoard config).latched.Priming 0 4 where
  bytes address := by
    rw [read_latched, read_exchangingBoard]
  high := rfl
  low := rfl
  pc := rfl
  sp := rfl
  deaf := rfl
  running := rfl

theorem le_lastFrameCycles_exchangingBoard (config : Config)
    (beyond : 2 ^ 32 - 18 < config.cyclesPerFrame) :
    2 ^ 32 ≤ (exchangingBoard config).advance.lastFrameCycles := by
  have reached := (exchangingBoard config).budget_le_lastFrameCycles
  rw [budget_eq, config_exchangingBoard] at reached
  rw [lastFrameCycles_advance] at reached ⊢
  exact (priming_exchangingBoard config).le_costOf (Nat.lt_of_lt_of_le beyond reached)

/-! ## The budgets that leave room -/

/--
On the boards of an accepted description the sum of a frame fits the counter, for
whatever program they run, if the budget leaves room for the longest instruction,
and only then.
-/
theorem frames_counted_iff {config : Config} (valid : config.validate = .ok ()) :
    (∀ board, Reachable board → board.config = config → board.FrameCounted) ↔
      config.cyclesPerFrame ≤ 2 ^ 32 - 18 := by
  constructor
  · intro counted
    by_contra beyond
    have large := le_lastFrameCycles_exchangingBoard config (Nat.not_le.mp beyond)
    have fits := (counted _ (reachable_exchangingBoard config) rfl).fits
    exact absurd fits (Nat.not_lt.mpr large)
  · rintro room board - rfl
    rw [← budget_eq] at room
    exact frameCounted_of_budget_le (board.budget_eq ▸ Config.cyclesPerFrame_pos valid) room

theorem frames_counted_spaceInvaders :
    Preset.spaceInvaders.cyclesPerFrame = 33333 ∧
      ∀ board, Reachable board → board.config = Preset.spaceInvaders → board.FrameCounted :=
  ⟨by decide, (frames_counted_iff rfl).mpr (by decide)⟩

/-! ## A frame of jumps -/

/-- A description with one frame for each second and one byte of program. -/
def longFrame : Config where
  name := "Long frame"
  memory := { rom := [⟨0, 0, 1, "jump"⟩] }
  timing := ⟨4294967294, 1⟩

/-- Jumps go right as long as the processor's count has room for them. -/
theorem runFault?_of_spinning {board : Board} (spinning : board.latched.Spinning)
    (room : board.machine.cpu.cycles.toNat + board.advance.lastFrameCycles < UInt64.size) :
    board.latched.runFault? board.stepping = none := by
  rw [lastFrameCycles_advance] at room
  exact (board.latched.runFault?_steps_eq_none_iff board.frameSteps).mpr
    ⟨fun count _ => (spinning.after count).usedPortFault?, room⟩

/-- Its board with the opcode of a jump; the bytes behind it are the address zero. -/
def jumpingBoard : Board :=
  (new ⟨longFrame, {}⟩).loadRoms [⟨"jump", [0xC3]⟩]

theorem cpu_jumpingBoard : jumpingBoard.machine.cpu = {} := by
  rw [jumpingBoard, cpu_loadRoms, cpu_new]

theorem budget_jumpingBoard : jumpingBoard.budget = 4294967294 :=
  (by decide : longFrame.cyclesPerFrame = 4294967294)

theorem spinning_jumpingBoard : jumpingBoard.latched.Spinning := by
  have belongs : (⟨"jump", [0xC3]⟩ : RomFile).region? (new ⟨longFrame, {}⟩).romRegions =
      some ⟨0, 0, 1, "jump"⟩ := (by decide : RomFile.region? _ [_] = _)
  have program := (new ⟨longFrame, {}⟩).memory_loadRoms belongs
  rw [memory_new] at program
  exact spinning_latched cpu_jumpingBoard program

theorem lastFrameCycles_jumpingBoard : jumpingBoard.advance.lastFrameCycles = 4294967300 := by
  rw [lastFrameCycles_of_spinning spinning_jumpingBoard, budget_jumpingBoard]

theorem runFault?_jumpingBoard :
    jumpingBoard.latched.runFault? jumpingBoard.stepping = none := by
  refine runFault?_of_spinning spinning_jumpingBoard ?_
  rw [lastFrameCycles_jumpingBoard, cpu_jumpingBoard]
  decide

/--
The sums of a frame of jumps go from 4294967290, which is below the budget, to 4294967300.
No step goes wrong, but the second sum does not fit the counter and ends the frame.
-/
theorem frame_stops_longFrame :
    jumpingBoard.config.validate = .ok () ∧ Reachable jumpingBoard ∧
      jumpingBoard.advance.lastFrameCycles = 4294967300 ∧
      jumpingBoard.latched.runFault? jumpingBoard.stepping = none ∧
      jumpingBoard.runFrame = .error .addition := by
  have latched : jumpingBoard.latchFault? = none := by
    refine jumpingBoard.latchFault?_eq_none_iff.mpr ?_
    rintro ⟨held, -⟩
    exact absurd held (by decide : ¬ Buttons.isHeld {} "p1_right" = true)
  have large : 2 ^ 32 ≤ jumpingBoard.advance.lastFrameCycles := by
    rw [lastFrameCycles_jumpingBoard]
    decide
  exact ⟨(rfl : longFrame.validate = .ok ()), (Reachable.new _).perform (.loadRoms _),
    lastFrameCycles_jumpingBoard, runFault?_jumpingBoard,
    runFrame_of_sum latched runFault?_jumpingBoard large⟩

end Board

end Cabinet
