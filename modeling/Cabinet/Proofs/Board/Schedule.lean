import Cabinet.Preset
import Cabinet.Proofs.Board.Reachable
import Cabinet.Proofs.Config.Validity
import Cabinet.Proofs.Machine.Execution
import Cabinet.Proofs.Machine.FlagDiscipline
import Cabinet.Proofs.Memory

/-!
# The interrupt schedule

A frame steps first and raises the due vectors afterwards. So the only vector
that a step of the frame can accept is the one that waited when the frame
began, and the last due vector of the schedule is the one that waits when it
ends.
-/

namespace Cabinet.Board

open Cpu (Instruction)
open Machine

/-! ## A frame as events -/

/-- The events of a frame, in order. -/
def frameEvents (board : Board) : List Event :=
  List.replicate board.frameSteps .step ++ board.due.map .raise

/-- The vectors that the steps of a frame accept, in order. -/
def frameServices (board : Board) : List UInt8 :=
  board.latched.services board.frameEvents

theorem follow_raises (machine : Machine SystemBus) (vectors : List UInt8) :
    machine.follow (vectors.map .raise) = vectors.foldl raise machine :=
  List.foldl_map

theorem services_raises (machine : Machine SystemBus) (vectors : List UInt8) :
    machine.services (vectors.map .raise) = [] := by
  induction vectors generalizing machine with
  | nil => rfl
  | cons vector vectors ih => exact ih (machine.raise vector)

theorem machine_advance_eq_follow (board : Board) :
    board.advance.machine = board.latched.follow board.frameEvents := by
  rw [machine_advance, frameEvents, follow_append, follow_steps, follow_raises]

theorem frameServices_eq (board : Board) :
    board.frameServices = board.latched.services (List.replicate board.frameSteps .step) := by
  rw [frameServices, frameEvents, services, collect_append, ← services, ← services,
    services_raises, List.append_nil]

/-- What waits when a frame begins is accepted in it or is left when its steps are taken. -/
theorem pending_frame (board : Board) :
    board.machine.cpu.pending.toList =
      board.frameServices ++ (board.latched.after board.frameSteps).cpu.pending.toList := by
  have steps := board.latched.pending_steps board.frameSteps
  rwa [← frameServices_eq, follow_steps] at steps

/-! ## What is due -/

theorem due_iff (board : Board) (interrupt : Interrupt) :
    board.frameIndex % interrupt.period.toUInt64 = 0 ↔
      interrupt.period.toNat ∣ board.frameIndex.toNat := by
  rw [← UInt64.toNat_inj, UInt64.toNat_mod, UInt32.toNat_toUInt64, Nat.dvd_iff_mod_eq_zero]
  rfl

theorem due_eq (board : Board) :
    board.due = (board.config.interrupts.filter fun interrupt =>
      interrupt.period.toNat ∣ board.frameIndex.toNat).map Interrupt.vector := by
  simp only [due, due_iff]

theorem due_eq_nil {board : Board}
    (none : ∀ interrupt ∈ board.config.interrupts,
      ¬ interrupt.period.toNat ∣ board.frameIndex.toNat) :
    board.due = [] := by
  rw [due_eq, List.map_eq_nil_iff, List.filter_eq_nil_iff]
  intro interrupt member divides
  exact none interrupt member (of_decide_eq_true divides)

theorem getLast?_due {board : Board} {earlier later : List Interrupt} {interrupt : Interrupt}
    (schedule : board.config.interrupts = earlier ++ interrupt :: later)
    (divides : interrupt.period.toNat ∣ board.frameIndex.toNat)
    (last : ∀ other ∈ later, ¬ other.period.toNat ∣ board.frameIndex.toNat) :
    board.due.getLast? = some interrupt.vector := by
  have none : later.filter
      (fun other => decide (other.period.toNat ∣ board.frameIndex.toNat)) = [] := by
    rw [List.filter_eq_nil_iff]
    intro other member divides
    exact last other member (of_decide_eq_true divides)
  rw [due_eq, schedule, List.filter_append, List.filter_cons, if_pos (decide_eq_true divides),
    none, List.map_append, List.map_cons, List.map_nil, List.getLast?_concat]

/-! ## The schedule -/

/--
What the interrupt line does in a frame. The first step accepts a waiting vector if it may,
and no further step accepts any. The last due entry of the schedule decides what waits at
the end. When nothing is due, a vector that was not accepted waits on.
-/
structure FrameSchedule (board : Board) : Prop where
  machine : board.advance.machine = board.latched.follow board.frameEvents
  atMostOne : board.frameServices.length ≤ 1
  waited : ∀ vector ∈ board.frameServices, board.machine.cpu.pending = some vector
  first : ∀ vector, board.machine.cpu.enabled = true →
    board.machine.cpu.pending = some vector →
      (∃ rest, board.frameEvents = .step :: rest) ∧ board.latched.Service vector ∧
        board.frameServices = [vector]
  due : ∀ earlier interrupt later,
    board.config.interrupts = earlier ++ interrupt :: later →
    interrupt.period.toNat ∣ board.frameIndex.toNat →
    (∀ other ∈ later, ¬ other.period.toNat ∣ board.frameIndex.toNat) →
      board.advance.machine.cpu.pending = some interrupt.vector
  quiet : (∀ interrupt ∈ board.config.interrupts,
      ¬ interrupt.period.toNat ∣ board.frameIndex.toNat) →
    board.advance.machine.cpu.pending =
      if board.frameServices = [] then board.machine.cpu.pending else none

theorem pending_advance (board : Board) :
    board.advance.machine.cpu.pending =
      board.due.getLast?.or (board.latched.after board.frameSteps).cpu.pending := by
  rw [machine_advance, foldl_raise]
  rfl

/-- The steps of a frame leave the waiting vector, or they accept it and leave none. -/
theorem frameServices_cases (board : Board) :
    (board.frameServices = [] ∧
      (board.latched.after board.frameSteps).cpu.pending = board.machine.cpu.pending) ∨
    ∃ vector, board.machine.cpu.pending = some vector ∧ board.frameServices = [vector] ∧
      (board.latched.after board.frameSteps).cpu.pending = none := by
  have frame := board.pending_frame
  cases services : board.frameServices with
  | nil =>
      rw [services, List.nil_append] at frame
      have same := congrArg List.head? frame
      rw [Option.head?_toList, Option.head?_toList] at same
      exact Or.inl ⟨rfl, same.symm⟩
  | cons vector others =>
      rw [services, List.cons_append] at frame
      cases waits : board.machine.cpu.pending with
      | none =>
          rw [waits] at frame
          cases frame
      | some waiting =>
          rw [waits, Option.toList_some, List.cons.injEq] at frame
          obtain ⟨same, rest⟩ := frame
          obtain ⟨noOthers, left⟩ := List.append_eq_nil_iff.mp rest.symm
          exact Or.inr ⟨waiting, rfl, by rw [same, noOthers], Option.toList_eq_nil_iff.mp left⟩

theorem pending_advance_of_quiet {board : Board} (none : board.due = []) :
    board.advance.machine.cpu.pending =
      if board.frameServices = [] then board.machine.cpu.pending else Option.none := by
  rw [pending_advance, none, List.getLast?_nil, Option.none_or]
  rcases board.frameServices_cases with ⟨services, left⟩ | ⟨vector, -, services, left⟩
  · rw [services, left, if_pos rfl]
  · rw [services, left, if_neg (List.cons_ne_nil _ _)]

/-- A frame with a step in it accepts a waiting vector at once if it may. -/
theorem frameServices_of_enabled {board : Board} {vector : UInt8} {rest : List Event}
    (stepsFirst : board.frameEvents = .step :: rest) (enabled : board.machine.cpu.enabled = true)
    (waits : board.machine.cpu.pending = some vector) :
    board.latched.Service vector ∧ board.frameServices = [vector] := by
  have accepts : board.latched.cpu.serviceable = some vector :=
    serviceable_eq_some_iff.mpr ⟨enabled, waits⟩
  refine ⟨service_of_serviceable accepts, ?_⟩
  have head : board.frameServices = vector :: board.latched.step.2.services rest := by
    rw [frameServices, stepsFirst, services, collect_cons, accepted, accepts]
    rfl
  rcases board.frameServices_cases with ⟨none, -⟩ | ⟨only, -, single, -⟩
  · rw [none] at head
    cases head
  · rw [head, List.cons.injEq] at single
    rw [head, single.2]

/-- In every frame of every run the line follows the schedule. -/
theorem frames_follow_schedule (board : Board) (valid : board.config.validate = .ok ())
    (frames : Nat) : (board.advanceBy frames).FrameSchedule where
  machine := machine_advance_eq_follow _
  atMostOne := by
    rcases (board.advanceBy frames).frameServices_cases with ⟨none, -⟩ | ⟨vector, -, single, -⟩
    · rw [none]
      exact Nat.zero_le 1
    · rw [single]
      exact Nat.le_refl 1
  waited := by
    intro vector member
    rcases (board.advanceBy frames).frameServices_cases with ⟨none, -⟩ | ⟨only, waits, single, -⟩
    · rw [none] at member
      cases member
    · rw [single, List.mem_singleton] at member
      rw [waits, member]
  first := by
    intro vector enabled waits
    have some : 0 < (board.advanceBy frames).budget := by
      rw [budget_advanceBy, budget_eq]
      exact Config.cyclesPerFrame_pos valid
    have stepsFirst : ∃ rest, (board.advanceBy frames).frameEvents = .step :: rest := by
      obtain ⟨fewer, count⟩ := Nat.exists_eq_succ_of_ne_zero
        (Nat.ne_of_gt ((board.advanceBy frames).latched.stepsToSpend_pos some))
      exact ⟨_, by rw [frameEvents, frameSteps, count]; rfl⟩
    obtain ⟨rest, stepsFirst⟩ := stepsFirst
    exact ⟨⟨rest, stepsFirst⟩, frameServices_of_enabled stepsFirst enabled waits⟩
  due := by
    intro earlier interrupt later schedule divides last
    rw [pending_advance, getLast?_due schedule divides last, Option.some_or]
  quiet := fun none => pending_advance_of_quiet (due_eq_nil none)

/-- From power-on EI; HLT waits for an interrupt. -/
theorem after_enableAndHalt (bus : SystemBus)
    (program : bus.memory = Memory.zero.load 0 [0xFB, 0x76]) :
    (⟨{}, bus⟩ : Machine SystemBus).after 2 =
      ⟨{ pc := 2, enabled := true, halted := true, cycles := 11 }, bus⟩ := by
  let first : Machine SystemBus := ⟨{}, bus⟩
  let second : Machine SystemBus := ⟨{ pc := 1, enabled := true, cycles := 4 }, bus⟩
  have enable : first.step.2 = second := by
    have fetched : first.read 0 = 0xFB := by
      change bus.memory.read 0 = 0xFB
      rw [program]
      rfl
    have decoded : Instruction.ofOpcode 0xFB = .ei := Instruction.ofOpcode_of_decode rfl
    rw [step_of_executed (executed?_eq_some_iff.mpr ⟨⟨rfl, rfl⟩, fetched⟩) decoded]
    rfl
  have halt : second.step.2 = ⟨{ pc := 2, enabled := true, halted := true, cycles := 11 }, bus⟩ := by
    have fetched : second.read 1 = 0x76 := by
      change bus.memory.read 1 = 0x76
      rw [program]
      rfl
    rw [step_of_hlt (executed?_eq_some_iff.mpr ⟨⟨rfl, rfl⟩, fetched⟩)]
    rfl
  rw [after_succ, after_succ, after_zero]
  change first.step.2.step.2 = _
  rw [enable, halt]

/-- EI; HLT: the vector that is raised behind the first frame is accepted in the second one. -/
theorem frames_follow_schedule_waiting :
    let board := (new ⟨Preset.spaceInvaders, {}⟩).loadRoms [⟨"invaders.h", [0xFB, 0x76]⟩]
    board.frameServices = [] ∧ (board.advanceBy 1).FrameSchedule ∧
      (board.advanceBy 1).frameServices = [1] ∧
        (board.advanceBy 1).advance.machine.cpu.pending = some 2 := by
  intro board
  have valid : board.config.validate = .ok () :=
    (rfl : Preset.spaceInvaders.validate = .ok ())
  have first : board.FrameSchedule := frames_follow_schedule board valid 0
  have second : (board.advanceBy 1).FrameSchedule := frames_follow_schedule board valid 1
  have quiet : board.frameServices = [] := by
    rw [List.eq_nil_iff_forall_not_mem]
    intro vector accepted
    cases first.waited vector accepted
  have enabled : board.advance.machine.cpu.enabled = true := by
    have program : board.latched.bus.memory = Memory.zero.load 0 [0xFB, 0x76] :=
      @memory_invaders ⟨Preset.spaceInvaders, {}⟩ rfl [0xFB, 0x76] (by decide)
    have room : 0 + 18 * 2 ≤ board.budget := by
      decide
    let halted : Machine SystemBus :=
      ⟨{ pc := 2, enabled := true, halted := true, cycles := 11 }, board.latched.bus⟩
    have waiting : board.latched.after 2 = halted :=
      after_enableAndHalt board.latched.bus program
    have quiet : halted.cpu.serviceable = none := rfl
    obtain ⟨cycles, idle⟩ :=
      spend_of_halted quiet rfl board.budget (0 + board.latched.costOf 2)
    rw [machine_advance_eq, board.latched.spend_eq_spend_after room, waiting, idle]
    rfl
  have waits : board.advance.machine.cpu.pending = some 1 :=
    first.due [⟨2, 1⟩] Preset.everyOtherFrame [] rfl ⟨0, rfl⟩ nofun
  have last : (board.advanceBy 1).advance.machine.cpu.pending = some 2 := by
    refine second.due [] ⟨2, 1⟩ [Preset.everyOtherFrame] rfl (Nat.one_dvd _) ?_
    rintro other listed
    cases List.mem_singleton.mp listed
    decide
  exact ⟨quiet, second, (second.first 1 enabled waits).2.2, last⟩

end Cabinet.Board
