import Cabinet.Cpu.Execution
import Cabinet.Proofs.Effect
import Cabinet.Proofs.Machine.InterruptLine
import Cabinet.Proofs.Machine.Simulation

/-!
# Execution and plain steps

A step with all that it does beside its result is the plain step, if nothing in it goes
wrong: what it tells can be erased without a trace. A step goes wrong where a port does,
or where the cycle count passes its end. Runs of steps tell what their steps tell, up to
the first that goes wrong.
-/

namespace Cabinet

open Cpu Log Outcome

/-! ## Ports -/

/--
What the ports of a bus say and what can be wrong with them; beside that they do what the
plain bus does. They never speak for the processor.
-/
class LawfulPorts (β : Type) [Bus β] [TellingBus β] where
  inputNotes : β → UInt8 → List Note
  outputNotes : β → UInt8 → UInt8 → List Note
  inputFault? : β → UInt8 → Option Panic
  outputFault? : β → UInt8 → UInt8 → Option Panic
  inputM_speaks : ∀ (σ : Type) [Listener σ] (bus : β) (port : UInt8),
    Speaks (TellingBus.inputM bus port : Telling σ (UInt8 × β)) (inputNotes bus port)
      (unlessFault (inputFault? bus port) (Bus.input bus port))
  outputM_speaks : ∀ (σ : Type) [Listener σ] (bus : β) (port value : UInt8),
    Speaks (TellingBus.outputM bus port value : Telling σ β) (outputNotes bus port value)
      (unlessFault (outputFault? bus port value) (Bus.output bus port value))
  input_apart : ∀ (bus : β) (port : UInt8), ∀ note ∈ inputNotes bus port, note.category ≠ .cpu
  output_apart : ∀ (bus : β) (port value : UInt8),
    ∀ note ∈ outputNotes bus port value, note.category ≠ .cpu

instance : LawfulPorts Memory where
  inputNotes _ _ := []
  outputNotes _ _ _ := []
  inputFault? _ _ := none
  outputFault? _ _ _ := none
  inputM_speaks _ _ _ _ := .pure _
  outputM_speaks _ _ _ _ _ := .pure _
  input_apart _ _ _ member := absurd member List.not_mem_nil
  output_apart _ _ _ _ member := absurd member List.not_mem_nil

instance : LawfulPorts ScriptedBus where
  inputNotes _ _ := []
  outputNotes _ _ _ := []
  inputFault? _ _ := none
  outputFault? _ _ _ := none
  inputM_speaks _ _ _ _ := .pure _
  outputM_speaks _ _ _ _ _ := .pure _
  input_apart _ _ _ member := absurd member List.not_mem_nil
  output_apart _ _ _ _ member := absurd member List.not_mem_nil

namespace Machine

variable {β σ : Type} [Listener σ]

/-! ## Raised vectors -/

/-- What is said when a vector is raised. -/
def raiseNotes (cpu : Cpu) (vector : UInt8) : List Note :=
  (cpu.pending.map fun previous => droppedNote previous vector).toList ++ [cpu.raiseNote vector]

theorem raiseM_speaks (machine : Machine β) (vector : UInt8) :
    Speaks (machine.raiseM vector : Telling σ (Machine β)) (raiseNotes machine.cpu vector)
      (.ok (machine.raise vector)) := by
  unfold raiseM raiseNotes
  cases machine.cpu.pending with
  | none => exact .tell_bind (.pure _)
  | some previous => exact .tell_bind (.tell_bind (.pure _))

/-! ## One step -/

/-- What is wrong with counting clock states. -/
def countFault? (cpu : Cpu) (cost : Nat) : Option Panic :=
  if cpu.cycles.toNat + cost < UInt64.size then none else some .addition

theorem finish_speaks (machine : Machine β) {cost : Nat} (four_le : 4 ≤ cost)
    (small : cost < UInt64.size) :
    Speaks (machine.finish cost four_le : Telling σ (Taken β)) []
      (unlessFault (countFault? machine.cpu cost) ⟨cost, machine.tick cost, four_le⟩) := by
  unfold finish
  rw [Checked.count_eq, UInt64.toNat_ofNat_of_lt' small, countFault?]
  split
  · exact (Speaks.ofExcept (.ok _)).bind (.pure _)
  · exact (Speaks.ofExcept (.error _)).stop

variable [Bus β]

/-- The step with its clock states. -/
def taken (machine : Machine β) : Taken β :=
  ⟨machine.step.1, machine.step.2, machine.four_le_step_cost⟩

theorem taken_eq {machine next : Machine β} {cost : Nat} (step : machine.step = (cost, next))
    (four_le : 4 ≤ cost) : machine.taken = ⟨cost, next, four_le⟩ := by
  simp only [taken, step]

/-- Steps one after another are a run of events. -/
theorem follow_steps (machine : Machine β) (count : Nat) :
    machine.follow (List.replicate count .step) = machine.after count := by
  induction count generalizing machine with
  | zero => rfl
  | succ count ih =>
      rw [after_succ]
      exact ih machine.step.2

/-- The steps that spend a budget. -/
def spending (machine : Machine β) (budget spent : Nat) : List Event :=
  List.replicate (machine.stepsToSpend budget spent) .step

theorem spending_of_lt {budget spent : Nat} (machine : Machine β) (left : spent < budget) :
    machine.spending budget spent =
      .step :: machine.step.2.spending budget (spent + machine.step.1) := by
  rw [spending, stepsToSpend_of_lt machine left, List.replicate_succ]
  rfl

theorem spending_of_le {budget spent : Nat} (machine : Machine β) (done : budget ≤ spent) :
    machine.spending budget spent = [] := by
  rw [spending, stepsToSpend_of_le machine done, List.replicate_zero]

variable [TellingBus β] [LawfulPorts β]

/-- What the port that an instruction uses has to say. -/
def portNotes (machine : Machine β) : Instruction → List Note
  | .output =>
      LawfulPorts.outputNotes machine.bus (machine.read (machine.cpu.pc + 1)) machine.cpu.a
  | .input => LawfulPorts.inputNotes machine.bus (machine.read (machine.cpu.pc + 1))
  | _ => []

/-- What is wrong with the port that an instruction uses. -/
def portFault? (machine : Machine β) : Instruction → Option Panic
  | .output =>
      LawfulPorts.outputFault? machine.bus (machine.read (machine.cpu.pc + 1)) machine.cpu.a
  | .input => LawfulPorts.inputFault? machine.bus (machine.read (machine.cpu.pc + 1))
  | _ => none

/-- What an opcode has to say beside its line. -/
def instructionNotes (machine : Machine β) (opcode : UInt8) : List Note :=
  if Instruction.ofOpcode opcode = .unknown then [unknownNote machine.cpu.pc opcode]
  else machine.portNotes (.ofOpcode opcode)

theorem performM_speaks (machine : Machine β) (opcode : UInt8) :
    Speaks (machine.performM opcode : Telling σ (Machine β))
      (machine.cpu.traceNote opcode :: machine.instructionNotes opcode)
      (unlessFault (machine.portFault? (.ofOpcode opcode))
        (machine.perform (.ofOpcode opcode))) := by
  unfold performM instructionNotes perform
  refine .tell_bind ?_
  dsimp only
  generalize Instruction.ofOpcode opcode = instruction
  cases instruction with
  | output =>
      have speaks := LawfulPorts.outputM_speaks σ machine.bus
        (machine.read (machine.cpu.pc + 1)) machine.cpu.a
      exact speaks.map _
  | input =>
      have speaks := LawfulPorts.inputM_speaks σ machine.bus (machine.read (machine.cpu.pc + 1))
      exact speaks.map _
  | unknown => exact .tell_bind (.pure _)
  | _ => exact .pure _

/-- What a step has to say. -/
def stepNotes (machine : Machine β) : List Note :=
  match machine.cpu.serviceable with
  | some vector => [serviceNote vector (machine.service vector).cpu.pc]
  | none =>
      if machine.cpu.halted then []
      else
        let opcode := machine.read machine.cpu.pc
        machine.cpu.traceNote opcode :: machine.instructionNotes opcode

/-- What is wrong with the port that a step uses. -/
def usedPortFault? (machine : Machine β) : Option Panic :=
  if machine.cpu.serviceable = none ∧ machine.cpu.halted = false then
    machine.portFault? machine.current
  else none

/-- What is wrong with a step. -/
def stepFault? (machine : Machine β) : Option Panic :=
  machine.usedPortFault?.or (countFault? machine.cpu machine.step.1)

theorem stepFault?_of_idle {machine : Machine β}
    (idle : ¬ (machine.cpu.serviceable = none ∧ machine.cpu.halted = false)) :
    machine.stepFault? = countFault? machine.cpu machine.step.1 := by
  rw [stepFault?, usedPortFault?, if_neg idle, Option.none_or]

theorem stepFault?_of_running {machine : Machine β} (quiet : machine.cpu.serviceable = none)
    (running : machine.cpu.halted = false) :
    machine.stepFault? = (machine.portFault? machine.current).or
      (countFault? machine.cpu (machine.current.cost machine.cpu)) := by
  rw [stepFault?, usedPortFault?, if_pos ⟨quiet, running⟩, step_of_running quiet running]

theorem stepNotes_of_serviceable {machine : Machine β} {vector : UInt8}
    (waits : machine.cpu.serviceable = some vector) :
    machine.stepNotes = [serviceNote vector (machine.service vector).cpu.pc] := by
  rw [stepNotes, waits]

theorem stepNotes_of_halted {machine : Machine β} (quiet : machine.cpu.serviceable = none)
    (halted : machine.cpu.halted = true) : machine.stepNotes = [] := by
  rw [stepNotes, quiet]
  exact if_pos halted

theorem stepNotes_of_running {machine : Machine β} (quiet : machine.cpu.serviceable = none)
    (running : machine.cpu.halted = false) :
    machine.stepNotes =
      machine.cpu.traceNote (machine.read machine.cpu.pc) ::
        machine.instructionNotes (machine.read machine.cpu.pc) := by
  rw [stepNotes, quiet]
  exact if_neg (Bool.eq_false_iff.mp running)

/-- A step that tells is the plain one, with what is told beside it. -/
theorem stepM_speaks (machine : Machine β) :
    Speaks (machine.stepM : Telling σ (Taken β)) machine.stepNotes
      (unlessFault machine.stepFault? machine.taken) := by
  unfold stepM
  rcases machine.step_cases with ⟨vector, waits, step⟩ | ⟨quiet, halted, step⟩ |
    ⟨quiet, running, step⟩
  · have busy : ¬ (machine.cpu.serviceable = none ∧ machine.cpu.halted = false) := by
      simp [waits]
    rw [stepNotes_of_serviceable waits, stepFault?_of_idle busy, step,
      taken_eq step (by decide), waits]
    exact .tell_bind (finish_speaks (machine.service vector) (by decide) (by decide))
  · have idle : ¬ (machine.cpu.serviceable = none ∧ machine.cpu.halted = false) := by
      simp [halted]
    rw [stepNotes_of_halted quiet halted, stepFault?_of_idle idle, step,
      taken_eq step (by decide), quiet]
    simp only [halted, if_true]
    exact finish_speaks machine (by decide) (by decide)
  · have short : machine.current.cost machine.cpu < UInt64.size :=
      Nat.lt_of_le_of_lt (machine.current.cost_le machine.cpu) (by decide)
    rw [stepNotes_of_running quiet running, stepFault?_of_running quiet running,
      taken_eq step (machine.current.four_le_cost machine.cpu), quiet]
    simp only [running, Bool.false_eq_true, if_false]
    have counted : Speaks (_ : Telling σ (Taken β)) [] _ :=
      finish_speaks (machine.perform machine.current)
        (machine.current.four_le_cost machine.cpu) short
    rw [countFault?, cycles_perform, ← countFault?] at counted
    exact (machine.performM_speaks (machine.read machine.cpu.pc)).then_silent counted

/-! ## Runs -/

/-- What happens, with all that is said and may go wrong. -/
def onM (machine : Machine β) : Event → Telling σ (Machine β)
  | .raise vector => machine.raiseM vector
  | .step => do
      let taken ← machine.stepM
      return taken.machine

/-- Events in order, with all that is said and may go wrong. -/
def followM (machine : Machine β) (events : List Event) : Telling σ (Machine β) :=
  events.foldlM onM machine

/-- What is said about an event. -/
def eventNotes (machine : Machine β) : Event → List Note
  | .raise vector => raiseNotes machine.cpu vector
  | .step => machine.stepNotes

/-- What is wrong with an event. -/
def eventFault? (machine : Machine β) : Event → Option Panic
  | .raise _ => none
  | .step => machine.stepFault?

/-- What is said during a run. -/
def runNotes (machine : Machine β) : List Event → List Note
  | [] => []
  | event :: events => machine.eventNotes event ++ (machine.on event).runNotes events

/-- What goes wrong first in a run. -/
def runFault? (machine : Machine β) : List Event → Option Panic
  | [] => none
  | event :: events => (machine.eventFault? event).or ((machine.on event).runFault? events)

/-- The events up to the first that goes wrong, which is among them. -/
def untilFault (machine : Machine β) : List Event → List Event
  | [] => []
  | event :: events =>
      event :: if (machine.eventFault? event).isNone then (machine.on event).untilFault events
        else []

theorem runNotes_untilFault_cons (machine : Machine β) (event : Event) (events : List Event) :
    machine.runNotes (machine.untilFault (event :: events)) =
      machine.eventNotes event ++ if (machine.eventFault? event).isNone then
        (machine.on event).runNotes ((machine.on event).untilFault events) else [] := by
  rw [untilFault, runNotes]
  split
  · rfl
  · rfl

theorem onM_speaks (machine : Machine β) (event : Event) :
    Speaks (machine.onM event : Telling σ (Machine β)) (machine.eventNotes event)
      (unlessFault (machine.eventFault? event) (machine.on event)) := by
  cases event with
  | raise vector => exact machine.raiseM_speaks vector
  | step => exact machine.stepM_speaks.map Taken.machine

/-- By induction on the run: each event adds its notes, unless one before it went wrong. -/
theorem followM_speaks (machine : Machine β) (events : List Event) :
    Speaks (machine.followM events : Telling σ (Machine β))
      (machine.runNotes (machine.untilFault events))
      (unlessFault (machine.runFault? events) (machine.follow events)) := by
  induction events generalizing machine with
  | nil => exact .pure machine
  | cons event events ih =>
      rw [followM, List.foldlM_cons, runNotes_untilFault_cons]
      exact (machine.onM_speaks event).bind_unless fun _ => ih (machine.on event)

theorem runNotes_append (machine : Machine β) (first second : List Event) :
    machine.runNotes (first ++ second) =
      machine.runNotes first ++ (machine.follow first).runNotes second := by
  induction first generalizing machine with
  | nil => rfl
  | cons event first ih =>
      rw [List.cons_append, runNotes, ih, runNotes, List.append_assoc]
      rfl

theorem untilFault_of_runFault? {machine : Machine β} {events : List Event}
    (sound : machine.runFault? events = none) : machine.untilFault events = events := by
  induction events generalizing machine with
  | nil => rfl
  | cons event events ih =>
      obtain ⟨here, later⟩ := Option.or_eq_none_iff.mp sound
      rw [untilFault, here, Option.isNone_none, if_pos rfl, ih later]

/-- Steps go right if their ports do and the cycle count has room for what they cost. -/
theorem runFault?_steps_eq_none_iff (machine : Machine β) (count : Nat) :
    machine.runFault? (List.replicate count .step) = none ↔
      (∀ fewer < count, (machine.after fewer).usedPortFault? = none) ∧
        machine.cpu.cycles.toNat + machine.costOf count < UInt64.size := by
  induction count generalizing machine with
  | zero => exact iff_of_true rfl ⟨nofun, machine.cpu.cycles.toNat_lt⟩
  | succ count ih =>
      have counted : countFault? machine.cpu machine.step.1 = none ↔
          machine.cpu.cycles.toNat + machine.step.1 < UInt64.size := by
        unfold countFault?
        split <;> simp_all
      have cycles (fits : machine.cpu.cycles.toNat + machine.step.1 < UInt64.size) :
          machine.step.2.cpu.cycles.toNat = machine.cpu.cycles.toNat + machine.step.1 := by
        rw [cycles_step]
        exact Checked.toNat_add_ofNat fits
      rw [List.replicate_succ, runFault?, Option.or_eq_none_iff, eventFault?, stepFault?,
        Option.or_eq_none_iff, counted, on, ih, Nat.forall_lt_succ_left, after_zero, costOf_succ]
      simp only [after_succ]
      constructor
      · rintro ⟨⟨here, fits⟩, later, total⟩
        rw [cycles fits] at total
        exact ⟨⟨here, later⟩, by omega⟩
      · rintro ⟨⟨here, later⟩, total⟩
        have fits : machine.cpu.cycles.toNat + machine.step.1 < UInt64.size := by omega
        rw [cycles fits]
        exact ⟨⟨here, fits⟩, later, by omega⟩

/-! ## Spending a budget -/

/-- What is wrong with a sum of clock states. -/
def sumFault? (sum : Nat) : Option Panic :=
  if sum < counterLimit then none else some .addition

theorem sumFault?_eq_none_iff {sum : Nat} : sumFault? sum = none ↔ sum < counterLimit := by
  unfold sumFault?
  split <;> simp_all

/-- What is wrong with spending a budget: one of the steps, or the sum behind the last. -/
def spendFault? (machine : Machine β) (budget spent : Nat) : Option Panic :=
  (machine.runFault? (machine.spending budget spent)).or
    (sumFault? (machine.spend budget spent).1)

/--
Spending tells what its steps tell. A sum that does not fit its 32 bits is the last one,
as the budget fits them.
-/
theorem spendM_speaks {budget spent : Nat} (machine : Machine β) (small : budget ≤ counterLimit)
    (held : spent < counterLimit) :
    Speaks (machine.spendM budget spent : Telling σ (Nat × Machine β))
      (machine.runNotes (machine.untilFault (machine.spending budget spent)))
      (unlessFault (machine.spendFault? budget spent) (machine.spend budget spent)) := by
  induction spent, machine using @stepsToSpend.induct β _ budget with
  | case1 spent machine left ih =>
      rw [spendM, if_pos left, spendFault?, spending_of_lt machine left, runNotes_untilFault_cons,
        spend_of_lt machine left, runFault?, Option.or_assoc]
      refine machine.stepM_speaks.bind_unless fun _ => ?_
      dsimp only [taken, on]
      by_cases fits : spent + machine.step.1 < counterLimit
      · rw [if_pos fits]
        exact ih fits
      · -- The budget is reached by then, so no step is left to be taken.
        have done : budget ≤ spent + machine.step.1 := by omega
        have beyond : sumFault? (spent + machine.step.1) = some .addition := if_neg fits
        rw [if_neg fits, spending_of_le _ done, spend_of_le _ done, beyond]
        exact .throw .addition
  | case2 spent machine done =>
      rw [spendM, if_neg done, spendFault?, spending_of_le machine (Nat.not_lt.mp done),
        spend_of_le machine (Nat.not_lt.mp done), sumFault?_eq_none_iff.mpr held]
      exact .pure _

/-! ## Faults on related buses -/

section Related

variable {γ : Type} [Bus γ] [TellingBus γ] [LawfulPorts γ] {Related : β → γ → Prop}
  {first : Machine β} {second : Machine γ}

/-- The same is wrong with every port of related buses. -/
structure SameFaults (Related : β → γ → Prop) : Prop where
  input : ∀ {first second}, Related first second → ∀ port,
    LawfulPorts.inputFault? first port = LawfulPorts.inputFault? second port
  output : ∀ {first second}, Related first second → ∀ port value,
    LawfulPorts.outputFault? first port value = LawfulPorts.outputFault? second port value

variable (simulates : Bus.Simulation Related) (same : SameFaults Related)

include simulates same

theorem Alike.usedPortFault? (alike : Alike Related first second) :
    first.usedPortFault? = second.usedPortFault? := by
  have current := alike.current simulates.toMemorySimulation
  have operand := alike.read simulates.toMemorySimulation
    (congrArg (fun cpu : Cpu => cpu.pc + 1) alike.cpu)
  unfold Machine.usedPortFault?
  rw [alike.cpu, current]
  cases second.current with
  | input =>
      simp only [portFault?]
      rw [operand, same.input alike.bus]
  | output =>
      simp only [portFault?]
      rw [operand, alike.cpu, same.output alike.bus]
  | _ => rfl

theorem Alike.runFault?_steps (alike : Alike Related first second) (count : Nat) :
    first.runFault? (List.replicate count .step) =
      second.runFault? (List.replicate count .step) := by
  induction count generalizing first second with
  | zero => rfl
  | succ count ih =>
      obtain ⟨cost, next⟩ := alike.step simulates
      rw [List.replicate_succ, runFault?, runFault?, eventFault?, eventFault?, stepFault?,
        stepFault?, alike.usedPortFault? simulates same, alike.cpu, cost, on, on, ih next]

theorem Alike.spendFault? (alike : Alike Related first second) (budget spent : Nat) :
    first.spendFault? budget spent = second.spendFault? budget spent := by
  rw [Machine.spendFault?, Machine.spendFault?, spending, spending,
    alike.stepsToSpend simulates, alike.runFault?_steps simulates same,
    (alike.spend simulates budget spent).1]

end Related

end Machine

end Cabinet
