import Cabinet.Proofs.Machine.Control
import Mathlib.Algebra.Ring.Nat

/-!
# The interrupt line

Vectors are raised at any time between steps. The line holds one of them: it is
accepted by a step, replaced by a later one, or still waits at the end. No
instruction changes the line, so it always holds the vector raised last, as
long as no step since then has accepted it.
-/

namespace Cabinet

namespace Cpu

variable {cpu : Cpu}

theorem serviceable_of_pending (empty : cpu.pending = none) : cpu.serviceable = none := by
  rw [serviceable, empty, ite_self]

theorem serviceable_of_enabled (enabled : cpu.enabled = true) :
    cpu.serviceable = cpu.pending := by
  rw [serviceable, if_pos enabled]

theorem serviceable_of_disabled (disabled : cpu.enabled = false) : cpu.serviceable = none := by
  rw [serviceable, disabled]
  rfl

end Cpu

namespace Machine

open Cpu

variable {β : Type}

/-- What can happen to a running machine. -/
inductive Event where
  | raise (vector : UInt8)
  | step
deriving DecidableEq

/-- The vector that an event raises. -/
def Event.vector? : Event → Option UInt8
  | .raise vector => some vector
  | .step => none

/-- The vectors that are raised, in order. -/
def raises (events : List Event) : List UInt8 :=
  events.filterMap Event.vector?

/-- The vector that is lost when an event replaces it. -/
def replaced (machine : Machine β) : Event → Option UInt8
  | .raise _ => machine.cpu.pending
  | .step => none

/-- The vector that an event accepts. -/
def accepted (machine : Machine β) : Event → Option UInt8
  | .raise _ => none
  | .step => machine.cpu.serviceable

variable [Bus β]

def on (machine : Machine β) : Event → Machine β
  | .raise vector => machine.raise vector
  | .step => machine.step.2

/-- The machine after events in order. -/
def follow (machine : Machine β) (events : List Event) : Machine β :=
  events.foldl on machine

/-- What `pick` finds at each event with the machine that the event meets. -/
def collect (pick : Machine β → Event → Option UInt8) (machine : Machine β) :
    List Event → List UInt8
  | [] => []
  | event :: events => (pick machine event).toList ++ collect pick (machine.on event) events

/-- The vectors that steps accept, in order. -/
def services (machine : Machine β) (events : List Event) : List UInt8 :=
  machine.collect accepted events

/-- The vectors that are replaced while they wait, in order. -/
def replacements (machine : Machine β) (events : List Event) : List UInt8 :=
  machine.collect replaced events

@[simp] theorem follow_nil (machine : Machine β) : machine.follow [] = machine := rfl

@[simp] theorem follow_cons (machine : Machine β) (event : Event) (events : List Event) :
    machine.follow (event :: events) = (machine.on event).follow events := rfl

theorem follow_append (machine : Machine β) (first second : List Event) :
    machine.follow (first ++ second) = (machine.follow first).follow second :=
  List.foldl_append

theorem raises_cons (event : Event) (events : List Event) :
    raises (event :: events) = event.vector?.toList ++ raises events := by
  cases event with
  | raise vector => rfl
  | step => rfl

theorem collect_cons (pick : Machine β → Event → Option UInt8) (machine : Machine β)
    (event : Event) (events : List Event) :
    machine.collect pick (event :: events) =
      (pick machine event).toList ++ (machine.on event).collect pick events := rfl

theorem collect_append (pick : Machine β → Event → Option UInt8) (machine : Machine β)
    (first second : List Event) :
    machine.collect pick (first ++ second) =
      machine.collect pick first ++ (machine.follow first).collect pick second := by
  induction first generalizing machine with
  | nil => rfl
  | cons event first ih =>
      rw [List.cons_append, collect_cons, collect_cons, ih, List.append_assoc, follow_cons]

/-! ## One step -/

/--
Everything that a step does when it accepts a vector. The program counter goes to the stack,
whose pointer may wrap, and no register that is not named here changes.
-/
structure Service (machine : Machine β) (vector : UInt8) : Prop where
  enabled : machine.cpu.enabled = true
  waits : machine.cpu.pending = some vector
  cost : machine.step.1 = 11
  bus : machine.step.2.bus =
    Bus.write (Bus.write machine.bus (machine.cpu.sp - 1) (highByte machine.cpu.pc))
      (machine.cpu.sp - 2) (lowByte machine.cpu.pc)
  cpu : machine.step.2.cpu =
    { machine.cpu with
      enabled := false
      halted := false
      pending := none
      sp := machine.cpu.sp - 2
      pc := handlerAddress vector
      cycles := machine.cpu.cycles + 11 }
  pc : machine.step.2.cpu.pc.toNat = 8 * vector.toNat % 2 ^ 16

theorem serviceable_eq_some_iff {cpu : Cpu} {vector : UInt8} :
    cpu.serviceable = some vector ↔ cpu.enabled = true ∧ cpu.pending = some vector := by
  unfold serviceable
  cases cpu.enabled with
  | true => simp
  | false => simp

theorem toNat_handlerAddress (vector : UInt8) :
    (handlerAddress vector).toNat = 8 * vector.toNat % 2 ^ 16 := by
  rw [handlerAddress, UInt16.toNat_mul, UInt8.toNat_toUInt16, Nat.mul_comm]
  rfl

theorem service_of_serviceable {machine : Machine β} {vector : UInt8}
    (waits : machine.cpu.serviceable = some vector) : machine.Service vector where
  enabled := (serviceable_eq_some_iff.mp waits).1
  waits := (serviceable_eq_some_iff.mp waits).2
  cost := by
    rw [step_of_serviceable waits]
    rfl
  bus := by
    rw [step_of_serviceable waits]
    rfl
  cpu := by
    rw [step_of_serviceable waits]
    rfl
  pc := by
    rw [step_of_serviceable waits]
    exact toNat_handlerAddress vector

/-- A step that accepts no vector leaves the line alone. -/
theorem pending_step_of_quiet {machine : Machine β} (quiet : machine.cpu.serviceable = none) :
    machine.step.2.cpu.pending = machine.cpu.pending := by
  cases halted : machine.cpu.halted with
  | true =>
      rw [step_of_halted quiet halted]
      rfl
  | false =>
      rw [step_of_running quiet halted]
      simp only [tick_cpu, pending_perform]

theorem pending_step_of_serviceable {machine : Machine β} {vector : UInt8}
    (waits : machine.cpu.serviceable = some vector) :
    machine.step.2.cpu.pending = none :=
  congrArg Cpu.pending (service_of_serviceable waits).cpu

/-- A step takes a waiting vector off the line just when interrupts are accepted. -/
theorem pending_step_eq_none_iff {machine : Machine β} {vector : UInt8}
    (waits : machine.cpu.pending = some vector) :
    machine.step.2.cpu.pending = none ↔ machine.cpu.enabled = true := by
  constructor
  · intro taken
    cases serviceable : machine.cpu.serviceable with
    | none =>
        rw [pending_step_of_quiet serviceable, waits] at taken
        cases taken
    | some other => exact (serviceable_eq_some_iff.mp serviceable).1
  · intro enabled
    exact pending_step_of_serviceable (serviceable_eq_some_iff.mpr ⟨enabled, waits⟩)

/-! ## Conservation -/

/-- One event moves vectors but neither makes nor loses any. -/
theorem count_on (machine : Machine β) (event : Event) (vector : UInt8) :
    event.vector?.toList.count vector + machine.cpu.pending.toList.count vector =
      (machine.accepted event).toList.count vector +
        (machine.replaced event).toList.count vector +
        (machine.on event).cpu.pending.toList.count vector := by
  cases event with
  | raise other =>
      simp only [accepted, replaced, Event.vector?, on, raise_cpu, Cpu.raise]
      simp only [Option.toList_none, List.count_nil]
      omega
  | step =>
      simp only [accepted, replaced, Event.vector?, on]
      cases serviceable : machine.cpu.serviceable with
      | none => simp [pending_step_of_quiet serviceable]
      | some other =>
          rw [pending_step_of_serviceable serviceable,
            (serviceable_eq_some_iff.mp serviceable).2]
          simp

/-- What is raised, or waits at first, is accepted, replaced or waits at last. -/
theorem raises_perm (machine : Machine β) (events : List Event) :
    (raises events ++ machine.cpu.pending.toList).Perm
      (machine.services events ++ machine.replacements events ++
        (machine.follow events).cpu.pending.toList) := by
  rw [List.perm_iff_count]
  intro vector
  induction events generalizing machine with
  | nil => simp [raises, services, replacements, collect]
  | cons event events ih =>
      have now := machine.count_on event vector
      have later := ih (machine.on event)
      simp only [services, replacements, raises_cons, collect_cons, List.count_append,
        follow_cons] at later ⊢
      omega

/-! ## Steps only -/

theorem raises_steps (count : Nat) : raises (List.replicate count .step) = [] := by
  induction count with
  | zero => rfl
  | succ count ih => exact ih

theorem replacements_steps (machine : Machine β) (count : Nat) :
    machine.replacements (List.replicate count .step) = [] := by
  induction count generalizing machine with
  | zero => rfl
  | succ count ih => exact ih machine.step.2

/-- A vector that waits while steps are taken is accepted by one of them or waits on. -/
theorem pending_steps (machine : Machine β) (count : Nat) :
    machine.cpu.pending.toList =
      machine.services (List.replicate count .step) ++
        (machine.follow (List.replicate count .step)).cpu.pending.toList := by
  have moved := machine.raises_perm (List.replicate count .step)
  rw [raises_steps, replacements_steps, List.nil_append, List.append_nil] at moved
  cases waits : machine.cpu.pending with
  | none =>
      rw [waits] at moved
      exact (List.nil_perm.mp moved).symm
  | some vector =>
      rw [waits] at moved
      exact List.singleton_perm.mp moved

/-! ## The vector raised last -/

/-- The vector was raised in `past`; since then steps only were taken, and none accepted one. -/
def Untaken (machine : Machine β) (past : List Event) (vector : UInt8) : Prop :=
  ∃ before after, past = before ++ .raise vector :: after ∧ (∀ event ∈ after, event = .step) ∧
    (machine.follow (before ++ [.raise vector])).services after = []

/-- The vector waited before `past`, in which steps only were taken, none of which accepted one. -/
def Left (machine : Machine β) (past : List Event) (vector : UInt8) : Prop :=
  machine.cpu.pending = some vector ∧ (∀ event ∈ past, event = .step) ∧
    machine.services past = []

/-- What waits on the line is the vector raised last, not yet accepted. -/
theorem untaken_or_left (machine : Machine β) (past : List Event) {vector : UInt8}
    (waits : (machine.follow past).cpu.pending = some vector) :
    machine.Untaken past vector ∨ machine.Left past vector := by
  induction past generalizing machine with
  | nil => exact Or.inr ⟨waits, fun _ member => (List.not_mem_nil member).elim, rfl⟩
  | cons event past ih =>
      rcases ih (machine.on event) waits with
        ⟨before, after, rfl, steps, none⟩ | ⟨held, steps, none⟩
      · exact Or.inl ⟨event :: before, after, rfl, steps, none⟩
      · cases event with
        | raise other =>
            have same : other = vector := Option.some.inj held
            subst same
            exact Or.inl ⟨[], past, rfl, steps, none⟩
        | step =>
            -- The step left the line as it was, so it accepted nothing.
            have quiet : machine.cpu.serviceable = Option.none := by
              cases serviceable : machine.cpu.serviceable with
              | none => rfl
              | some other =>
                  rw [on, pending_step_of_serviceable serviceable] at held
                  cases held
            rw [on, pending_step_of_quiet quiet] at held
            refine Or.inr ⟨held, ?_, ?_⟩
            · intro event member
              rcases List.mem_cons.mp member with same | inside
              · exact same
              · exact steps event inside
            · change (machine.accepted .step).toList ++ _ = []
              rw [accepted, quiet]
              exact none

/-- After a step that accepted a vector, the next one to be accepted was raised since. -/
theorem untaken_of_service {machine : Machine β} {former vector : UInt8} (between : List Event)
    (first : machine.cpu.serviceable = some former)
    (second : (machine.step.2.follow between).cpu.serviceable = some vector) :
    machine.step.2.Untaken between vector := by
  have waits := (serviceable_eq_some_iff.mp second).2
  rcases machine.step.2.untaken_or_left between waits with untaken | ⟨held, -⟩
  · exact untaken
  · rw [pending_step_of_serviceable first] at held
    cases held

/-! ## The account of a run -/

/--
What the interrupt line does with the vectors of a run. Every vector is accounted for, with
its multiplicity. A step takes a waiting vector off the line just when interrupts are
accepted, and then it is the vector raised last, which no step before accepted. Two steps
never accept the same raise: the later one was raised between them.
-/
structure LineAccount (machine : Machine β) (events : List Event) : Prop where
  vectors : (raises events ++ machine.cpu.pending.toList).Perm
    (machine.services events ++ machine.replacements events ++
      (machine.follow events).cpu.pending.toList)
  balance : (raises events).length + machine.cpu.pending.toList.length =
    (machine.services events).length + (machine.replacements events).length +
      (machine.follow events).cpu.pending.toList.length
  taken : ∀ past rest vector, events = past ++ .step :: rest →
    (machine.follow past).cpu.pending = some vector →
      ((machine.follow past).step.2.cpu.pending = none ↔
        (machine.follow past).cpu.enabled = true)
  latest : ∀ past rest vector, events = past ++ .step :: rest →
    (machine.follow past).cpu.serviceable = some vector →
      (machine.follow past).Service vector ∧
        (machine.Untaken past vector ∨ machine.Left past vector)
  once : ∀ past between rest former vector,
    events = past ++ .step :: (between ++ .step :: rest) →
    (machine.follow past).cpu.serviceable = some former →
    (machine.follow (past ++ .step :: between)).cpu.serviceable = some vector →
      (machine.follow past).step.2.Untaken between vector

/-- No vector is lost or made on the interrupt line, whatever the program does. -/
theorem interrupts_conserved (machine : Machine β) (events : List Event) :
    machine.LineAccount events where
  vectors := machine.raises_perm events
  balance := by
    have lengths := (machine.raises_perm events).length_eq
    simpa only [List.length_append] using lengths
  taken := by
    intro past rest vector _ waits
    exact pending_step_eq_none_iff waits
  latest := by
    intro past rest vector _ waits
    exact ⟨service_of_serviceable waits,
      machine.untaken_or_left past (serviceable_eq_some_iff.mp waits).2⟩
  once := by
    intro past between rest former vector _ first second
    rw [follow_append, follow_cons] at second
    exact untaken_of_service between first second

end Machine

end Cabinet
