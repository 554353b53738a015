import Cabinet.Proofs.Machine.FlagDiscipline
import Cabinet.Proofs.Machine.PortTraffic
import Cabinet.Proofs.Machine.Sequencing

/-!
# The halt

A halted machine does nothing but count clock states, while the vectors that are
raised replace one another on the interrupt line. If it accepts no interrupts, this
goes on for ever. If it does, the first step that finds a vector on the line ends the
halt: it calls the handler, which returns to the address behind the instruction that
halted the machine.
-/

namespace Cabinet

open Machine (Event raises)

/-- The opcode of HLT. -/
def Cpu.Opcode.hlt : UInt8 := 0x76

namespace Cpu

/-- The processor after events during which it only waits, four clock states a step. -/
def waiting (cpu : Cpu) (events : List Event) : Cpu :=
  { cpu with
    pending := (raises events).getLast?.or cpu.pending
    cycles := cpu.cycles + UInt64.ofNat (4 * events.count .step) }

theorem waiting_nil (cpu : Cpu) : cpu.waiting [] = cpu := by
  have cycles : cpu.cycles + UInt64.ofNat (4 * 0) = cpu.cycles := UInt64.add_zero _
  rw [waiting, List.count_nil, cycles]
  rfl

theorem waiting_raise (cpu : Cpu) (vector : UInt8) (events : List Event) :
    (cpu.raise vector).waiting events = cpu.waiting (.raise vector :: events) := by
  have last : (raises (.raise vector :: events)).getLast?.or cpu.pending =
      (raises events).getLast?.or (some vector) := by
    rw [Machine.raises_cons, Event.vector?, Option.toList_some, List.singleton_append,
      List.getLast?_cons]
    cases (raises events).getLast? <;> rfl
  have steps : (Event.raise vector :: events).count .step = events.count .step :=
    List.count_cons_of_ne Event.noConfusion
  rw [waiting, waiting, last, steps, raise]

theorem waiting_step (cpu : Cpu) (events : List Event) :
    { cpu with cycles := cpu.cycles + 4 }.waiting events = cpu.waiting (.step :: events) := by
  have cycles : cpu.cycles + 4 + UInt64.ofNat (4 * events.count .step) =
      cpu.cycles + UInt64.ofNat (4 * (events.count .step + 1)) := by
    rw [Nat.mul_add, Nat.add_comm, UInt64.ofNat_add, UInt64.add_assoc]
    rfl
  rw [waiting, waiting, List.count_cons_self, cycles]
  rfl

end Cpu

namespace Machine

open Cpu

variable {β : Type} [Bus β]

/-- No step among the events accepts a vector. -/
def Quiet (machine : Machine β) (events : List Event) : Prop :=
  ∀ past, past ++ [.step] <+: events → (machine.follow past).cpu.serviceable = none

/--
The machine does nothing in the events but wait: no register changes and no flag, and
neither does the halt.
-/
structure Waits (machine : Machine β) (events : List Event) : Prop where
  cpu : (machine.follow events).cpu = machine.cpu.waiting events
  bus : (machine.follow events).bus = machine.bus
  received : machine.received events = []
  sent : machine.sent events = []
  cost : ∀ past, past ++ [.step] <+: events → (machine.follow past).step.1 = 4

/--
The step behind the events ends the halt and calls the handler of a vector. The address to
return to is the program counter of the halted machine.
-/
structure Wakes (machine : Machine β) (events : List Event) (vector : UInt8) : Prop where
  cost : (machine.follow events).step.1 = 11
  cpu : (machine.follow events).step.2.cpu =
    { machine.cpu with
      enabled := false
      halted := false
      pending := none
      sp := machine.cpu.sp - 2
      pc := handlerAddress vector
      cycles := (machine.cpu.waiting events).cycles + 11 }
  bus : (machine.follow events).step.2.bus = machine.stacked machine.cpu.pc

/-- The machine executed an HLT at an address and does nothing but wait since then. -/
def HaltedAt (machine : Machine β) (address : UInt16) : Prop :=
  ∃ (before : Machine β) (events : List Event),
    before.executed? = some Opcode.hlt ∧ before.cpu.pc = address ∧
      before.step.2.Waits events ∧ machine = before.step.2.follow events

variable {machine : Machine β} {events : List Event} {vector : UInt8}

theorem Quiet.tail {event : Event} (quiet : machine.Quiet (event :: events)) :
    (machine.on event).Quiet events :=
  fun past leads => quiet (event :: past) (List.cons_prefix_cons.mpr ⟨rfl, leads⟩)

/-- A halted machine only waits until a step accepts a vector. -/
theorem follow_of_quiet (halted : machine.cpu.halted = true) (quiet : machine.Quiet events) :
    machine.follow events = ⟨machine.cpu.waiting events, machine.bus⟩ := by
  induction events generalizing machine with
  | nil => rw [follow_nil, waiting_nil]
  | cons event events ih =>
      have later := quiet.tail
      rw [follow_cons]
      cases event with
      | raise vector =>
          have still : (machine.on (.raise vector)).cpu.halted = true := halted
          rw [ih still later, ← waiting_raise]
          rfl
      | step =>
          have idle : machine.on .step = machine.tick idleCost :=
            congrArg Prod.snd (step_of_halted (quiet [] ⟨events, rfl⟩) halted)
          have still : (machine.on .step).cpu.halted = true := by
            rw [idle]
            exact halted
          rw [ih still later, idle, ← waiting_step]
          rfl

/-- Being watched does not make a step accept a vector. -/
theorem Quiet.watched (quiet : machine.Quiet events) : machine.watched.Quiet events := by
  intro past leads
  rw [(machine.follow_watched past).cpu]
  exact quiet past leads

theorem Quiet.before (quiet : machine.Quiet events) {past : List Event} (leads : past <+: events) :
    machine.Quiet past :=
  fun earlier sooner => quiet earlier (sooner.trans leads)

/-- A halted machine waits through the events exactly if none of its steps accepts a vector. -/
theorem waits_iff_quiet (halted : machine.cpu.halted = true) :
    machine.Waits events ↔ machine.Quiet events := by
  constructor
  · intro waits past leads
    cases serviceable : (machine.follow past).cpu.serviceable with
    | none => rfl
    | some vector =>
        have cost := waits.cost past leads
        rw [(service_of_serviceable serviceable).cost] at cost
        cases cost
  · intro quiet
    have followed := follow_of_quiet halted quiet
    have awake : machine.watched.cpu.halted = true := halted
    have watched := congrArg Machine.bus (follow_of_quiet awake quiet.watched)
    constructor
    case cpu => rw [followed]
    case bus => rw [followed]
    case received => exact congrArg Watched.received watched
    case sent => exact congrArg Watched.sent watched
    case cost =>
      intro past leads
      have before := quiet.before ((List.prefix_append past [.step]).trans leads)
      have still : (machine.follow past).cpu.halted = true := by
        rw [follow_of_quiet halted before]
        exact halted
      rw [step_of_halted (quiet past leads) still]
      rfl

/-- While interrupts are not accepted, no step accepts a vector that ends the halt. -/
theorem quiet_of_disabled (halted : machine.cpu.halted = true)
    (disabled : machine.cpu.enabled = false) : machine.Quiet events := by
  intro past leads
  clear leads
  induction past generalizing machine with
  | nil => exact serviceable_of_disabled disabled
  | cons event past ih =>
      cases event with
      | raise vector =>
          have still : (machine.on (.raise vector)).cpu.halted = true := halted
          exact ih still disabled
      | step =>
          have idle : machine.on .step = machine.tick idleCost :=
            congrArg Prod.snd (step_of_halted (serviceable_of_disabled disabled) halted)
          have still : (machine.on .step).cpu.halted = true := by
            rw [idle]
            exact halted
          apply ih still
          rw [idle]
          exact disabled

/-- While interrupts are accepted, a step accepts a vector exactly if one is on the line. -/
theorem quiet_of_enabled (halted : machine.cpu.halted = true)
    (enabled : machine.cpu.enabled = true) :
    machine.Quiet events ↔
      ∀ past, past ++ [.step] <+: events → (machine.follow past).cpu.pending = none := by
  constructor
  · intro quiet past leads
    have before := quiet.before ((List.prefix_append past [.step]).trans leads)
    have still : (machine.follow past).cpu.enabled = true := by
      rw [follow_of_quiet halted before]
      exact enabled
    rw [← serviceable_of_enabled still]
    exact quiet past leads
  · intro empty past leads
    exact serviceable_of_pending (empty past leads)

theorem Waits.wakes (waits : machine.Waits events) (enabled : machine.cpu.enabled = true)
    (pending : (machine.follow events).cpu.pending = some vector) :
    machine.Wakes events vector := by
  have still : (machine.follow events).cpu.enabled = true := by
    rw [waits.cpu]
    exact enabled
  have service := service_of_serviceable (serviceable_eq_some_iff.mpr ⟨still, pending⟩)
  constructor
  case cost => exact service.cost
  case cpu =>
    rw [service.cpu, waits.cpu]
    rfl
  case bus =>
    rw [service.bus, waits.bus, waits.cpu]
    rfl

theorem HaltedAt.pc {address : UInt16} (haltedAt : machine.HaltedAt address) :
    machine.cpu.pc = address + 1 := by
  obtain ⟨before, events, executed, rfl, waits, rfl⟩ := haltedAt
  rw [waits.cpu, step_of_hlt executed]
  rfl

/-! ## The end of the halt -/

/--
How long a machine stays halted and what ends the halt. Interrupts that are not accepted
never end it, however many vectors are raised. Otherwise it lasts exactly as long as no step
finds a vector on the line, and the first step that does ends it. If an HLT halted the
machine, the address to return to is the one behind it.
-/
structure HaltEnds (machine : Machine β) : Prop where
  never : machine.cpu.enabled = false → ∀ events, machine.Waits events
  lasts : machine.cpu.enabled = true → ∀ events, machine.Waits events ↔
    ∀ past, past ++ [.step] <+: events → (machine.follow past).cpu.pending = none
  ends : machine.cpu.enabled = true → ∀ events vector, machine.Waits events →
    (machine.follow events).cpu.pending = some vector → machine.Wakes events vector
  behind : ∀ address events vector, machine.HaltedAt address → machine.Wakes events vector →
    (machine.follow events).step.2.bus = machine.stacked (address + 1)

/-- A halt is left through an accepted interrupt and in no other way. -/
theorem halt_left_by_interrupt (halted : machine.cpu.halted = true) : machine.HaltEnds where
  never := by
    intro disabled events
    exact (waits_iff_quiet halted).mpr (quiet_of_disabled halted disabled)
  lasts := by
    intro enabled events
    exact (waits_iff_quiet halted).trans (quiet_of_enabled halted enabled)
  ends := by
    intro enabled events vector waits pending
    exact waits.wakes enabled pending
  behind := by
    intro address events vector haltedAt wakes
    rw [wakes.bus, haltedAt.pc]

/-- An HLT at the last address; of two vectors that are raised later the second one ends the halt. -/
theorem halt_left_by_interrupt_wrapped :
    let before : Machine Memory :=
      ⟨{ pc := 0xFFFF, sp := 0x0001, enabled := true }, Memory.zero.write 0xFFFF 0x76⟩
    let events : List Event := [.step, .raise 1, .raise 2]
    before.step.2.Waits events ∧ before.step.2.Wakes events 2 ∧
      (before.step.2.follow events).step.2.bus = before.step.2.stacked 0x0000 := by
  intro before events
  have fetched : before.read before.cpu.pc = Opcode.hlt := by
    rw [read_eq]
    exact Memory.read_write_same Memory.zero 0xFFFF 0x76
  have executed : before.executed? = some Opcode.hlt :=
    executed?_eq_some_iff.mpr ⟨⟨rfl, rfl⟩, fetched⟩
  have taken := step_of_hlt executed
  have halted : before.step.2.cpu.halted = true := by
    rw [taken]
  have enabled : before.step.2.cpu.enabled = true := by
    rw [taken]
  have account := halt_left_by_interrupt halted
  have waits : before.step.2.Waits events := by
    apply (account.lasts enabled events).mpr
    intro past leads
    cases past with
    | nil =>
        rw [follow_nil, taken]
    | cons event past =>
        -- Behind the first event there is no step.
        have later := (List.cons_prefix_cons.mp leads).2
        have step : Event.step ∈ [.raise 1, .raise 2] :=
          later.subset (List.mem_append_right past List.mem_cons_self)
        exact absurd step (by decide)
  have pending : (before.step.2.follow events).cpu.pending = some 2 := by
    rw [waits.cpu]
    rfl
  have wakes := account.ends enabled events 2 waits pending
  have fresh : before.step.2.Waits [] :=
    (account.lasts enabled []).mpr fun past leads =>
      absurd (List.prefix_nil.mp leads) (List.append_ne_nil_of_right_ne_nil past nofun)
  have haltedAt : before.step.2.HaltedAt 0xFFFF := ⟨before, [], executed, rfl, fresh, rfl⟩
  exact ⟨waits, wakes, account.behind 0xFFFF events 2 haltedAt wakes⟩

end Machine

end Cabinet
