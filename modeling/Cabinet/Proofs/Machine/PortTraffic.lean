import Cabinet.Proofs.Machine.InterruptLine
import Cabinet.Proofs.Machine.OverMemory
import Cabinet.Proofs.Machine.Simulation

/-!
# Traffic through the ports

A bus can be watched while a machine runs on it: the bytes that are taken from
its ports and put to them are written down, and nothing else is changed. So what
a run receives and sends is what its bus was asked for, by whatever instruction.
-/

namespace Cabinet

/--
A bus with a record of the bytes that were taken from input ports and of those that were put
to output ports, in order and each with its port.
-/
structure Watched (β : Type) where
  bus : β
  received : List (UInt8 × UInt8) := []
  sent : List (UInt8 × UInt8) := []

namespace Watched

variable {β γ : Type} [Bus β] [Bus γ]

instance : Bus (Watched β) where
  read watched address := Bus.read watched.bus address
  write watched address value := { watched with bus := Bus.write watched.bus address value }
  input watched port :=
    let (value, bus) := Bus.input watched.bus port
    (value, { watched with bus, received := watched.received ++ [(port, value)] })
  output watched port value :=
    { watched with
      bus := Bus.output watched.bus port value
      sent := watched.sent ++ [(port, value)] }

instance [Bus.OverMemory β] : Bus.OverMemory (Watched β) where
  memory watched := Bus.OverMemory.memory watched.bus
  read_eq watched := Bus.OverMemory.read_eq watched.bus
  memory_write watched := Bus.OverMemory.memory_write watched.bus
  memory_input watched := Bus.OverMemory.memory_input watched.bus
  memory_output watched := Bus.OverMemory.memory_output watched.bus

/-- The bus that is watched. -/
def Watches (watched : Watched β) (bus : β) : Prop :=
  watched.bus = bus

/-- A bus does not notice that it is watched. -/
theorem simulation : Bus.Simulation (Watches : Watched β → β → Prop) where
  read := by
    rintro watched _ rfl address
    rfl
  write := by
    rintro watched _ rfl address value
    rfl
  input := by
    rintro watched _ rfl port
    exact ⟨rfl, rfl⟩
  output := by
    rintro watched _ rfl port value
    rfl

end Watched

namespace Machine

open Cpu

variable {β γ : Type} [Bus β] [Bus γ]

/-! ## Runs -/

/-- Machines stay alike in a run if they do so in each of its steps. -/
theorem Alike.follow_of_step {Related : β → γ → Prop} {first : Machine β} {second : Machine γ}
    (alike : Alike Related first second) (events : List Event)
    (steps : ∀ past, past ++ [.step] <+: events →
      Alike Related (first.follow past) (second.follow past) →
        Alike Related (first.follow past).step.2 (second.follow past).step.2) :
    Alike Related (first.follow events) (second.follow events) := by
  induction events generalizing first second with
  | nil => exact alike
  | cons event events ih =>
      have next : Alike Related (first.on event) (second.on event) := by
        cases event with
        | raise vector => exact alike.raise vector
        | step => exact steps [] ⟨events, rfl⟩ alike
      apply ih next
      intro past leads
      exact steps (event :: past) (List.cons_prefix_cons.mpr ⟨rfl, leads⟩)

theorem Alike.follow {Related : β → γ → Prop} (simulates : Bus.Simulation Related)
    {first : Machine β} {second : Machine γ} (alike : Alike Related first second)
    (events : List Event) : Alike Related (first.follow events) (second.follow events) := by
  apply alike.follow_of_step
  intro past _ met
  exact (met.step simulates).2

theorem BusInvariant.follow {Holds : β → Prop} (invariant : BusInvariant Holds)
    {machine : Machine β} (holds : Holds machine.bus) (events : List Event) :
    Holds (machine.follow events).bus := by
  have itself : Alike (fun first second : β => first = second ∧ Holds second) machine machine :=
    ⟨rfl, rfl, holds⟩
  exact (itself.follow invariant.simulation events).bus.2

/-- The machine with a watch on its bus that has seen nothing yet. -/
def watched (machine : Machine β) : Machine (Watched β) :=
  ⟨machine.cpu, { bus := machine.bus }⟩

/-- What events make a machine take from its input ports. -/
def received (machine : Machine β) (events : List Event) : List (UInt8 × UInt8) :=
  (machine.watched.follow events).bus.received

/-- What events make a machine put to its output ports. -/
def sent (machine : Machine β) (events : List Event) : List (UInt8 × UInt8) :=
  (machine.watched.follow events).bus.sent

/-- A machine runs the same with a watch on its bus. -/
theorem follow_watched (machine : Machine β) (events : List Event) :
    Alike Watched.Watches (machine.watched.follow events) (machine.follow events) := by
  have start : Alike Watched.Watches machine.watched machine := ⟨rfl, rfl⟩
  exact start.follow Watched.simulation events

/-- What was received stays received. -/
theorem received_grows (start : List (UInt8 × UInt8)) :
    BusInvariant fun watched : Watched β => start <+: watched.received where
  write grown _ _ := grown
  input grown _ := grown.trans (List.prefix_append _ _)
  output grown _ _ := grown

theorem received_isPrefix (machine : Machine (Watched β)) {past events : List Event}
    (leads : past <+: events) :
    (machine.follow past).bus.received <+: (machine.follow events).bus.received := by
  obtain ⟨rest, rfl⟩ := leads
  rw [follow_append]
  exact (received_grows _).follow (List.prefix_refl _) rest

/-- In particular by a step of a longer run. -/
theorem received_step_isPrefix (machine : Machine (Watched β)) {past events : List Event}
    (leads : past ++ [.step] <+: events) :
    (machine.follow past).step.2.bus.received <+: (machine.follow events).bus.received := by
  have received := machine.received_isPrefix leads
  rw [follow_append] at received
  exact received

/-- The byte that is received goes to the accumulator. -/
theorem received_perform_input (machine : Machine (Watched β)) :
    (machine.perform .input).bus.received =
      machine.bus.received ++
        [(machine.read (machine.cpu.pc + 1), (machine.perform .input).cpu.a)] := rfl

end Machine

end Cabinet
