import Cabinet.Proofs.Machine.Replay

/-!
# The only channel

A board's processor and its devices meet at the ports and nowhere else. What the
processor makes of the devices is decided by the bytes that it receives, and
what becomes of the devices by the bytes that it sends. A machine without any
devices follows the board through every run if it is given the same bytes; when
no port has a handler, it needs no bytes at all.
-/

namespace Cabinet

namespace SystemBus

def withMemory (bus : SystemBus) (memory : Memory) : SystemBus :=
  { bus with memory }

/-- Memory has no part in what is put out. -/
theorem output_withMemory (bus : SystemBus) (memory : Memory) (port value : UInt8) :
    (bus.withMemory memory).output port value = (bus.output port value).withMemory memory := by
  have ports : (bus.withMemory memory).ports = bus.ports := rfl
  unfold output
  rw [ports]
  split <;> rfl

/-- Bytes put to output ports one after the other. -/
def putAll (bus : SystemBus) (transfers : List (UInt8 × UInt8)) : SystemBus :=
  transfers.foldl (fun bus transfer => bus.output transfer.1 transfer.2) bus

theorem putAll_concat (bus : SystemBus) (transfers : List (UInt8 × UInt8)) (port value : UInt8) :
    bus.putAll (transfers ++ [(port, value)]) = (bus.putAll transfers).output port value := by
  rw [putAll, List.foldl_append]
  rfl

/-- Apart from memory a bus is what the bytes that were put out made of it. -/
theorem putAll_invariant (start : SystemBus) :
    Machine.BusInvariant fun watched : Watched SystemBus =>
      watched.bus = (start.putAll watched.sent).withMemory watched.bus.memory where
  write := by
    intro watched put address value
    have written := congrArg (withMemory · (watched.bus.memory.write address value)) put
    exact written
  input put _ := put
  output := by
    intro watched put port value
    calc watched.bus.output port value
      _ = ((start.putAll watched.sent).withMemory watched.bus.memory).output port value :=
        congrArg (output · port value) put
      _ = ((start.putAll watched.sent).output port value).withMemory watched.bus.memory :=
        output_withMemory ..
      _ = (start.putAll (watched.sent ++ [(port, value)])).withMemory
            (watched.bus.output port value).memory := by
        rw [putAll_concat, memory_output]

/-- A bus that differs from another one in memory at most, and this memory. -/
def Bare (start bus : SystemBus) (memory : Memory) : Prop :=
  bus = start.withMemory memory

/-- Without handlers the board's bus is its memory. -/
theorem bare_simulation {start : SystemBus} (unbound : start.ports = .empty) :
    Bus.Simulation (Bare start) where
  read := by
    rintro _ memory rfl address
    rfl
  write := by
    rintro _ memory rfl address value
    rfl
  input := by
    rintro _ memory rfl port
    have none : start.ports.input? port = none := by
      rw [unbound, PortTable.input?_empty]
    refine ⟨?_, rfl⟩
    change (start.withMemory memory).input port = 0
    unfold input withMemory
    rw [none]
  output := by
    rintro _ memory rfl port value
    have none : start.ports.output? port = none := by
      rw [unbound, PortTable.output?_empty]
    have lost : start.output port value = start := by
      unfold output
      rw [none]
    exact (output_withMemory ..).trans (congrArg (withMemory · memory) lost)

end SystemBus

namespace ScriptedBus

theorem outputs_invariant (start : List (UInt8 × UInt8)) :
    Machine.BusInvariant fun watched : Watched ScriptedBus =>
      watched.bus.outputs = start ++ watched.sent where
  write put _ _ := put
  input put _ := put
  output := by
    intro watched put port value
    change ((port, value) :: watched.bus.record).reverse = start ++ (watched.sent ++ [(port, value)])
    rw [List.reverse_cons, ← List.append_assoc, ← put, outputs]

end ScriptedBus

namespace Machine

/-- What a board sends is all that changes its devices. -/
theorem follow_putAll (system : Machine SystemBus) (events : List Event) :
    (system.follow events).bus =
      (system.bus.putAll (system.sent events)).withMemory (system.follow events).memory := by
  have start : system.watched.bus.bus =
      (system.bus.putAll system.watched.bus.sent).withMemory system.watched.bus.bus.memory := rfl
  have put := (SystemBus.putAll_invariant system.bus).follow start events
  rwa [(system.follow_watched events).bus] at put

/-- What a machine with a script sends is what its bus makes a record of. -/
theorem outputs_follow (flat : Machine ScriptedBus) (events : List Event) :
    (flat.follow events).bus.outputs = flat.bus.outputs ++ flat.sent events := by
  have start : flat.watched.bus.bus.outputs = flat.bus.outputs ++ flat.watched.bus.sent :=
    (List.append_nil _).symm
  have put := (ScriptedBus.outputs_invariant flat.bus.outputs).follow start events
  rwa [(flat.follow_watched events).bus] at put

/-- A board without handlers is a machine on memory alone. -/
theorem follow_unbound {system : Machine SystemBus} (unbound : system.bus.ports = .empty)
    (events : List Event) :
    Alike (SystemBus.Bare system.bus) (system.follow events)
      ((⟨system.cpu, system.bus.memory⟩ : Machine Memory).follow events) := by
  have start : Alike (SystemBus.Bare system.bus) system ⟨system.cpu, system.bus.memory⟩ :=
    ⟨rfl, rfl⟩
  exact start.follow (SystemBus.bare_simulation unbound) events

/--
Everything that passes between the processor and the devices of a board. A machine without
devices that receives the same bytes is in step after every event, and for every run there
is a script with these bytes. The devices know of nothing but the bytes that are put out.
With no handler bound the bus is a memory whose ports are connected to nothing.
-/
structure OnlyThroughPorts (system : Machine SystemBus) : Prop where
  inStep : ∀ (flat : Machine ScriptedBus) (events past : List Event), flat.cpu = system.cpu →
    flat.bus.memory = system.bus.memory →
      SameBytes (system.received events) (flat.received events) → past <+: events →
        InStep system flat past ∧
          (flat.follow past).bus.outputs = flat.bus.outputs ++ system.sent past
  replay : ∀ events, SameBytes (system.received events) ((system.replay events).received events)
  devices : ∀ events, (system.follow events).bus =
    { system.bus.putAll (system.sent events) with memory := (system.follow events).memory }
  unbound : system.bus.ports = .empty → ∀ events,
    let plain : Machine Memory := ⟨system.cpu, system.bus.memory⟩
    (system.follow events).cpu = (plain.follow events).cpu ∧
      (system.follow events).bus = { system.bus with memory := (plain.follow events).bus } ∧
        (system.follow events).step.1 = (plain.follow events).step.1

/-- The ports are the only channel between a board's processor and its devices. -/
theorem only_through_ports (system : Machine SystemBus) : system.OnlyThroughPorts where
  inStep := by
    intro flat events past cpu memory bytes leads
    have inStep : InStep system flat past :=
      inStep_of_sameBytes cpu.symm memory.symm bytes leads
    refine ⟨inStep, ?_⟩
    rw [flat.outputs_follow past, inStep.sent]
  replay := by
    intro events index here there found met
    rw [system.received_replay events, found] at met
    cases met
    rfl
  devices := system.follow_putAll
  unbound := by
    intro unbound events
    have alike := follow_unbound unbound events
    exact ⟨alike.cpu, alike.bus,
      alike.step_cost (SystemBus.bare_simulation unbound).toMemorySimulation⟩

end Machine

end Cabinet
