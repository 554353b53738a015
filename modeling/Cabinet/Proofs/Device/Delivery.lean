import Cabinet.Device.SystemBus
import Cabinet.Proofs.Board.Reachable
import Cabinet.Proofs.Board.Schedule
import Cabinet.Proofs.Machine.PortTraffic
import Cabinet.Proofs.Machine.Sending

/-!
# Deliveries

What a program puts to a port that has a handler is delivered to the devices.
The devices know of nothing else that the processor does: after a run they are
what its deliveries made of them, one after the other. No delivery moves the
switches, the periscope or the latched controls, so every port that is read in a
frame shows the controls that waited when the frame began.
-/

namespace Cabinet

/-- A byte that an output instruction puts to a port with a handler. -/
structure Delivery where
  handler : OutHandler
  port : UInt8
  value : UInt8
deriving DecidableEq

namespace Devices

/-- The effect of a delivery; it is the same for all ports with this handler. -/
def receive (devices : Devices) (delivery : Delivery) : Devices :=
  devices.write delivery.handler delivery.value

/-- What stays as it is when something is put out. -/
structure Untouched (before after : Devices) : Prop where
  dip : after.dip = before.dip
  periscope : after.periscope = before.periscope
  input : after.input = before.input

theorem Untouched.refl (devices : Devices) : Untouched devices devices :=
  ⟨rfl, rfl, rfl⟩

theorem Untouched.trans {first second third : Devices} (before : Untouched first second)
    (after : Untouched second third) : Untouched first third :=
  ⟨after.dip.trans before.dip, after.periscope.trans before.periscope,
    after.input.trans before.input⟩

/-- Each handler writes to a latch of its own, and these three are nobody's. -/
theorem untouched_write (devices : Devices) (handler : OutHandler) (value : UInt8) :
    Untouched devices (devices.write handler value) := by
  cases handler with
  | sound channel =>
      simp only [write]
      split
      · exact Untouched.refl devices
      · exact ⟨rfl, rfl, rfl⟩
  | _ => exact ⟨rfl, rfl, rfl⟩

theorem untouched_foldl (devices : Devices) (deliveries : List Delivery) :
    Untouched devices (deliveries.foldl receive devices) := by
  induction deliveries generalizing devices with
  | nil => exact Untouched.refl devices
  | cons delivery deliveries ih =>
      exact (devices.untouched_write delivery.handler delivery.value).trans
        (ih (devices.receive delivery))

end Devices

namespace SystemBus

/-- What becomes of a byte that is put to a port. -/
def delivery? (bus : SystemBus) (port value : UInt8) : Option Delivery :=
  (bus.ports.output? port).map fun handler => ⟨handler, port, value⟩

theorem devices_output (bus : SystemBus) (port value : UInt8) :
    (bus.output port value).devices =
      (bus.delivery? port value).toList.foldl Devices.receive bus.devices := by
  unfold output delivery?
  cases bus.ports.output? port with
  | none => rfl
  | some handler => rfl

theorem devices_onlyByOutput : Machine.OnlyByOutput SystemBus.devices where
  write _ _ _ := rfl
  input _ _ := rfl

end SystemBus

namespace Machine

open Cpu

/-- What the next step delivers, if it executes OUT for a port with a handler. -/
def delivers? (machine : Machine SystemBus) : Option Delivery :=
  machine.sends?.bind fun sent => machine.bus.delivery? sent.1 sent.2

/-- What the steps of a run deliver, in order. -/
def deliveries (machine : Machine SystemBus) : List Event → List Delivery
  | [] => []
  | .raise vector :: events => (machine.raise vector).deliveries events
  | .step :: events => machine.delivers?.toList ++ machine.step.2.deliveries events

/-! ## Steps -/

theorem delivers?_eq_some_iff {machine : Machine SystemBus} {delivery : Delivery} :
    machine.delivers? = some delivery ↔
      machine.executed? = some Opcode.output ∧
        delivery.port = machine.read (machine.cpu.pc + 1) ∧ delivery.value = machine.cpu.a ∧
          machine.bus.ports.output? delivery.port = some delivery.handler := by
  obtain ⟨handler, port, value⟩ := delivery
  unfold delivers? sends?
  split
  · rename_i executed
    simp only [Option.bind_some, SystemBus.delivery?, Option.map_eq_some_iff, Delivery.mk.injEq]
    constructor
    · rintro ⟨bound, found, rfl, rfl, rfl⟩
      exact ⟨executed, rfl, rfl, found⟩
    · rintro ⟨-, rfl, rfl, found⟩
      exact ⟨handler, found, rfl, rfl, rfl⟩
  · rename_i other
    constructor
    · nofun
    · rintro ⟨executed, -⟩
      exact absurd executed other

theorem devices_step (machine : Machine SystemBus) :
    machine.step.2.bus.devices =
      machine.delivers?.toList.foldl Devices.receive machine.bus.devices := by
  unfold delivers?
  cases sends : machine.sends? with
  | none => exact SystemBus.devices_onlyByOutput.step sends
  | some sent =>
      obtain ⟨port, value⟩ := sent
      rw [bus_step_of_sends sends]
      exact machine.bus.devices_output port value

/-- What IN takes from the board's ports, which it leaves as they are. -/
theorem step_of_systemInput {machine : Machine SystemBus}
    (executed : machine.executed? = some Opcode.input) :
    machine.step.2.bus = machine.bus ∧
      machine.step.2.cpu.a = machine.bus.input (machine.read (machine.cpu.pc + 1)) :=
  step_of_input executed

/-! ## Runs -/

theorem devices_follow (machine : Machine SystemBus) (events : List Event) :
    (machine.follow events).bus.devices =
      (machine.deliveries events).foldl Devices.receive machine.bus.devices := by
  induction events generalizing machine with
  | nil => rfl
  | cons event events ih =>
      cases event with
      | raise vector => exact ih (machine.raise vector)
      | step =>
          have later := ih machine.step.2
          rw [devices_step] at later
          rw [deliveries, List.foldl_append, ← later]
          rfl

theorem ports_follow (machine : Machine SystemBus) (events : List Event) :
    (machine.follow events).bus.ports = machine.bus.ports :=
  (Board.ports_invariant machine.bus.ports).follow rfl events

/--
Everything that a run does to the devices and to the ports. The devices are what the
deliveries made of them, in the order of execution, and the ports stay bound as they are. A
step delivers if it executes OUT for a port that has a handler, and not otherwise; then the
devices stay as they are. IN takes the byte that the port's handler reads, and changes
nothing behind the port.
-/
structure DeviceHistory (machine : Machine SystemBus) (events : List Event) : Prop where
  devices : (machine.follow events).bus.devices =
    (machine.deliveries events).foldl Devices.receive machine.bus.devices
  delivered : ∀ past rest delivery, events = past ++ .step :: rest →
    let met := machine.follow past
    met.delivers? = some delivery ↔
      met.executed? = some Opcode.output ∧
        delivery.port = met.read (met.cpu.pc + 1) ∧ delivery.value = met.cpu.a ∧
          machine.bus.ports.output? delivery.port = some delivery.handler
  silent : ∀ past rest, events = past ++ .step :: rest →
    (machine.follow past).delivers? = none →
      (machine.follow past).step.2.bus.devices = (machine.follow past).bus.devices
  taken : ∀ past rest, events = past ++ .step :: rest →
    let met := machine.follow past
    met.executed? = some Opcode.input →
      met.step.2.bus = met.bus ∧ met.step.2.cpu.a =
        match machine.bus.ports.input? (met.read (met.cpu.pc + 1)) with
        | some handler => met.bus.devices.read handler
        | none => 0
  ports : (machine.follow events).bus.ports = machine.bus.ports
  untouched : machine.bus.devices.Untouched (machine.follow events).bus.devices

theorem deviceHistory (machine : Machine SystemBus) (events : List Event) :
    machine.DeviceHistory events where
  devices := machine.devices_follow events
  delivered := by
    intro past rest delivery _
    rw [← machine.ports_follow past]
    exact delivers?_eq_some_iff
  silent := by
    intro past rest _ silent
    rw [devices_step, silent]
    rfl
  taken := by
    intro past rest _ met executed
    obtain ⟨bus, taken⟩ := step_of_systemInput executed
    refine ⟨bus, ?_⟩
    rw [taken, ← machine.ports_follow past]
    rfl
  ports := machine.ports_follow events
  untouched := by
    rw [devices_follow]
    exact machine.bus.devices.untouched_foldl _

end Machine

namespace Board

open Machine
open Cpu

/--
What the ports show in the course of a frame. Before every step the latched controls are
those that waited when the frame began, and every IN reads these controls, whatever was
delivered to the devices before.
-/
structure FrameInput (board : Board) : Prop where
  machine : board.advance.machine = board.latched.follow board.frameEvents
  history : board.latched.DeviceHistory board.frameEvents
  latched : ∀ past rest, board.frameEvents = past ++ .step :: rest →
    (board.latched.follow past).bus.devices.input = board.input
  seen : ∀ past rest, board.frameEvents = past ++ .step :: rest →
    let met := board.latched.follow past
    met.executed? = some Opcode.input → met.step.2.cpu.a =
      match board.machine.bus.ports.input? (met.read (met.cpu.pc + 1)) with
      | some handler => { met.bus.devices with input := board.input }.read handler
      | none => 0

/-- What is delivered in a frame does not reach the latched controls. -/
theorem input_latched_follow (board : Board) (events : List Event) :
    (board.latched.follow events).bus.devices.input = board.input :=
  (board.latched.deviceHistory events).untouched.input

theorem frameInput (board : Board) : board.FrameInput where
  machine := machine_advance_eq_follow board
  history := board.latched.deviceHistory board.frameEvents
  latched := fun past _ _ => board.input_latched_follow past
  seen := by
    intro past rest frame met executed
    have controls : met.bus.devices.input = board.input := board.input_latched_follow past
    obtain ⟨-, taken⟩ := (board.latched.deviceHistory _).taken past rest frame executed
    rw [taken, ← controls]
    rfl

/--
In every run the devices are what the run delivered to them, and in every frame
the ports show the controls that waited when it began.
-/
theorem devices_follow_deliveries (machine : Machine SystemBus) (events : List Event)
    (board : Board) : machine.DeviceHistory events ∧ board.FrameInput :=
  ⟨machine.deviceHistory events, board.frameInput⟩

end Board

end Cabinet
