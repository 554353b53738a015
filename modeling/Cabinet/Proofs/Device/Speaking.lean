import Cabinet.Device.SystemBus
import Cabinet.Proofs.Machine.Execution

/-!
# What ports say and what can be wrong with them

Stubs and ports without a handler speak for themselves. Three handlers can go wrong: the
window of the shift register may have no place in it, and the counters of watchdog resets
and of coins may be at their ends.
-/

namespace Cabinet

open Log Outcome

namespace Devices

variable {σ : Type} [Listener σ]

/-! ## Input -/

/-- What is said about input from a port with a handler. -/
def readNotes (port : UInt8) : InHandler → List Note
  | .stub => [⟨.stubs, .trace, fun _ => s!"IN 0x{Hex.byte port} read from stub handler"⟩]
  | _ => []

/-- What is wrong with input from a handler. -/
def readFault? (devices : Devices) : InHandler → Option Panic
  | .shiftResult => if devices.shifter.offset ≤ 8 then none else some .subtraction
  | _ => none

theorem readM_speaks (devices : Devices) (handler : InHandler) (port : UInt8) :
    Speaks (devices.readM handler port : Telling σ UInt8) (readNotes port handler)
      (unlessFault (devices.readFault? handler) (devices.read handler)) := by
  cases handler with
  | shiftResult =>
      have window : devices.shifter.window =
          unlessFault (devices.readFault? .shiftResult) devices.shifter.result := by
        unfold Shifter.window readFault?
        split <;> rfl
      unfold readM
      rw [window]
      exact .ofExcept _
  | stub => exact .tell_bind (.pure _)
  | _ => exact .pure _

/-! ## Output -/

/-- What is said about output to a port with a handler. -/
def writeNotes (port value : UInt8) : OutHandler → List Note
  | .stub => [⟨.stubs, .trace, fun _ =>
      s!"OUT 0x{Hex.byte port} <- 0x{Hex.byte value} discarded by stub handler"⟩]
  | _ => []

/-- Whether a byte for the coin counter counts a coin. -/
def countsCoin (devices : Devices) (value : UInt8) : Bool :=
  value &&& 1 != 0 && devices.coinLatch &&& 1 == 0

/-- What is wrong with output to a handler. -/
def writeFault? (devices : Devices) (value : UInt8) : OutHandler → Option Panic
  | .watchdogReset =>
      if devices.watchdogResets.toNat + 1 < UInt64.size then none else some .addition
  | .coinCounter =>
      if devices.countsCoin value = true ∧ ¬ devices.coinsCounted.toNat + 1 < UInt32.size then
        some .addition
      else none
  | _ => none

theorem writeM_speaks (devices : Devices) (handler : OutHandler) (port value : UInt8) :
    Speaks (devices.writeM handler port value : Telling σ Devices) (writeNotes port value handler)
      (unlessFault (devices.writeFault? value handler) (devices.write handler value)) := by
  cases handler with
  | watchdogReset =>
      have counted : Checked.count devices.watchdogResets 1 =
          unlessFault (devices.writeFault? value .watchdogReset) (devices.watchdogResets + 1) := by
        rw [Checked.count_eq, writeFault?]
        change (if _ + 1 < _ then _ else _) = _
        split <;> rfl
      unfold writeM
      exact .ofExcept_map counted _
  | coinCounter =>
      unfold writeM
      dsimp only
      rw [← countsCoin]
      cases counts : devices.countsCoin value with
      | false =>
          unfold write writeFault?
          dsimp only
          rw [← countsCoin, counts]
          exact .pure _
      | true =>
          have counted : Checked.add devices.coinsCounted 1 =
              unlessFault (devices.writeFault? value .coinCounter) (devices.coinsCounted + 1) := by
            rw [Checked.add_eq, writeFault?, counts]
            change (if _ + 1 < _ then _ else _) = _
            split <;> simp_all
          unfold write
          dsimp only
          rw [← countsCoin, counts]
          exact .ofExcept_map counted _
  | stub => exact .tell_bind (.pure _)
  | _ => exact .pure _

end Devices

/-! ## Ports -/

namespace SystemBus

/-- What is said about input from a port. -/
def inputNotes (bus : SystemBus) (port : UInt8) : List Note :=
  match bus.ports.input? port with
  | some handler => Devices.readNotes port handler
  | none => [⟨.io, .trace, fun _ => s!"IN 0x{Hex.byte port}: unbound port"⟩]

/-- What is said about output to a port. -/
def outputNotes (bus : SystemBus) (port value : UInt8) : List Note :=
  match bus.ports.output? port with
  | some handler => Devices.writeNotes port value handler
  | none => [⟨.io, .trace, fun _ =>
      s!"OUT 0x{Hex.byte port} <- 0x{Hex.byte value}: unbound port"⟩]

theorem inputM_speaks (σ : Type) [Listener σ] (bus : SystemBus) (port : UInt8) :
    Speaks (TellingBus.inputM bus port : Telling σ (UInt8 × SystemBus)) (bus.inputNotes port)
      (unlessFault ((bus.ports.input? port).bind bus.devices.readFault?)
        (Bus.input bus port)) := by
  change Speaks (match bus.ports.input? port with | some _ => _ | none => _) _
    (unlessFault _ (bus.input port, bus))
  unfold inputNotes input
  cases bus.ports.input? port with
  | none => exact .tell_bind (.pure _)
  | some handler => exact (bus.devices.readM_speaks handler port).map fun value => (value, bus)

theorem outputM_speaks (σ : Type) [Listener σ] (bus : SystemBus) (port value : UInt8) :
    Speaks (TellingBus.outputM bus port value : Telling σ SystemBus) (bus.outputNotes port value)
      (unlessFault ((bus.ports.output? port).bind (bus.devices.writeFault? value))
        (Bus.output bus port value)) := by
  change Speaks (match bus.ports.output? port with | some _ => _ | none => _) _
    (unlessFault _ (bus.output port value))
  unfold outputNotes output
  cases bus.ports.output? port with
  | none => exact .tell_bind (.pure _)
  | some handler =>
      have written : Speaks (bus.devices.writeM handler port value : Telling σ Devices) _ _ :=
        bus.devices.writeM_speaks handler port value
      exact written.map fun devices => { bus with devices }

theorem not_cpu_readNotes (port : UInt8) (handler : InHandler) :
    ∀ note ∈ Devices.readNotes port handler, note.category ≠ .cpu := by
  cases handler with
  | stub => exact List.forall_mem_singleton.mpr Category.noConfusion
  | _ => exact List.forall_mem_nil _

theorem not_cpu_writeNotes (port value : UInt8) (handler : OutHandler) :
    ∀ note ∈ Devices.writeNotes port value handler, note.category ≠ .cpu := by
  cases handler with
  | stub => exact List.forall_mem_singleton.mpr Category.noConfusion
  | _ => exact List.forall_mem_nil _

instance : LawfulPorts SystemBus where
  inputNotes := inputNotes
  outputNotes := outputNotes
  inputFault? bus port := (bus.ports.input? port).bind bus.devices.readFault?
  outputFault? bus port value := (bus.ports.output? port).bind (bus.devices.writeFault? value)
  inputM_speaks := inputM_speaks
  outputM_speaks := outputM_speaks
  input_apart bus port := by
    unfold inputNotes
    split
    · exact not_cpu_readNotes port _
    · exact List.forall_mem_singleton.mpr Category.noConfusion
  output_apart bus port value := by
    unfold outputNotes
    split
    · exact not_cpu_writeNotes port value _
    · exact List.forall_mem_singleton.mpr Category.noConfusion

end SystemBus

end Cabinet
