import Cabinet.Proofs.Device.Speaking

/-!
# Latched controls

The ports look at the well-known buttons only, and at whether they are held.
Devices that differ in nothing else cannot be told apart through the ports, and
what is put out to them leaves this so.
-/

namespace Cabinet

namespace Buttons

/-- The same well-known buttons are held. -/
def Alike (first second : Buttons) : Prop :=
  ∀ name ∈ wellKnown, first.isHeld name = second.isHeld name

theorem state?_eq_none {buttons : Buttons} {name : String}
    (absent : ∀ entry ∈ buttons.entries, entry.1 ≠ name) : buttons.state? name = none := by
  rw [state?, List.lookup_eq_none_iff]
  intro entry member
  exact bne_iff_ne.mpr (absent entry member).symm

/-- Snapshots are the same if they say the same about every name there is. -/
theorem same_iff (first second : Buttons) :
    first.same second = true ↔ ∀ name, first.state? name = second.state? name := by
  rw [same, List.all_eq_true]
  constructor
  · intro mentioned name
    by_cases here : ∃ entry ∈ first.entries ++ second.entries, entry.1 = name
    · obtain ⟨entry, member, rfl⟩ := here
      exact eq_of_beq (mentioned entry member)
    · have absent : ∀ entry ∈ first.entries ++ second.entries, entry.1 ≠ name :=
        fun entry member same => here ⟨entry, member, same⟩
      rw [state?_eq_none fun entry member => absent entry (List.mem_append_left _ member),
        state?_eq_none fun entry member => absent entry (List.mem_append_right _ member)]
  · intro agree entry _
    exact beq_iff_eq.mpr (agree entry.1)

theorem alike_of_same {first second : Buttons} (same : first.same second = true) :
    first.Alike second := by
  intro name _
  rw [isHeld, isHeld, (same_iff first second).mp same name]

theorem Alike.mask_eq {first second : Buttons} (alike : first.Alike second)
    {bits : List (String × UInt8)} (known : ∀ entry ∈ bits, entry.1 ∈ wellKnown) :
    first.mask bits = second.mask bits := by
  have chosen : bits.filter (fun entry => first.isHeld entry.1) =
      bits.filter (fun entry => second.isHeld entry.1) :=
    List.filter_congr fun entry member => alike entry.1 (known entry member)
  rw [mask, mask, chosen]

end Buttons

namespace Devices

/-- Devices that differ in the latched controls only. -/
def UpToInput (first second : Devices) : Prop :=
  { first with input := second.input } = second

/-- Devices that differ in the latched controls only, and not in the well-known buttons held. -/
structure Alike (first second : Devices) : Prop where
  input : first.input.Alike second.input
  rest : first.UpToInput second

variable {first second : Devices}

theorem Alike.read (alike : Alike first second) (handler : InHandler) :
    first.read handler = second.read handler := by
  have held := alike.input
  rw [← alike.rest]
  cases handler with
  | player1 => exact held.mask_eq (by decide)
  | player2 => exact held.mask_eq (by decide)
  | coin => exact held.mask_eq (by decide)
  | playerControls => exact congrArg (wiredHigh ||| ·) (held.mask_eq (by decide))
  | cabinetControls => exact congrArg (wiredHigh ||| ·) (held.mask_eq (by decide))
  | dipWithPlayer2 => exact congrArg (first.dip ||| ·) (held.mask_eq (by decide))
  | periscopePlayer1 =>
      exact congrArg (· ||| (first.periscope &&& periscopeEnd) <<< 4) (held.mask_eq (by decide))
  | dipSwitches | shiftResult | soundStatus | watchdog | stub => rfl

/-- What is put out does not depend on the latched controls and leaves them. -/
theorem write_withInput (devices : Devices) (input : Buttons) (handler : OutHandler)
    (value : UInt8) :
    { devices with input }.write handler value =
      { devices.write handler value with input } := by
  cases handler with
  | sound channel =>
      simp only [write]
      split <;> rfl
  | _ => rfl

theorem input_write (devices : Devices) (handler : OutHandler) (value : UInt8) :
    (devices.write handler value).input = devices.input := by
  cases handler with
  | sound channel =>
      simp only [write]
      split <;> rfl
  | _ => rfl

theorem Alike.write (alike : Alike first second) (handler : OutHandler) (value : UInt8) :
    Alike (first.write handler value) (second.write handler value) where
  input := by
    rw [input_write, input_write]
    exact alike.input
  rest := by
    rw [UpToInput, input_write, ← write_withInput, alike.rest]

/-- Latching replaces the controls; the periscope moves by the new ones. -/
theorem UpToInput.latch (rest : first.UpToInput second) {input other : Buttons}
    (inputs : input.Alike other) : Alike (first.latch input) (second.latch other) where
  input := inputs
  rest := by
    have left : input.isHeld "p1_left" = other.isHeld "p1_left" := inputs _ (by decide)
    have right : input.isHeld "p1_right" = other.isHeld "p1_right" := inputs _ (by decide)
    rw [← rest]
    simp only [UpToInput, Devices.latch, left, right]

theorem UpToInput.toJson (rest : first.UpToInput second) : first.toJson = second.toJson := by
  rw [← rest]
  rfl

end Devices

namespace SystemBus

/-- Buses that differ in the latched controls only, and not in the well-known buttons held. -/
structure Alike (first second : SystemBus) : Prop where
  memory : first.memory = second.memory
  ports : first.ports = second.ports
  devices : first.devices.Alike second.devices

variable {first second : SystemBus}

theorem Alike.read_input (alike : Alike first second) (port : UInt8) :
    first.input port = second.input port := by
  unfold input
  rw [alike.ports]
  split
  · exact alike.devices.read _
  · rfl

theorem Alike.output (alike : Alike first second) (port value : UInt8) :
    Alike (first.output port value) (second.output port value) := by
  unfold SystemBus.output
  rw [alike.ports]
  split
  · exact ⟨alike.memory, rfl, alike.devices.write _ value⟩
  · exact alike

theorem simulation : Bus.Simulation Alike where
  read alike address := congrArg (fun memory => Memory.read memory address) alike.memory
  write alike address value :=
    ⟨congrArg (fun memory => Memory.write memory address value) alike.memory, alike.ports,
      alike.devices⟩
  input alike port := ⟨alike.read_input port, alike⟩
  output alike port value := alike.output port value

/-- The latched controls have no part in what can go wrong. -/
theorem sameFaults : Machine.SameFaults SystemBus.Alike where
  input alike port := by
    change (_ : Option InHandler).bind _ = (_ : Option InHandler).bind _
    rw [alike.ports, ← alike.devices.rest]
    rfl
  output alike port value := by
    change (_ : Option OutHandler).bind _ = (_ : Option OutHandler).bind _
    rw [alike.ports, ← alike.devices.rest]
    rfl

end SystemBus

end Cabinet
