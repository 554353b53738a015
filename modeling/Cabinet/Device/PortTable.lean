import Cabinet.Device.Handler

/-!
# Port table

For each of the 256 input and 256 output ports the handler bound to it, if any.
-/

namespace Cabinet

structure PortTable where
  inputs : Vector (Option InHandler) 256 := Vector.replicate 256 none
  outputs : Vector (Option OutHandler) 256 := Vector.replicate 256 none
deriving DecidableEq

namespace PortTable

/-- No port is bound. -/
def empty : PortTable := {}

/-- Disconnect every port. -/
def clear (table : PortTable) : PortTable :=
  { table with inputs := empty.inputs, outputs := empty.outputs }

theorem clear_eq_empty (table : PortTable) : table.clear = empty := rfl

def bindInput (table : PortTable) (port : UInt8) (handler : InHandler) : PortTable :=
  { table with inputs := table.inputs.set port.toNat (some handler) port.toNat_lt }

def bindOutput (table : PortTable) (port : UInt8) (handler : OutHandler) : PortTable :=
  { table with outputs := table.outputs.set port.toNat (some handler) port.toNat_lt }

/-- The handler bound to an input port. -/
def input? (table : PortTable) (port : UInt8) : Option InHandler :=
  have bound : port.toNat < 256 := port.toNat_lt
  table.inputs[port.toNat]

/-- The handler bound to an output port. -/
def output? (table : PortTable) (port : UInt8) : Option OutHandler :=
  have bound : port.toNat < 256 := port.toNat_lt
  table.outputs[port.toNat]

@[simp] theorem input?_empty (port : UInt8) : empty.input? port = none := by
  simp [input?, empty]

@[simp] theorem output?_empty (port : UInt8) : empty.output? port = none := by
  simp [output?, empty]

/-- The numbers of bound input and output ports. -/
def boundCount (table : PortTable) : Nat × Nat :=
  (table.inputs.toList.countP Option.isSome, table.outputs.toList.countP Option.isSome)

end PortTable

end Cabinet
