import Cabinet.Cpu.Timing

/-!
# Opcodes by their bits

The manual of the processor describes instructions by their opcodes: some by a
single byte, others by bits that are the same for a whole family while a field
of two or three bits names a register pair, a register, a condition or a number.
Here lengths, clock states, the transfers of control and the flags that may
change are written down in this way. The decoder agrees with all four tables, so
a statement about opcodes can be proved of the decoded instructions.
-/

namespace Cabinet.Cpu

/-! ## Patterns -/

/-- The opcodes whose bits under a mask are the given ones. -/
structure Pattern where
  mask : UInt8
  bits : UInt8

namespace Pattern

/-- A single opcode. -/
def exactly (opcode : UInt8) : Pattern := ⟨0xFF, opcode⟩

/-- Any value in bits 4 and 5, which name a register pair. -/
def anyPair (opcode : UInt8) : Pattern := ⟨0xCF, opcode⟩

/-- Any value in bits 3 to 5, which name a register, an operation, a condition or a number. -/
def anyField (opcode : UInt8) : Pattern := ⟨0xC7, opcode⟩

/-- Any value in bits 0 to 5. -/
def anyBlock (opcode : UInt8) : Pattern := ⟨0xC0, opcode⟩

def fits (pattern : Pattern) (opcode : UInt8) : Bool :=
  opcode &&& pattern.mask == pattern.bits

end Pattern

namespace Opcode

open Pattern

def isOneOf (patterns : List Pattern) (opcode : UInt8) : Bool :=
  patterns.any fun pattern => pattern.fits opcode

/-! ## Length -/

/-- LXI, SHLD, LHLD, STA, LDA, JMP, the conditional jumps, CALL and the conditional calls. -/
def withWord : List Pattern := [
  anyPair 0x01, exactly 0x22, exactly 0x2A, exactly 0x32, exactly 0x3A,
  exactly 0xC3, anyField 0xC2, exactly 0xCD, anyField 0xC4]

/-- MVI, the operations with an immediate byte, OUT and IN. -/
def withByte : List Pattern :=
  [anyField 0x06, anyField 0xC6, exactly 0xD3, exactly 0xDB]

/-- The number of bytes of an instruction. -/
def length (opcode : UInt8) : Nat :=
  if isOneOf withWord opcode then 3 else if isOneOf withByte opcode then 2 else 1

/-! ## Clock states -/

/-- Clock states by opcode, sixteen in a row, with conditional calls and returns not taken. -/
def costTable : List Nat := [
  4, 10,  7,  5,  5,  5,  7,  4,  4, 10,  7,  5,  5,  5,  7,  4,
  4, 10,  7,  5,  5,  5,  7,  4,  4, 10,  7,  5,  5,  5,  7,  4,
  4, 10, 16,  5,  5,  5,  7,  4,  4, 10, 16,  5,  5,  5,  7,  4,
  4, 10, 13,  5, 10, 10, 10,  4,  4, 10, 13,  5,  5,  5,  7,  4,
  5,  5,  5,  5,  5,  5,  7,  5,  5,  5,  5,  5,  5,  5,  7,  5,
  5,  5,  5,  5,  5,  5,  7,  5,  5,  5,  5,  5,  5,  5,  7,  5,
  5,  5,  5,  5,  5,  5,  7,  5,  5,  5,  5,  5,  5,  5,  7,  5,
  7,  7,  7,  7,  7,  7,  7,  7,  5,  5,  5,  5,  5,  5,  7,  5,
  4,  4,  4,  4,  4,  4,  7,  4,  4,  4,  4,  4,  4,  4,  7,  4,
  4,  4,  4,  4,  4,  4,  7,  4,  4,  4,  4,  4,  4,  4,  7,  4,
  4,  4,  4,  4,  4,  4,  7,  4,  4,  4,  4,  4,  4,  4,  7,  4,
  4,  4,  4,  4,  4,  4,  7,  4,  4,  4,  4,  4,  4,  4,  7,  4,
  5, 10, 10, 10, 11, 11,  7, 11,  5, 10, 10,  4, 11, 17,  7, 11,
  5, 10, 10, 10, 11, 11,  7, 11,  5,  4, 10, 10, 11,  4,  7, 11,
  5, 10, 10, 18, 11, 11,  7, 11,  5,  5, 10,  4, 11,  4,  7, 11,
  5, 10, 10,  4, 11, 11,  7, 11,  5,  5, 10,  4, 11,  4,  7, 11]

def cost (opcode : UInt8) : Nat :=
  costTable.getD opcode.toNat 0

/-! ## Transfers of control -/

/--
Where an instruction goes on: behind itself, at the address in its operand, at the one on
top of the stack, at eight times a number or at the address in HL. A call and a restart
leave the address behind themselves on the stack. A condition is given by its code.
-/
inductive Transfer where
  | onward
  | jump (condition : Option (Fin 8))
  | call (condition : Option (Fin 8))
  | ret (condition : Option (Fin 8))
  | restart (number : Fin 8)
  | indirect
deriving DecidableEq

def transfer (opcode : UInt8) : Transfer :=
  if opcode = 0xC3 then .jump none
  else if opcode = 0xCD then .call none
  else if opcode = 0xC9 then .ret none
  else if opcode = 0xE9 then .indirect
  else if (anyField 0xC2).fits opcode then .jump (some (upperField opcode))
  else if (anyField 0xC4).fits opcode then .call (some (upperField opcode))
  else if (anyField 0xC0).fits opcode then .ret (some (upperField opcode))
  else if (anyField 0xC7).fits opcode then .restart (upperField opcode)
  else .onward

/--
Whether the condition with a code holds of a flag byte: not zero, zero, no carry,
carry, odd parity, even parity, plus and minus.
-/
def met (flags : UInt8) : Fin 8 → Bool
  | 0 => flags &&& 0x40 == 0
  | 1 => flags &&& 0x40 != 0
  | 2 => flags &&& 0x01 == 0
  | 3 => flags &&& 0x01 != 0
  | 4 => flags &&& 0x04 == 0
  | 5 => flags &&& 0x04 != 0
  | 6 => flags &&& 0x80 == 0
  | 7 => flags &&& 0x80 != 0

namespace Transfer

/-- Whether control is handed on to another place than the next instruction. -/
def taken (flags : UInt8) : Transfer → Bool
  | .onward => false
  | .jump condition | .call condition | .ret condition => condition.all (met flags)
  | .restart _ | .indirect => true

/-- Clock states beside those of the table: for a conditional call or return that is taken. -/
def extraCost (flags : UInt8) : Transfer → Nat
  | .call (some condition) | .ret (some condition) => if met flags condition then 6 else 0
  | _ => 0

end Transfer

/-! ## Flags -/

/-- The operations of the accumulator with a register, memory or an immediate byte, and DAA. -/
def arithmetic : List Pattern :=
  [anyBlock 0x80, anyField 0xC6, exactly 0x27]

/-- INR and DCR. -/
def stepping : List Pattern :=
  [anyField 0x04, anyField 0x05]

/-- DAD, RLC, RRC, RAL, RAR, STC and CMC. -/
def carryOnly : List Pattern := [
  anyPair 0x09, exactly 0x07, exactly 0x0F, exactly 0x17, exactly 0x1F, exactly 0x37,
  exactly 0x3F]

/-- PUSH PSW. -/
def pushPsw : UInt8 := 0xF5

/-- POP PSW. -/
def popPsw : UInt8 := 0xF1

/-- Whether an opcode may change the flag byte at all. -/
def changesFlags (opcode : UInt8) : Bool :=
  opcode == popPsw || isOneOf (arithmetic ++ stepping ++ carryOnly) opcode

/-- The bits of the flag byte that an instruction may change. -/
def affected (opcode : UInt8) : UInt8 :=
  if opcode = popPsw then 0xFF
  else if isOneOf arithmetic opcode then 0xD5
  else if isOneOf stepping opcode then 0xD4
  else if isOneOf carryOnly opcode then 0x01
  else 0

theorem forall_opcode {Holds : UInt8 → Prop}
    (all : ∀ code : Fin 256, Holds (UInt8.ofNat code.val)) (opcode : UInt8) : Holds opcode := by
  have here := all ⟨opcode.toNat, opcode.toNat_lt⟩
  rwa [UInt8.ofNat_toNat] at here

theorem affected_of_carryOnly (opcode : UInt8) :
    isOneOf carryOnly opcode = true → affected opcode = 0x01 := by
  revert opcode
  exact forall_opcode (by decide +kernel)

theorem affected_of_stepping (opcode : UInt8) :
    isOneOf stepping opcode = true → affected opcode = 0xD4 := by
  revert opcode
  exact forall_opcode (by decide +kernel)

theorem affected_of_not_changesFlags (opcode : UInt8) :
    changesFlags opcode = false → affected opcode = 0 := by
  revert opcode
  exact forall_opcode (by decide +kernel)

/-- The bits without meaning are out of reach of all opcodes but one. -/
theorem affected_apart (opcode : UInt8) :
    opcode ≠ popPsw → ~~~affected opcode &&& ~~~flagBits = ~~~flagBits := by
  revert opcode
  exact forall_opcode (by decide +kernel)

end Opcode

/-! ## The decoder agrees -/

/-- The code of a condition in an opcode. -/
def Cond.code : Cond → Fin 8
  | .notZero => ⟨0, by decide⟩
  | .zero => ⟨1, by decide⟩
  | .noCarry => ⟨2, by decide⟩
  | .carry => ⟨3, by decide⟩
  | .parityOdd => ⟨4, by decide⟩
  | .parityEven => ⟨5, by decide⟩
  | .plus => ⟨6, by decide⟩
  | .minus => ⟨7, by decide⟩

theorem holds_eq_met (cpu : Cpu) (cond : Cond) :
    cpu.holds cond = Opcode.met cpu.flags cond.code := by
  cases cond with
  | notZero | noCarry | parityOdd | plus => exact Bool.not_not _
  | zero | carry | parityEven | minus => rfl

namespace Instruction

/-- Where an instruction goes on. -/
def transfer : Instruction → Opcode.Transfer
  | .jmp => .jump none
  | .jcc cond => .jump (some cond.code)
  | .call => .call none
  | .ccc cond => .call (some cond.code)
  | .ret => .ret none
  | .rcc cond => .ret (some cond.code)
  | .rst number => .restart number
  | .pchl => .indirect
  | _ => .onward

/-- The bits of the flag byte that an instruction may change. -/
def affected : Instruction → UInt8
  | .pop .psw => 0xFF
  | .alu _ _ | .aluImm _ | .daa => 0xD5
  | .inr _ | .dcr _ => 0xD4
  | .dad _ | .rlc | .rrc | .ral | .rar | .stc | .cmc => 0x01
  | _ => 0

theorem ofOpcode_pushPsw : ofOpcode Opcode.pushPsw = .push .psw :=
  ofOpcode_of_decode rfl

theorem ofOpcode_popPsw : ofOpcode Opcode.popPsw = .pop .psw :=
  ofOpcode_of_decode rfl

theorem length_ofOpcode (opcode : UInt8) :
    (ofOpcode opcode).length = UInt16.ofNat (Opcode.length opcode) := by
  rw [ofOpcode_eq_decode]
  revert opcode
  exact Opcode.forall_opcode (by decide +kernel)

theorem baseCost_ofOpcode (opcode : UInt8) :
    (ofOpcode opcode).baseCost = Opcode.cost opcode := by
  rw [ofOpcode_eq_decode]
  revert opcode
  exact Opcode.forall_opcode (by decide +kernel)

theorem transfer_ofOpcode (opcode : UInt8) :
    (ofOpcode opcode).transfer = Opcode.transfer opcode := by
  rw [ofOpcode_eq_decode]
  revert opcode
  exact Opcode.forall_opcode (by decide +kernel)

theorem affected_ofOpcode (opcode : UInt8) :
    (ofOpcode opcode).affected = Opcode.affected opcode := by
  rw [ofOpcode_eq_decode]
  revert opcode
  exact Opcode.forall_opcode (by decide +kernel)

end Instruction

end Cabinet.Cpu
