/-!
# Instructions

An opcode is one byte. Its two top bits choose a group; the two three-bit
fields below them name registers, register pairs, conditions, operations and
restart numbers. Decoding is total: an opcode without a documented meaning
decodes to `unknown`.
-/

namespace Cabinet.Cpu

/-- An eight-bit operand. `m` is the byte in memory at HL. -/
inductive Reg where
  | b | c | d | e | h | l | m | a
deriving DecidableEq, Inhabited

/-- A register pair as operand of a sixteen-bit operation. -/
inductive Pair where
  | bc | de | hl | sp
deriving DecidableEq, Inhabited

/-- A register pair as it goes to the stack; the last is the accumulator with the flags. -/
inductive StackPair where
  | bc | de | hl | psw
deriving DecidableEq, Inhabited

/-- A branch condition on the zero, carry, parity or sign flag. -/
inductive Cond where
  | notZero | zero | noCarry | carry | parityOdd | parityEven | plus | minus
deriving DecidableEq, Inhabited

/-- An operation of the accumulator with one operand. -/
inductive AluOp where
  | add | adc | sub | sbb | ana | xra | ora | cmp
deriving DecidableEq, Inhabited

inductive Instruction where
  | nop
  | lxi (pair : Pair)
  | stax (pair : Pair)
  | ldax (pair : Pair)
  | inx (pair : Pair)
  | dcx (pair : Pair)
  | dad (pair : Pair)
  | inr (reg : Reg)
  | dcr (reg : Reg)
  | mvi (reg : Reg)
  | mov (target source : Reg)
  | alu (op : AluOp) (source : Reg)
  | aluImm (op : AluOp)
  | rlc | rrc | ral | rar
  | daa | cma | stc | cmc
  | shld | lhld | sta | lda
  | hlt
  | jmp
  | jcc (cond : Cond)
  | call
  | ccc (cond : Cond)
  | ret
  | rcc (cond : Cond)
  | rst (number : Fin 8)
  | push (pair : StackPair)
  | pop (pair : StackPair)
  | output
  | input
  | xthl | xchg | pchl | sphl
  | ei | di
  | unknown
deriving DecidableEq, Inhabited

namespace Reg

def ofCode : Fin 8 → Reg
  | 0 => .b | 1 => .c | 2 => .d | 3 => .e | 4 => .h | 5 => .l | 6 => .m | 7 => .a

def name : Reg → String
  | .b => "B" | .c => "C" | .d => "D" | .e => "E" | .h => "H" | .l => "L" | .m => "M" | .a => "A"

end Reg

namespace Pair

/-- The pair named by the two upper bits of a three-bit field. -/
def ofCode : Fin 8 → Pair
  | 0 | 1 => .bc | 2 | 3 => .de | 4 | 5 => .hl | 6 | 7 => .sp

def name : Pair → String
  | .bc => "BC" | .de => "DE" | .hl => "HL" | .sp => "SP"

end Pair

namespace StackPair

/-- The pair named by the two upper bits of a three-bit field. -/
def ofCode : Fin 8 → StackPair
  | 0 | 1 => .bc | 2 | 3 => .de | 4 | 5 => .hl | 6 | 7 => .psw

def name : StackPair → String
  | .bc => "BC" | .de => "DE" | .hl => "HL" | .psw => "PSW"

end StackPair

namespace Cond

def ofCode : Fin 8 → Cond
  | 0 => .notZero | 1 => .zero | 2 => .noCarry | 3 => .carry
  | 4 => .parityOdd | 5 => .parityEven | 6 => .plus | 7 => .minus

def name : Cond → String
  | .notZero => "NZ" | .zero => "Z" | .noCarry => "NC" | .carry => "C"
  | .parityOdd => "PO" | .parityEven => "PE" | .plus => "P" | .minus => "M"

end Cond

namespace AluOp

def ofCode : Fin 8 → AluOp
  | 0 => .add | 1 => .adc | 2 => .sub | 3 => .sbb | 4 => .ana | 5 => .xra | 6 => .ora | 7 => .cmp

def name : AluOp → String
  | .add => "Add" | .adc => "Adc" | .sub => "Sub" | .sbb => "Sbb"
  | .ana => "Ana" | .xra => "Xra" | .ora => "Ora" | .cmp => "Cmp"

end AluOp

/-- The three-bit field in bits 3 to 5 of an opcode. -/
def upperField (opcode : UInt8) : Fin 8 :=
  Fin.ofNat 8 (opcode.toNat / 8)

/-- The three-bit field in bits 0 to 2 of an opcode. -/
def lowerField (opcode : UInt8) : Fin 8 :=
  Fin.ofNat 8 opcode.toNat

namespace Instruction

/-- Opcodes with both top bits clear. -/
def decodeFirst (upper lower : Fin 8) : Instruction :=
  match lower, upper with
  | 0, 0 => .nop
  | 0, _ => .unknown
  | 1, _ => if upper.val % 2 = 0 then .lxi (Pair.ofCode upper) else .dad (Pair.ofCode upper)
  | 2, 0 => .stax .bc
  | 2, 1 => .ldax .bc
  | 2, 2 => .stax .de
  | 2, 3 => .ldax .de
  | 2, 4 => .shld
  | 2, 5 => .lhld
  | 2, 6 => .sta
  | 2, 7 => .lda
  | 3, _ => if upper.val % 2 = 0 then .inx (Pair.ofCode upper) else .dcx (Pair.ofCode upper)
  | 4, _ => .inr (Reg.ofCode upper)
  | 5, _ => .dcr (Reg.ofCode upper)
  | 6, _ => .mvi (Reg.ofCode upper)
  | 7, 0 => .rlc
  | 7, 1 => .rrc
  | 7, 2 => .ral
  | 7, 3 => .rar
  | 7, 4 => .daa
  | 7, 5 => .cma
  | 7, 6 => .stc
  | 7, 7 => .cmc

/-- Moves; the move from memory to memory is the halt instruction. -/
def decodeMove (upper lower : Fin 8) : Instruction :=
  if upper = 6 ∧ lower = 6 then .hlt else .mov (Reg.ofCode upper) (Reg.ofCode lower)

/-- Opcodes with both top bits set. -/
def decodeLast (upper lower : Fin 8) : Instruction :=
  match lower, upper with
  | 0, _ => .rcc (Cond.ofCode upper)
  | 1, 1 => .ret
  | 1, 3 => .unknown
  | 1, 5 => .pchl
  | 1, 7 => .sphl
  | 1, _ => .pop (StackPair.ofCode upper)
  | 2, _ => .jcc (Cond.ofCode upper)
  | 3, 0 => .jmp
  | 3, 1 => .unknown
  | 3, 2 => .output
  | 3, 3 => .input
  | 3, 4 => .xthl
  | 3, 5 => .xchg
  | 3, 6 => .di
  | 3, 7 => .ei
  | 4, _ => .ccc (Cond.ofCode upper)
  | 5, 1 => .call
  | 5, 3 | 5, 5 | 5, 7 => .unknown
  | 5, _ => .push (StackPair.ofCode upper)
  | 6, _ => .aluImm (AluOp.ofCode upper)
  | 7, _ => .rst upper

def decode (opcode : UInt8) : Instruction :=
  let upper := upperField opcode
  let lower := lowerField opcode
  match opcode.toNat / 64 with
  | 0 => decodeFirst upper lower
  | 1 => decodeMove upper lower
  | 2 => .alu (AluOp.ofCode upper) (Reg.ofCode lower)
  | _ => decodeLast upper lower

/-- The instruction of every opcode, decoded once. -/
def table : Vector Instruction 256 :=
  Vector.ofFn fun code => decode (UInt8.ofNat code.val)

/-- Look the opcode up in the table. -/
def ofOpcode (opcode : UInt8) : Instruction :=
  have bound : opcode.toNat < 256 := opcode.toNat_lt
  table[opcode.toNat]

theorem ofOpcode_eq_decode (opcode : UInt8) : ofOpcode opcode = decode opcode := by
  simp [ofOpcode, table]

theorem ofOpcode_of_decode {opcode : UInt8} {instruction : Instruction}
    (decoded : decode opcode = instruction) : ofOpcode opcode = instruction :=
  (ofOpcode_eq_decode opcode).trans decoded

/-- The number of bytes: the opcode and the operand bytes that follow it. -/
def length : Instruction → UInt16
  | .lxi _ | .shld | .lhld | .sta | .lda | .jmp | .jcc _ | .call | .ccc _ => 3
  | .mvi _ | .aluImm _ | .output | .input => 2
  | _ => 1

/-- The name, as listings show it. -/
def name : Instruction → String
  | .nop => "Nop" | .lxi _ => "Lxi" | .stax _ => "Stax" | .ldax _ => "Ldax"
  | .inx _ => "Inx" | .dcx _ => "Dcx" | .dad _ => "Dad"
  | .inr _ => "Inr" | .dcr _ => "Dcr" | .mvi _ => "Mvi" | .mov _ _ => "Mov"
  | .alu _ _ => "Alu" | .aluImm _ => "AluImm"
  | .rlc => "Rlc" | .rrc => "Rrc" | .ral => "Ral" | .rar => "Rar"
  | .daa => "Daa" | .cma => "Cma" | .stc => "Stc" | .cmc => "Cmc"
  | .shld => "Shld" | .lhld => "Lhld" | .sta => "Sta" | .lda => "Lda"
  | .hlt => "Hlt" | .jmp => "Jmp" | .jcc _ => "Jcc" | .call => "Call" | .ccc _ => "Ccc"
  | .ret => "Ret" | .rcc _ => "Rcc" | .rst _ => "Rst" | .push _ => "Push" | .pop _ => "Pop"
  | .output => "Out" | .input => "In"
  | .xthl => "Xthl" | .xchg => "Xchg" | .pchl => "Pchl" | .sphl => "Sphl"
  | .ei => "Ei" | .di => "Di" | .unknown => "Unknown"

/-- The operands that are named by the opcode. -/
def operands : Instruction → String
  | .lxi pair | .stax pair | .ldax pair | .inx pair | .dcx pair | .dad pair => pair.name
  | .inr reg | .dcr reg | .mvi reg => reg.name
  | .mov target source => s!"{target.name}, {source.name}"
  | .alu op source => s!"{op.name}, {source.name}"
  | .aluImm op => op.name
  | .jcc cond | .ccc cond | .rcc cond => cond.name
  | .rst number => toString number.val
  | .push pair | .pop pair => pair.name
  | _ => ""

/-- The name with the operands in parentheses, as listings show it. -/
def listing (instruction : Instruction) : String :=
  if instruction.operands = "" then instruction.name
  else s!"{instruction.name}({instruction.operands})"

end Instruction

end Cabinet.Cpu
