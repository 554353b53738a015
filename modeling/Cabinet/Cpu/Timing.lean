import Cabinet.Cpu.State

/-!
# Timing

The clock states of each instruction. A conditional call or return that is
taken needs six more than one that is not.
-/

namespace Cabinet.Cpu

/-- Clock states of accepting an interrupt. -/
def interruptCost : Nat := 11

/-- Clock states of one step while halted. -/
def idleCost : Nat := 4

/-- Clock states that a taken conditional call or return adds. -/
def takenCost : Nat := 6

namespace Instruction

/-- Clock states with conditional calls and returns not taken. -/
def baseCost : Instruction → Nat
  | .nop | .unknown => 4
  | .lxi _ => 10
  | .stax _ | .ldax _ => 7
  | .inx _ | .dcx _ => 5
  | .dad _ => 10
  | .inr reg | .dcr reg => if reg = .m then 10 else 5
  | .mvi reg => if reg = .m then 10 else 7
  | .mov target source => if target = .m ∨ source = .m then 7 else 5
  | .alu _ source => if source = .m then 7 else 4
  | .aluImm _ => 7
  | .rlc | .rrc | .ral | .rar => 4
  | .daa | .cma | .stc | .cmc => 4
  | .shld | .lhld => 16
  | .sta | .lda => 13
  | .hlt => 7
  | .jmp | .jcc _ => 10
  | .call => 17
  | .ccc _ => 11
  | .ret => 10
  | .rcc _ => 5
  | .rst _ => 11
  | .push _ => 11
  | .pop _ => 10
  | .output | .input => 10
  | .xthl => 18
  | .xchg => 4
  | .pchl | .sphl => 5
  | .ei | .di => 4

/-- Clock states when executed with the flags of `cpu`. -/
def cost (instruction : Instruction) (cpu : Cpu) : Nat :=
  match instruction with
  | .ccc cond | .rcc cond =>
      instruction.baseCost + (if cpu.holds cond then takenCost else 0)
  | _ => instruction.baseCost

theorem four_le_baseCost (instruction : Instruction) : 4 ≤ instruction.baseCost := by
  cases instruction <;> simp only [baseCost] <;> (try split) <;> decide

theorem four_le_cost (instruction : Instruction) (cpu : Cpu) : 4 ≤ instruction.cost cpu := by
  have base := instruction.four_le_baseCost
  unfold cost
  split <;> omega

end Instruction

end Cabinet.Cpu
