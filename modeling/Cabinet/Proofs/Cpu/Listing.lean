import Cabinet.Cpu.Instruction
import Mathlib.Data.List.Basic

/-!
# Listings

The listing of an instruction shows which one it is: its name, the operands that its
opcode names and nothing besides.
-/

namespace Cabinet.Cpu

/-! ## Names of operands -/

theorem Reg.name_injective : Function.Injective Reg.name := by
  intro first second same
  cases first <;> cases second <;> first | rfl | exact absurd same (by decide)

theorem Pair.name_injective : Function.Injective Pair.name := by
  intro first second same
  cases first <;> cases second <;> first | rfl | exact absurd same (by decide)

theorem StackPair.name_injective : Function.Injective StackPair.name := by
  intro first second same
  cases first <;> cases second <;> first | rfl | exact absurd same (by decide)

theorem Cond.name_injective : Function.Injective Cond.name := by
  intro first second same
  cases first <;> cases second <;> first | rfl | exact absurd same (by decide)

theorem AluOp.name_injective : Function.Injective AluOp.name := by
  intro first second same
  cases first <;> cases second <;> first | rfl | exact absurd same (by decide)

theorem restart_injective : Function.Injective fun number : Fin 8 => toString number.val := by
  intro first second same
  decide +revert

namespace Instruction

/-! ## Names -/

/-- The names of all instructions. -/
def names : List String := [
  "Nop", "Lxi", "Stax", "Ldax", "Inx", "Dcx", "Dad", "Inr", "Dcr", "Mvi", "Mov", "Alu", "AluImm",
  "Rlc", "Rrc", "Ral", "Rar", "Daa", "Cma", "Stc", "Cmc", "Shld", "Lhld", "Sta", "Lda", "Hlt",
  "Jmp", "Jcc", "Call", "Ccc", "Ret", "Rcc", "Rst", "Push", "Pop", "Out", "In",
  "Xthl", "Xchg", "Pchl", "Sphl", "Ei", "Di", "Unknown"]

/-- A name stands at the place of its instruction, and nowhere before. -/
theorem idxOf_name (instruction : Instruction) :
    names.idxOf instruction.name = instruction.ctorIdx := by
  cases instruction <;> rfl

theorem not_mem_name (instruction : Instruction) : '(' ∉ instruction.name.toList := by
  cases instruction <;> simp only [name] <;> decide

/-! ## Operands -/

/-- The operands as a listing shows them behind the name. -/
def enclosed (operands : String) : List Char :=
  if operands = "" then [] else '(' :: (operands.toList ++ [')'])

theorem enclosed_injective : Function.Injective enclosed := by
  intro first second same
  unfold enclosed at same
  split at same
  · rename_i none
    split at same
    · rename_i none'
      rw [none, none']
    · cases same
  · split at same
    · cases same
    · exact String.toList_inj.mp (List.append_cancel_right (List.cons.inj same).2)

theorem toList_listing (instruction : Instruction) :
    instruction.listing.toList = instruction.name.toList ++ enclosed instruction.operands := by
  unfold listing enclosed
  split
  · rw [List.append_nil]
  · dsimp only [toString]
    simp

/-- The name ends in front of the first parenthesis. -/
theorem takeWhile_listing (instruction : Instruction) :
    instruction.listing.toList.takeWhile (· != '(') = instruction.name.toList := by
  have plain : ∀ c ∈ instruction.name.toList, (c != '(') = true := by
    rintro c member
    exact bne_iff_ne.mpr fun same => instruction.not_mem_name (same ▸ member)
  have marked : (enclosed instruction.operands).takeWhile (· != '(') = [] := by
    unfold enclosed
    split
    · rfl
    · rfl
  rw [toList_listing, List.takeWhile_append_of_pos plain, marked, List.append_nil]

/-- Two operands, of which the first ones have names of one length, can be told apart. -/
theorem operand_pair_inj {first second source other : String}
    (lengths : first.toList.length = second.toList.length)
    (same : s!"{first}, {source}" = s!"{second}, {other}") : first = second ∧ source = other := by
  have texts : first.toList ++ (", ".toList ++ source.toList) =
      second.toList ++ (", ".toList ++ other.toList) := by
    have lists := congrArg String.toList same
    dsimp only [toString] at lists
    simpa using lists
  obtain ⟨here, rest⟩ := List.append_inj texts lengths
  exact ⟨String.toList_inj.mp here, String.toList_inj.mp (List.append_cancel_left rest)⟩

theorem length_reg (reg : Reg) : reg.name.toList.length = 1 := by
  cases reg <;> rfl

theorem length_op (op : AluOp) : op.name.toList.length = 3 := by
  cases op <;> rfl

/-- Instructions of one kind differ in their operands. -/
theorem eq_of_operands {first second : Instruction} (kind : first.ctorIdx = second.ctorIdx)
    (operands : first.operands = second.operands) : first = second := by
  cases first <;> cases second <;> first
    | (cases kind; done)
    | rfl
    | exact congrArg _ (Pair.name_injective operands)
    | exact congrArg _ (Reg.name_injective operands)
    | exact congrArg _ (Cond.name_injective operands)
    | exact congrArg _ (StackPair.name_injective operands)
    | exact congrArg _ (AluOp.name_injective operands)
    | exact congrArg _ (restart_injective operands)
    | skip
  case mov.mov target source target' source' =>
    obtain ⟨same, same'⟩ := operand_pair_inj (by rw [length_reg, length_reg]) operands
    rw [Reg.name_injective same, Reg.name_injective same']
  case alu.alu op source op' source' =>
    obtain ⟨same, same'⟩ := operand_pair_inj (by rw [length_op, length_op]) operands
    rw [AluOp.name_injective same, Reg.name_injective same']

/-- No two instructions have the same listing. -/
theorem listing_injective : Function.Injective listing := by
  intro first second same
  have names : first.name = second.name := by
    rw [← String.toList_inj, ← takeWhile_listing, ← takeWhile_listing, same]
  have operands : first.operands = second.operands := by
    have texts := congrArg String.toList same
    rw [toList_listing, toList_listing, names] at texts
    exact enclosed_injective (List.append_cancel_left texts)
  refine eq_of_operands ?_ operands
  rw [← idxOf_name, ← idxOf_name, names]

end Instruction

end Cabinet.Cpu
