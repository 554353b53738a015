import Cabinet.Proofs.Machine.Calculating
import Mathlib.Data.Nat.Digits.Defs

/-!
# Long numbers

Numbers of any length are added and subtracted one byte after the other, the
lowest first, with the carry flag between them. A link of such a chain makes one
byte, and what does not fit into it is in the carry, so nothing is lost: the bytes
and the last carry are those of the whole sum or difference. What happens between
the links does not matter as long as it leaves the carry alone.
-/

namespace Cabinet

namespace Cpu

/-! ## Numbers as bytes -/

/-- The number that bytes stand for, the lowest first. -/
def number (bytes : List UInt8) : Nat :=
  Nat.ofDigits 256 (bytes.map UInt8.toNat)

/-- The lowest bytes of a number. -/
def lowBytes : Nat → Nat → List UInt8
  | 0, _ => []
  | count + 1, value => UInt8.ofNat value :: lowBytes count (value / 256)

theorem number_nil : number [] = 0 := rfl

theorem number_cons (byte : UInt8) (bytes : List UInt8) :
    number (byte :: bytes) = byte.toNat + 256 * number bytes := by
  rw [number, List.map_cons, Nat.ofDigits_cons]
  rfl

theorem number_lt (bytes : List UInt8) : number bytes < 256 ^ bytes.length := by
  have length : (bytes.map UInt8.toNat).length = bytes.length := List.length_map UInt8.toNat
  rw [number, ← length]
  apply Nat.ofDigits_lt_base_pow_length (by decide)
  intro digit among
  obtain ⟨byte, -, rfl⟩ := List.mem_map.mp among
  exact byte.toNat_lt

/-- Bytes are found again in the number that they stand for. -/
theorem lowBytes_number (bytes : List UInt8) : lowBytes bytes.length (number bytes) = bytes := by
  induction bytes with
  | nil => rfl
  | cons byte bytes ih =>
      have bound := byte.toNat_lt
      have low : UInt8.ofNat (byte.toNat + 256 * number bytes) = byte := by
        rw [← UInt8.toNat_inj, UInt8.toNat_ofNat']
        omega
      have rest : (byte.toNat + 256 * number bytes) / 256 = number bytes := by
        omega
      rw [List.length_cons, lowBytes, number_cons, low, rest, ih]

theorem number_injective {one other : List UInt8} (length : one.length = other.length)
    (value : number one = number other) : one = other := by
  rw [← lowBytes_number one, ← lowBytes_number other, length, value]

/-! ## Links -/

/-- The accumulator is loaded and an operation applied to it. -/
def link (cpu : Cpu) (op : AluOp) (first second : UInt8) : Cpu :=
  ({ cpu with a := first } : Cpu).alu op second

theorem toNat_decide (condition : Prop) [Decidable condition] :
    (decide condition).toNat = if condition then 1 else 0 :=
  Bool.cond_decide condition 1 0

/-- An addition with carry loses nothing. -/
theorem link_adc (cpu : Cpu) (first second : UInt8) :
    (cpu.link .adc first second).a.toNat +
        256 * ((cpu.link .adc first second).flag .carry).toNat =
      first.toNat + second.toNat + (cpu.flag .carry).toNat := by
  let loaded : Cpu := { cpu with a := first }
  have result : (cpu.link .adc first second).a.toNat =
      (first.toNat + second.toNat + (cpu.flag .carry).toNat) % 256 := loaded.toNat_a_alu second 1
  have carry : (cpu.link .adc first second).flag .carry =
      decide (255 < first.toNat + second.toNat + (cpu.flag .carry).toNat) :=
    (loaded.describes_alu second 1).carry
  have firstBound := first.toNat_lt
  have secondBound := second.toNat_lt
  have carryBound := (cpu.flag .carry).toNat_le
  rw [result, carry, toNat_decide]
  split <;> omega

/-- Nor does a subtraction with borrow. -/
theorem link_sbb (cpu : Cpu) (first second : UInt8) :
    (cpu.link .sbb first second).a.toNat + second.toNat + (cpu.flag .carry).toNat =
      first.toNat + 256 * ((cpu.link .sbb first second).flag .carry).toNat := by
  let loaded : Cpu := { cpu with a := first }
  have result : (cpu.link .sbb first second).a.toNat =
      ((first.toNat - second.toNat - (cpu.flag .carry).toNat : Int) % 256).toNat :=
    loaded.toNat_a_alu second 3
  have borrow : (cpu.link .sbb first second).flag .carry =
      decide (first.toNat < second.toNat + (cpu.flag .carry).toNat) :=
    (loaded.describes_alu second 3).carry
  have firstBound := first.toNat_lt
  have secondBound := second.toNat_lt
  have carryBound := (cpu.flag .carry).toNat_le
  rw [result, borrow, toNat_decide]
  split <;> omega

/-! ## Chains -/

/-- The results of links, one for each two bytes of the operands, and the processor at the end. -/
def chain (cpu : Cpu) (op : AluOp) : List UInt8 → List UInt8 → List UInt8 × Cpu
  | first :: firsts, second :: seconds =>
      let linked := cpu.link op first second
      let (results, last) := linked.chain op firsts seconds
      (linked.a :: results, last)
  | _, _ => ([], cpu)

theorem chain_cons (cpu : Cpu) (op : AluOp) (first second : UInt8) (firsts seconds : List UInt8) :
    cpu.chain op (first :: firsts) (second :: seconds) =
      ((cpu.link op first second).a :: ((cpu.link op first second).chain op firsts seconds).1,
        ((cpu.link op first second).chain op firsts seconds).2) := rfl

/-- Operands of one length have their bytes side by side. -/
theorem side_by_side
    {motive : (firsts seconds : List UInt8) → firsts.length = seconds.length → Prop}
    (nil : motive [] [] rfl)
    (cons : ∀ first second firsts seconds same, motive firsts seconds same →
      motive (first :: firsts) (second :: seconds) (congrArg Nat.succ same))
    (firsts seconds : List UInt8) (same : firsts.length = seconds.length) :
    motive firsts seconds same := by
  induction firsts generalizing seconds with
  | nil =>
      cases seconds with
      | nil => exact nil
      | cons second seconds => cases same
  | cons first firsts ih =>
      cases seconds with
      | nil => cases same
      | cons second seconds => exact cons _ _ _ _ _ (ih seconds (Nat.succ.inj same))

section

variable {firsts seconds : List UInt8} (same : firsts.length = seconds.length)
include same

theorem length_chain (cpu : Cpu) (op : AluOp) :
    (cpu.chain op firsts seconds).1.length = firsts.length := by
  induction firsts, seconds, same using side_by_side generalizing cpu with
  | nil => rfl
  | cons first second firsts seconds same ih =>
      rw [chain_cons, List.length_cons, List.length_cons, ih]

theorem number_chain_lt (cpu : Cpu) (op : AluOp) :
    number (cpu.chain op firsts seconds).1 < 256 ^ firsts.length := by
  rw [← length_chain same cpu op]
  exact number_lt _

theorem lowBytes_chain (cpu : Cpu) (op : AluOp) :
    lowBytes firsts.length (number (cpu.chain op firsts seconds).1) =
      (cpu.chain op firsts seconds).1 := by
  rw [← length_chain same cpu op]
  exact lowBytes_number _

/-- A chain of additions loses nothing. -/
theorem chain_adc (cpu : Cpu) :
    number (cpu.chain .adc firsts seconds).1 +
        256 ^ firsts.length * ((cpu.chain .adc firsts seconds).2.flag .carry).toNat =
      number firsts + number seconds + (cpu.flag .carry).toNat := by
  induction firsts, seconds, same using side_by_side generalizing cpu with
  | nil => simp [chain, number_nil]
  | cons first second firsts seconds same ih =>
      -- What is carried out of the link is what the rest begins with.
      have linked := cpu.link_adc first second
      have rest := ih (cpu.link .adc first second)
      simp only [chain_cons, List.length_cons, pow_succ', number_cons, Nat.mul_assoc]
      omega

/-- Nor does one of subtractions. -/
theorem chain_sbb (cpu : Cpu) :
    number (cpu.chain .sbb firsts seconds).1 + number seconds + (cpu.flag .carry).toNat =
      number firsts +
        256 ^ firsts.length * ((cpu.chain .sbb firsts seconds).2.flag .carry).toNat := by
  induction firsts, seconds, same using side_by_side generalizing cpu with
  | nil => simp [chain, number_nil]
  | cons first second firsts seconds same ih =>
      have linked := cpu.link_sbb first second
      have rest := ih (cpu.link .sbb first second)
      simp only [chain_cons, List.length_cons, pow_succ', number_cons, Nat.mul_assoc]
      omega

/-! ## Whole numbers -/

/-- The bytes of a sum and its last carry. -/
theorem chain_adc_whole (cpu : Cpu) :
    let total := number firsts + number seconds + (cpu.flag .carry).toNat
    (cpu.chain .adc firsts seconds).1 = lowBytes firsts.length (total % 256 ^ firsts.length) ∧
      (cpu.chain .adc firsts seconds).2.flag .carry = decide (256 ^ firsts.length ≤ total) := by
  intro total
  have whole : _ = total := chain_adc same cpu
  have fits := number_chain_lt same cpu .adc
  rw [← lowBytes_chain same cpu .adc]
  cases excess : (cpu.chain .adc firsts seconds).2.flag .carry with
  | false =>
      rw [excess, Bool.toNat_false, Nat.mul_zero, Nat.add_zero] at whole
      rw [← whole, Nat.mod_eq_of_lt fits, decide_eq_false (Nat.not_le_of_lt fits)]
      exact ⟨rfl, rfl⟩
  | true =>
      rw [excess, Bool.toNat_true, Nat.mul_one] at whole
      rw [← whole, Nat.add_mod_right, Nat.mod_eq_of_lt fits, decide_eq_true (Nat.le_add_left _ _)]
      exact ⟨rfl, rfl⟩

/-- The bytes of a difference, which wraps around, and its last borrow. -/
theorem chain_sbb_whole (cpu : Cpu) :
    let taken := number seconds + (cpu.flag .carry).toNat
    (cpu.chain .sbb firsts seconds).1 = lowBytes firsts.length
        ((number firsts - taken : Int) % (256 ^ firsts.length : Nat)).toNat ∧
      (cpu.chain .sbb firsts seconds).2.flag .carry = decide (number firsts < taken) := by
  intro taken
  have whole := chain_sbb same cpu
  rw [Nat.add_assoc] at whole
  have fits := number_chain_lt same cpu .sbb
  have remainder : (number firsts - taken : Int) % (256 ^ firsts.length : Nat) =
      number (cpu.chain .sbb firsts seconds).1 := by
    have apart : (number firsts - taken : Int) = number (cpu.chain .sbb firsts seconds).1 -
        (256 ^ firsts.length : Nat) *
          (((cpu.chain .sbb firsts seconds).2.flag .carry).toNat : Int) := by
      have cast := congrArg (Nat.cast : Nat → Int) whole
      push_cast at cast ⊢
      omega
    rw [apart, Int.sub_mul_emod_self_left]
    exact Int.emod_eq_of_lt (Int.natCast_nonneg _) (Int.ofNat_lt.mpr fits)
  rw [remainder, Int.toNat_natCast, lowBytes_chain same]
  refine ⟨rfl, ?_⟩
  cases borrow : (cpu.chain .sbb firsts seconds).2.flag .carry with
  | false =>
      rw [borrow, Bool.toNat_false, Nat.mul_zero] at whole
      exact (decide_eq_false (by omega)).symm
  | true =>
      rw [borrow, Bool.toNat_true, Nat.mul_one] at whole
      exact (decide_eq_true (by omega)).symm

/-- Taking the same bytes and the same carry from a sum brings back what they were added to. -/
theorem chain_sbb_chain_adc (cpu : Cpu) {other : Cpu}
    (carry : other.flag .carry = cpu.flag .carry) :
    let sum := cpu.chain .adc firsts seconds
    let back := other.chain .sbb sum.1 seconds
    back.1 = firsts ∧ back.2.flag .carry = sum.2.flag .carry := by
  intro sum back
  have length : sum.1.length = firsts.length := length_chain same cpu .adc
  have backLength : back.1.length = sum.1.length := length_chain (length.trans same) other .sbb
  have together : number sum.1 + 256 ^ firsts.length * (sum.2.flag .carry).toNat =
      number firsts + number seconds + (cpu.flag .carry).toNat := chain_adc same cpu
  have apart : number back.1 + number seconds + (other.flag .carry).toNat =
      number sum.1 + 256 ^ sum.1.length * (back.2.flag .carry).toNat :=
    chain_sbb (length.trans same) other
  have fits : number back.1 < 256 ^ sum.1.length := number_chain_lt (length.trans same) other .sbb
  have bound := number_lt firsts
  rw [length] at fits
  rw [length, carry] at apart
  have balance : number back.1 + 256 ^ firsts.length * (sum.2.flag .carry).toNat =
      number firsts + 256 ^ firsts.length * (back.2.flag .carry).toNat := by
    omega
  have carries : back.2.flag .carry = sum.2.flag .carry := by
    cases excess : sum.2.flag .carry <;> cases borrow : back.2.flag .carry
    case false.false | true.true => rfl
    case false.true =>
      rw [excess, borrow, Bool.toNat_false, Bool.toNat_true] at balance
      omega
    case true.false =>
      rw [excess, borrow, Bool.toNat_false, Bool.toNat_true] at balance
      omega
  rw [carries] at balance
  exact ⟨number_injective (backLength.trans length) (Nat.add_right_cancel balance), carries⟩

end

/-! ## What a link depends on -/

/-- Where the program counter stands does not matter to the accumulator. -/
theorem alu_moved (cpu : Cpu) (pc : UInt16) (op : AluOp) (operand : UInt8) :
    (({ cpu with pc } : Cpu).alu op operand).a = (cpu.alu op operand).a ∧
      (({ cpu with pc } : Cpu).alu op operand).flags = (cpu.alu op operand).flags := by
  cases op <;> exact ⟨rfl, rfl⟩

/-- A link makes the same of the same bytes and carry. -/
theorem link_congr {one other : Cpu} (op : AluOp) (first second : UInt8)
    (carry : one.flag .carry = other.flag .carry) :
    (one.link op first second).a = (other.link op first second).a ∧
      (one.link op first second).flag .carry = (other.link op first second).flag .carry := by
  obtain ⟨code, rfl⟩ : ∃ code, AluOp.ofCode code = op := by
    cases op
    exacts [⟨0, rfl⟩, ⟨1, rfl⟩, ⟨2, rfl⟩, ⟨3, rfl⟩, ⟨4, rfl⟩, ⟨5, rfl⟩, ⟨6, rfl⟩, ⟨7, rfl⟩]
  let here : Cpu := { one with a := first }
  let there : Cpu := { other with a := first }
  change here.flag .carry = there.flag .carry at carry
  have result := here.toNat_a_alu second code
  have linked := (here.describes_alu second code).carry
  rw [carry] at result linked
  exact ⟨UInt8.toNat_inj.mp (result.trans (there.toNat_a_alu second code).symm),
    linked.trans (there.describes_alu second code).carry.symm⟩

end Cpu

namespace Machine

open Cpu

variable {β : Type} [Bus β]

/-! ## Steps -/

/-- The next instruction applies an operation to two bytes, the first in the accumulator. -/
structure Applies (machine : Machine β) (op : AluOp) (first second : UInt8) : Prop where
  quiet : machine.cpu.serviceable = none
  running : machine.cpu.halted = false
  loaded : machine.cpu.a = first
  operand : (∃ source, machine.current = .alu op source ∧ machine.reg source = second) ∨
    (machine.current = .aluImm op ∧ machine.read (machine.cpu.pc + 1) = second)

/-- Wherever the second byte lies, the step is a link. -/
theorem Applies.step {machine : Machine β} {op : AluOp} {first second : UInt8}
    (applies : machine.Applies op first second) :
    machine.step.2.cpu.a = (machine.cpu.link op first second).a ∧
      machine.step.2.cpu.flags = (machine.cpu.link op first second).flags := by
  obtain ⟨quiet, running, rfl, ⟨source, current, rfl⟩ | ⟨current, rfl⟩⟩ := applies
  · rw [step_of_running quiet running, current, perform, execute, reg_jump]
    exact machine.cpu.alu_moved (machine.cpu.pc + 1) op (machine.reg source)
  · rw [step_of_running quiet running, current, perform, execute]
    exact machine.cpu.alu_moved (machine.cpu.pc + 2) op (machine.read (machine.cpu.pc + 1))

/--
A run that makes a chain. Between the links the machine goes on in any way that leaves the carry
as it is, so that each of them finds its bytes.
-/
inductive Chained (op : AluOp) :
    Machine β → List UInt8 → List UInt8 → List UInt8 → Machine β → Prop where
  | done (machine : Machine β) : Chained op machine [] [] [] machine
  | link {machine loaded last : Machine β} {first second : UInt8}
      {firsts seconds results : List UInt8}
      (kept : loaded.cpu.flag .carry = machine.cpu.flag .carry)
      (applies : loaded.Applies op first second)
      (rest : Chained op loaded.step.2 firsts seconds results last) :
      Chained op machine (first :: firsts) (second :: seconds)
        (loaded.step.2.cpu.a :: results) last

/-- By induction on the run, with any processor that has the same carry at the start. -/
theorem Chained.eq_chain {op : AluOp} {machine last : Machine β}
    {firsts seconds results : List UInt8} (chained : Chained op machine firsts seconds results last)
    {cpu : Cpu} (carry : machine.cpu.flag .carry = cpu.flag .carry) :
    results = (cpu.chain op firsts seconds).1 ∧
      last.cpu.flag .carry = (cpu.chain op firsts seconds).2.flag .carry := by
  induction chained generalizing cpu with
  | done machine => exact ⟨rfl, carry⟩
  | @link machine loaded last first second firsts seconds results kept applies rest ih =>
      obtain ⟨result, flags⟩ := applies.step
      obtain ⟨same, linked⟩ := link_congr op first second (kept.trans carry)
      obtain ⟨results, last⟩ := ih ((flag_of_flags flags .carry).trans linked)
      rw [chain_cons, results, last, result, same]
      exact ⟨rfl, rfl⟩

/--
Addition and subtraction of two numbers of one length in bytes. The difference of the whole
numbers leaves a remainder that is never negative. Taking the second number from the sum
brings back the first one, and the carry. A run makes what the chain does that starts with
its carry.
-/
structure LongArithmetic (β : Type) [Bus β] (firsts seconds : List UInt8) : Prop where
  sum : ∀ cpu : Cpu,
    let total := number firsts + number seconds + (cpu.flag .carry).toNat
    (cpu.chain .adc firsts seconds).1 = lowBytes firsts.length (total % 256 ^ firsts.length) ∧
      (cpu.chain .adc firsts seconds).2.flag .carry = decide (256 ^ firsts.length ≤ total)
  difference : ∀ cpu : Cpu,
    let taken := number seconds + (cpu.flag .carry).toNat
    (cpu.chain .sbb firsts seconds).1 = lowBytes firsts.length
        ((number firsts - taken : Int) % (256 ^ firsts.length : Nat)).toNat ∧
      (cpu.chain .sbb firsts seconds).2.flag .carry = decide (number firsts < taken)
  inverse : ∀ cpu other : Cpu, other.flag .carry = cpu.flag .carry →
    let sum := cpu.chain .adc firsts seconds
    let back := other.chain .sbb sum.1 seconds
    back.1 = firsts ∧ back.2.flag .carry = sum.2.flag .carry
  runs : ∀ op results (machine last : Machine β), Chained op machine firsts seconds results last →
    results = (machine.cpu.chain op firsts seconds).1 ∧
      last.cpu.flag .carry = (machine.cpu.chain op firsts seconds).2.flag .carry

theorem long_arithmetic {firsts seconds : List UInt8} (same : firsts.length = seconds.length) :
    LongArithmetic β firsts seconds where
  sum := chain_adc_whole same
  difference := chain_sbb_whole same
  inverse := by
    intro cpu other carry
    exact chain_sbb_chain_adc same cpu carry
  runs := by
    intro op results machine last chained
    exact chained.eq_chain rfl

/--
In the second link of the first chain, and in a run whose only link is ACI with its operand past
the last address, the byte that is added and the carry are more than a byte.
-/
theorem long_arithmetic_beyond_byte :
    let cpu : Cpu := { flags := 0x01 }
    let machine : Machine Memory :=
      ⟨{ a := 0xFF, pc := 0xFFFF, flags := 0x01 }, Memory.zero.load 0xFFFF [0xCE, 0xFF]⟩
    (cpu.chain .adc [0xFF, 0xFF] [0x01, 0xFF]).1 = [0x01, 0xFF] ∧
      (cpu.chain .adc [0xFF, 0xFF] [0x01, 0xFF]).2.flag .carry = true ∧
        machine.step.2.cpu.a = 0xFF ∧ machine.step.2.cpu.flag .carry = true := by
  intro cpu machine
  have arithmetic : LongArithmetic Memory [0xFF, 0xFF] [0x01, 0xFF] := long_arithmetic rfl
  obtain ⟨bytes, carry⟩ := arithmetic.sum cpu
  refine ⟨bytes.trans (by decide), carry.trans (by decide), ?_⟩
  have applies : machine.Applies .adc 0xFF 0xFF := by
    have opcode : machine.read 0xFFFF = 0xCE := by
      simp [machine, read_eq, memory, Bus.OverMemory.memory, Memory.load, Memory.read_write]
    have operand : machine.read 0x0000 = 0xFF := by
      simp [machine, read_eq, memory, Bus.OverMemory.memory, Memory.load]
    have behind : machine.cpu.pc + 1 = 0x0000 := by
      decide
    refine ⟨rfl, rfl, rfl, .inr ⟨?_, behind ▸ operand⟩⟩
    change Instruction.ofOpcode (machine.read 0xFFFF) = _
    rw [opcode, Instruction.ofOpcode_eq_decode]
    rfl
  have arithmetic : LongArithmetic Memory [0xFF] [0xFF] := long_arithmetic rfl
  obtain ⟨results, last⟩ := arithmetic.runs _ _ _ _ (.link rfl applies (.done _))
  obtain ⟨bytes, carry⟩ := arithmetic.sum machine.cpu
  rw [bytes] at results
  exact ⟨(List.head_eq_of_cons_eq results).trans (by decide), last.trans (carry.trans (by decide))⟩

end Machine

end Cabinet
