import Cabinet.Proofs.Machine.Control

/-!
# Spending clock states

Every step takes between four and eighteen clock states. So stepping until a
budget is spent takes at most a quarter of it in steps, and the step that
reaches the budget goes less than eighteen clock states beyond.
-/

namespace Cabinet

namespace Cpu.Instruction

theorem baseCost_le (instruction : Instruction) : instruction.baseCost ≤ 18 := by
  cases instruction <;> simp only [baseCost] <;> (try split) <;> decide

/-- Only calls and returns cost more when taken, and they stay below the longest instruction. -/
theorem cost_le (instruction : Instruction) (cpu : Cpu) : instruction.cost cpu ≤ 18 := by
  cases instruction with
  | ccc cond =>
      simp only [cost, baseCost, takenCost]
      split <;> decide
  | rcc cond =>
      simp only [cost, baseCost, takenCost]
      split <;> decide
  | _ =>
      simp only [cost]
      exact baseCost_le _

end Cpu.Instruction

namespace Machine

open Cpu

variable {β : Type} [Bus β]

theorem step_cost_le (machine : Machine β) : machine.step.1 ≤ 18 := by
  rcases machine.step_cases with ⟨vector, -, taken⟩ | ⟨-, -, taken⟩ | ⟨-, -, taken⟩
  · rw [taken]
    exact (by decide : interruptCost ≤ 18)
  · rw [taken]
    exact (by decide : idleCost ≤ 18)
  · rw [taken]
    dsimp only
    exact machine.current.cost_le machine.cpu

/-! ## Runs of steps -/

/-- Take `count` steps, adding their clock states to `spent`. -/
def steps (count spent : Nat) (machine : Machine β) : Nat × Machine β :=
  match count with
  | 0 => (spent, machine)
  | count + 1 =>
      let result := machine.step
      steps count (spent + result.1) result.2

/-- The machine after `count` steps. -/
def after (machine : Machine β) (count : Nat) : Machine β :=
  (machine.steps count 0).2

/-- The clock states of the first `count` steps. -/
def costOf (machine : Machine β) (count : Nat) : Nat :=
  (machine.steps count 0).1

/-- What was spent before a run is only added to. -/
theorem steps_eq (machine : Machine β) (count spent : Nat) :
    machine.steps count spent = (spent + machine.costOf count, machine.after count) := by
  induction count generalizing machine spent with
  | zero => rfl
  | succ count ih =>
      have fromZero := ih machine.step.2 (0 + machine.step.1)
      simp only [costOf, after, steps] at fromZero ⊢
      rw [fromZero, ih]
      simp only [costOf, after, Nat.zero_add, Nat.add_assoc]

@[simp] theorem after_zero (machine : Machine β) : machine.after 0 = machine := rfl

@[simp] theorem costOf_zero (machine : Machine β) : machine.costOf 0 = 0 := rfl

theorem after_succ (machine : Machine β) (count : Nat) :
    machine.after (count + 1) = machine.step.2.after count := by
  change (machine.step.2.steps count (0 + machine.step.1)).2 = _
  rw [steps_eq]

/-- A run goes on where a shorter one ends. -/
theorem after_add (machine : Machine β) (first second : Nat) :
    machine.after (first + second) = (machine.after first).after second := by
  induction first generalizing machine with
  | zero => rw [Nat.zero_add, after_zero]
  | succ first ih => rw [Nat.succ_add, after_succ, after_succ, ih]

/-- The last step of a run may be set apart as well as the first. -/
theorem after_step (machine : Machine β) (count : Nat) :
    machine.after (count + 1) = (machine.after count).step.2 := by
  rw [after_add]
  rfl

theorem costOf_succ (machine : Machine β) (count : Nat) :
    machine.costOf (count + 1) = machine.step.1 + machine.step.2.costOf count := by
  change (machine.step.2.steps count (0 + machine.step.1)).1 = _
  rw [steps_eq, Nat.zero_add]

/-- Steps of one cost that lead from a set of machines back to it add up to a multiple. -/
theorem costOf_of_steady {Steady : Machine β → Prop} {cost : Nat}
    (steps : ∀ machine, Steady machine → machine.step.1 = cost ∧ Steady machine.step.2)
    {machine : Machine β} (steady : Steady machine) (count : Nat) :
    machine.costOf count = cost * count := by
  induction count generalizing machine with
  | zero => rfl
  | succ count ih =>
      obtain ⟨first, rest⟩ := steps machine steady
      rw [costOf_succ, first, ih rest, Nat.mul_succ, Nat.add_comm]

theorem four_mul_le_costOf (machine : Machine β) (count : Nat) :
    4 * count ≤ machine.costOf count := by
  induction count generalizing machine with
  | zero => exact Nat.le_refl _
  | succ count ih =>
      have first := machine.four_le_step_cost
      have rest := ih machine.step.2
      rw [costOf_succ]
      omega

/-- The cycle count grows by exactly what a run costs. -/
theorem cycles_after (machine : Machine β) (count : Nat) :
    (machine.after count).cpu.cycles =
      machine.cpu.cycles + UInt64.ofNat (machine.costOf count) := by
  induction count generalizing machine with
  | zero => simp
  | succ count ih =>
      rw [after_succ, ih, cycles_step, costOf_succ, UInt64.ofNat_add, UInt64.add_assoc]

/-! ## Until a budget is spent -/

/-- The number of steps until at least `budget` clock states are spent. -/
def stepsToSpend (budget spent : Nat) (machine : Machine β) : Nat :=
  if spent < budget then
    stepsToSpend budget (spent + machine.step.1) machine.step.2 + 1
  else 0
termination_by budget - spent
decreasing_by
  have := machine.four_le_step_cost
  omega

theorem stepsToSpend_of_lt {budget spent : Nat} (machine : Machine β) (left : spent < budget) :
    machine.stepsToSpend budget spent =
      machine.step.2.stepsToSpend budget (spent + machine.step.1) + 1 := by
  rw [stepsToSpend, if_pos left]

theorem stepsToSpend_of_le {budget spent : Nat} (machine : Machine β) (done : budget ≤ spent) :
    machine.stepsToSpend budget spent = 0 := by
  rw [stepsToSpend, if_neg (Nat.not_lt.mpr done)]

/--
Step until at least `budget` clock states are spent, starting from `spent`.
The last instruction is not cut short, so the result may be above the budget.
-/
def spend (budget spent : Nat) (machine : Machine β) : Nat × Machine β :=
  if spent < budget then
    let result := machine.step
    spend budget (spent + result.1) result.2
  else (spent, machine)
termination_by budget - spent
decreasing_by
  have := machine.four_le_step_cost
  omega

theorem spend_of_lt {budget spent : Nat} (machine : Machine β) (left : spent < budget) :
    machine.spend budget spent = machine.step.2.spend budget (spent + machine.step.1) := by
  rw [spend, if_pos left]

theorem spend_of_le {budget spent : Nat} (machine : Machine β) (done : budget ≤ spent) :
    machine.spend budget spent = (spent, machine) := by
  rw [spend, if_neg (Nat.not_lt.mpr done)]

/-- What every step preserves is preserved while a budget is spent. -/
theorem spend_preserves (Invariant : Machine β → Prop)
    (preserved : ∀ machine, Invariant machine → Invariant machine.step.2)
    {machine : Machine β} (holds : Invariant machine) (budget spent : Nat) :
    Invariant (machine.spend budget spent).2 := by
  induction spent, machine using @stepsToSpend.induct β _ budget with
  | case1 spent machine left ih =>
      rw [spend_of_lt machine left]
      exact ih (preserved machine holds)
  | case2 spent machine done =>
      rw [spend_of_le machine (Nat.not_lt.mp done)]
      exact holds

/-- Spending begins with every run whose longest course is within the budget. -/
theorem spend_eq_spend_after (machine : Machine β) {budget spent count : Nat}
    (room : spent + 18 * count ≤ budget) :
    machine.spend budget spent =
      (machine.after count).spend budget (spent + machine.costOf count) := by
  induction count generalizing machine spent with
  | zero => rfl
  | succ count ih =>
      have longest := machine.step_cost_le
      rw [spend_of_lt machine (by omega), ih machine.step.2 (by omega), after_succ, costOf_succ,
        Nat.add_assoc]

/-- A halted machine without a vector to accept changes nothing but its cycle count. -/
theorem spend_of_halted {machine : Machine β} (quiet : machine.cpu.serviceable = none)
    (halted : machine.cpu.halted = true) (budget spent : Nat) :
    ∃ cycles, (machine.spend budget spent).2 = machine.mapCpu fun cpu => { cpu with cycles } := by
  refine spend_preserves (fun other : Machine β =>
    ∃ cycles, other = machine.mapCpu fun cpu => { cpu with cycles }) ?_ ⟨_, rfl⟩ budget spent
  rintro _ ⟨cycles, rfl⟩
  have still : (machine.mapCpu fun cpu => { cpu with cycles }).cpu.serviceable = none := quiet
  exact ⟨_, congrArg Prod.snd (step_of_halted still halted)⟩

theorem bus_spend_of_halted {machine : Machine β} (quiet : machine.cpu.serviceable = none)
    (halted : machine.cpu.halted = true) (budget spent : Nat) :
    (machine.spend budget spent).2.bus = machine.bus := by
  obtain ⟨cycles, idle⟩ := spend_of_halted quiet halted budget spent
  rw [idle]
  rfl

/-- Spending a budget is a run of so many steps. -/
theorem spend_eq_steps (machine : Machine β) (budget spent : Nat) :
    machine.spend budget spent = machine.steps (machine.stepsToSpend budget spent) spent := by
  induction spent, machine using @stepsToSpend.induct β _ budget with
  | case1 spent machine left ih =>
      rw [spend_of_lt machine left, stepsToSpend_of_lt machine left]
      exact ih
  | case2 spent machine done =>
      rw [spend_of_le machine (Nat.not_lt.mp done), stepsToSpend_of_le machine (Nat.not_lt.mp done)]
      rfl

theorem spend_eq (machine : Machine β) (budget spent : Nat) :
    machine.spend budget spent =
      (spent + machine.costOf (machine.stepsToSpend budget spent),
        machine.after (machine.stepsToSpend budget spent)) := by
  rw [spend_eq_steps, steps_eq]

/-- The steps of a run reach the budget. -/
theorem budget_le_cost (machine : Machine β) (budget spent : Nat) :
    budget ≤ spent + machine.costOf (machine.stepsToSpend budget spent) := by
  induction spent, machine using @stepsToSpend.induct β _ budget with
  | case1 spent machine left ih =>
      rw [stepsToSpend_of_lt machine left, costOf_succ]
      omega
  | case2 spent machine done =>
      exact Nat.le_trans (Nat.not_lt.mp done) (Nat.le_add_right _ _)

/-- No smaller number of steps reaches it. -/
theorem cost_lt_budget (machine : Machine β) (budget spent : Nat) {count : Nat}
    (fewer : count < machine.stepsToSpend budget spent) :
    spent + machine.costOf count < budget := by
  induction spent, machine using @stepsToSpend.induct β _ budget generalizing count with
  | case1 spent machine left ih =>
      cases count with
      | zero => exact left
      | succ count =>
          rw [stepsToSpend_of_lt machine left] at fewer
          have rest := ih (Nat.lt_of_succ_lt_succ fewer)
          rw [costOf_succ]
          omega
  | case2 spent machine done =>
      rw [stepsToSpend_of_le machine (Nat.not_lt.mp done)] at fewer
      exact absurd fewer (Nat.not_lt_zero _)

/-- The last step goes beyond the budget by less than one longest step. -/
theorem cost_le_budget_add (machine : Machine β) {budget spent : Nat} (left : spent < budget) :
    spent + machine.costOf (machine.stepsToSpend budget spent) ≤ budget + 17 := by
  induction spent, machine using @stepsToSpend.induct β _ budget with
  | case1 spent machine _ ih =>
      rw [stepsToSpend_of_lt machine left, costOf_succ]
      have longest := machine.step_cost_le
      by_cases more : spent + machine.step.1 < budget
      · have rest := ih more
        omega
      · rw [stepsToSpend_of_le _ (Nat.not_lt.mp more), costOf_zero]
        omega
  | case2 spent machine done => exact absurd left done

/-- At four clock states a step, a quarter of the budget bounds the number of steps. -/
theorem stepsToSpend_le (machine : Machine β) (budget : Nat) :
    machine.stepsToSpend budget 0 ≤ (budget + 3) / 4 := by
  cases count : machine.stepsToSpend budget 0 with
  | zero => exact Nat.zero_le _
  | succ fewer =>
      have unreached := machine.cost_lt_budget budget 0
        (count ▸ Nat.lt_succ_self fewer : fewer < machine.stepsToSpend budget 0)
      have least := machine.four_mul_le_costOf fewer
      omega

theorem stepsToSpend_pos (machine : Machine β) {budget : Nat} (some : 0 < budget) :
    0 < machine.stepsToSpend budget 0 := by
  rw [stepsToSpend_of_lt machine some]
  exact Nat.succ_pos _

end Machine

end Cabinet
