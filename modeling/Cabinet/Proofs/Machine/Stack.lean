import Cabinet.Proofs.Machine.OverMemory
import Cabinet.Proofs.Memory

/-!
# The stack

Words are put on the stack and taken from it. The stack lies just below an
address that may be any, so it may go past address 0 to the last one, and it may
fill all of memory. As long as it is not deeper than that, every word that is
taken is the one that was put there by the matching operation, whatever was put
and taken in between.
-/

namespace Cabinet

namespace Memory

/-- An address among the `count` addresses just below another one. -/
def Below (top : UInt16) (count : Nat) (address : UInt16) : Prop :=
  InBlock (top - UInt16.ofNat count) count address

instance (top : UInt16) (count : Nat) (address : UInt16) : Decidable (Below top count address) :=
  inferInstanceAs (Decidable (∃ index < count, address = _))

variable {top address : UInt16} {first second count : Nat}

/-- What is below is so at a distance. -/
theorem below_iff : Below top count address ↔
    ∃ distance, 0 < distance ∧ distance ≤ count ∧ address = top - UInt16.ofNat distance := by
  have place {index : Nat} (inside : index ≤ count) :
      top - UInt16.ofNat count + UInt16.ofNat index = top - UInt16.ofNat (count - index) := by
    obtain ⟨rest, rfl⟩ := Nat.exists_eq_add_of_le inside
    rw [Nat.add_sub_cancel_left, UInt16.ofNat_add]
    grind
  constructor
  · rintro ⟨index, inside, rfl⟩
    exact ⟨count - index, by omega, by omega, place (Nat.le_of_lt inside)⟩
  · rintro ⟨distance, some, inside, rfl⟩
    refine ⟨count - distance, by omega, ?_⟩
    rw [place (Nat.sub_le _ _), Nat.sub_sub_self inside]

theorem Below.mono (within : first ≤ second) (below : Below top first address) :
    Below top second address := by
  obtain ⟨distance, some, inside, rfl⟩ := below_iff.mp below
  exact below_iff.mpr ⟨distance, some, Nat.le_trans inside within, rfl⟩

/-- What is below an address further down is below this one. -/
theorem Below.deeper {further : Nat} (below : Below (top - UInt16.ofNat further) count address) :
    Below top (further + count) address := by
  obtain ⟨distance, some, inside, rfl⟩ := below_iff.mp below
  refine below_iff.mpr ⟨further + distance, by omega, by omega, ?_⟩
  rw [UInt16.ofNat_add]
  grind

/-- What is at an address or behind it is not below it, up to where memory ends. -/
theorem not_below_of_add (top : UInt16) (index : Nat) (fits : count + index < 65536) :
    ¬ Below top count (top + UInt16.ofNat index) := by
  rintro below
  obtain ⟨distance, some, inside, same⟩ := below_iff.mp below
  have returned : UInt16.ofNat (index + distance) = 0 := by
    rw [UInt16.ofNat_add]
    grind
  rw [← UInt16.toNat_inj, UInt16.toNat_ofNat', Nat.mod_eq_of_lt (by omega)] at returned
  change index + distance = 0 at returned
  omega

/-- Words one after the other, each with its low byte first. -/
def words (memory : Memory) (start : UInt16) : Nat → List UInt16
  | 0 => []
  | count + 1 => memory.readWord start :: memory.words (start + 2) count

/-- Words are made of the bytes of their block. -/
theorem words_congr {one other : Memory} {start : UInt16}
    (same : ∀ address, InBlock start (2 * count) address → one.read address = other.read address) :
    one.words start count = other.words start count := by
  induction count generalizing start with
  | zero => rfl
  | succ count ih =>
      have low := same start (inBlock_succ_iff.mpr (.inl rfl))
      have high := same (start + 1)
        (inBlock_succ_iff.mpr (.inr (inBlock_succ_iff.mpr (.inl rfl))))
      rw [words, words, readWord, readWord, low, high, ih]
      intro address inside
      apply same
      refine inBlock_succ_iff.mpr (.inr (inBlock_succ_iff.mpr (.inr ?_)))
      rwa [UInt16.add_assoc]

end Memory

namespace Machine

open Cpu
open Memory (Below)

/-! ## Operations -/

inductive StackOp where
  | push (word : UInt16)
  | pop
deriving DecidableEq

/--
Sequences in which every word that is put on the stack is taken from it again: the words that
are taken, in order, and the largest number of words on the stack at a time. The word that an
operation takes is the one that the matching operation before has put.
-/
inductive Nested : List StackOp → List UInt16 → Nat → Prop where
  | none : Nested [] [] 0
  | around {inner rest : List StackOp} {within behind : List UInt16} {depth other : Nat}
      (word : UInt16) (inside : Nested inner within depth) (after : Nested rest behind other) :
      Nested (.push word :: (inner ++ .pop :: rest)) (within ++ word :: behind)
        (max (depth + 1) other)

variable {β : Type} [Bus β]

/-- The words that operations take from the stack, in order, and the machine behind them. -/
def operate (machine : Machine β) : List StackOp → List UInt16 × Machine β
  | [] => ([], machine)
  | .push word :: ops => (machine.push word).operate ops
  | .pop :: ops =>
      let (words, last) := machine.pop.2.operate ops
      (machine.pop.1 :: words, last)

theorem operate_append (machine : Machine β) (first second : List StackOp) :
    machine.operate (first ++ second) =
      ((machine.operate first).1 ++ ((machine.operate first).2.operate second).1,
        ((machine.operate first).2.operate second).2) := by
  induction first generalizing machine with
  | nil => rfl
  | cons op first ih =>
      cases op with
      | push word => exact ih (machine.push word)
      | pop =>
          simp only [List.cons_append, operate, ih machine.pop.2]

/-- One word is taken for each operation that takes one. -/
theorem length_operate (machine : Machine β) (ops : List StackOp) :
    (machine.operate ops).1.length = ops.count .pop := by
  induction ops generalizing machine with
  | nil => rfl
  | cons op ops ih =>
      cases op with
      | push word => simpa [operate] using ih (machine.push word)
      | pop => simpa [operate] using ih machine.pop.2

variable [Bus.OverMemory β]

/-! ## Words on the stack -/

/-- The topmost words on the stack. -/
def topWords (machine : Machine β) (count : Nat) : List UInt16 :=
  machine.memory.words machine.cpu.sp count

theorem readWord_eq (machine : Machine β) (address : UInt16) :
    machine.readWord address = machine.memory.readWord address := by
  rw [readWord, read_eq, read_eq]
  rfl

/-- Putting a word on the stack changes nothing but two bytes below the stack pointer. -/
theorem read_push_outside (machine : Machine β) (word : UInt16) {count : Nat} {address : UInt16}
    (some : 2 ≤ count) (outside : ¬ Below machine.cpu.sp count address) :
    (machine.push word).read address = machine.read address := by
  apply read_push_of_ne
  · rintro rfl
    exact outside (Memory.below_iff.mpr ⟨1, by omega, by omega, rfl⟩)
  · rintro rfl
    exact outside (Memory.below_iff.mpr ⟨2, by omega, by omega, rfl⟩)

/-- A word that is put on the stack goes on top of those that are there. -/
theorem topWords_push (machine : Machine β) (word : UInt16) {count : Nat} (room : count < 32768) :
    (machine.push word).topWords (count + 1) = word :: machine.topWords count := by
  have sp : (machine.push word).cpu.sp = machine.cpu.sp - 2 := rfl
  rw [topWords, sp, Memory.words, ← readWord_eq, readWord_push, UInt16.sub_add_cancel, topWords]
  congr 1
  apply Memory.words_congr
  rintro address ⟨index, inside, rfl⟩
  rw [← read_eq, ← read_eq]
  exact machine.read_push_outside word (Nat.le_refl 2)
    (Memory.not_below_of_add _ index (by omega))

/-! ## What operations leave -/

/-- The words are taken, the processor is as before, and so is memory but for some bytes below. -/
structure Unwound (machine : Machine β) (ops : List StackOp) (words : List UInt16)
    (depth : Nat) : Prop where
  words : (machine.operate ops).1 = words
  cpu : (machine.operate ops).2.cpu = machine.cpu
  outside : ∀ address, ¬ Below machine.cpu.sp (2 * depth) address →
    (machine.operate ops).2.memory.read address = machine.memory.read address

theorem unwound_none (machine : Machine β) : machine.Unwound [] [] 0 where
  words := rfl
  cpu := rfl
  outside := by
    intro address _
    rfl

/-- A word is taken as it was put if nothing but bytes below it has changed since. -/
theorem readWord_of_push {machine other : Machine β} {word : UInt16} {depth : Nat}
    (room : depth < 32768)
    (kept : ∀ address, ¬ Below (machine.cpu.sp - 2) (2 * depth) address →
      other.read address = (machine.push word).read address) :
    other.readWord (machine.cpu.sp - 2) = word := by
  have fits : 2 * depth + 1 < 65536 := by
    omega
  have low := Memory.not_below_of_add (machine.cpu.sp - 2) 0 (Nat.lt_of_succ_lt fits)
  have high := Memory.not_below_of_add (machine.cpu.sp - 2) 1 fits
  rw [Memory.add_ofNat_zero] at low
  rw [readWord, kept _ low, kept (machine.cpu.sp - 2 + 1) high]
  exact machine.readWord_push word

/-- What is put before a sequence and taken behind it makes a longer one. -/
theorem Unwound.around {machine : Machine β} {word : UInt16} {inner rest : List StackOp}
    {within behind : List UInt16} {depth other : Nat} (room : depth < 32768)
    (inside : (machine.push word).Unwound inner within depth)
    (after : ∀ popped : Machine β, popped.Unwound rest behind other) :
    machine.Unwound (.push word :: (inner ++ .pop :: rest)) (within ++ word :: behind)
      (max (depth + 1) other) := by
  obtain ⟨words, cpu, outside⟩ := inside
  have split := operate_append (machine.push word) inner (.pop :: rest)
  generalize ((machine.push word).operate inner).2 = filled at split cpu outside
  have taken : filled.pop.1 = word := by
    have pushed : (machine.push word).cpu.sp = machine.cpu.sp - 2 := rfl
    rw [pop, cpu, pushed]
    apply readWord_of_push room
    intro address free
    rw [read_eq, read_eq]
    exact outside address free
  have restored : filled.pop.2.cpu = machine.cpu := by
    change { filled.cpu with sp := filled.cpu.sp + 2 } = machine.cpu
    rw [cpu]
    change { machine.cpu with sp := machine.cpu.sp - 2 + 2 } = machine.cpu
    rw [UInt16.sub_add_cancel]
  obtain ⟨others, last, beyond⟩ := after filled.pop.2
  constructor
  case words =>
    rw [operate, split]
    simp only [operate, words, taken, others]
  case cpu =>
    rw [operate, split]
    exact last.trans restored
  case outside =>
    intro address free
    -- What lies between the two operations counts from a pointer two bytes further down.
    have freeAround : ¬ Below machine.cpu.sp (2 + 2 * depth) address := fun below =>
      free (below.mono (by omega))
    have freeBehind : ¬ Below machine.cpu.sp (2 * other) address := fun below =>
      free (below.mono (by omega))
    have pushed := machine.read_push_outside word (Nat.le_add_right _ _) freeAround
    rw [read_eq, read_eq] at pushed
    rw [restored] at beyond
    rw [operate, split]
    exact (beyond address freeBehind).trans
      ((outside address fun below => freeAround below.deeper).trans pushed)

/-- By induction on the nesting. -/
theorem Nested.unwound {ops : List StackOp} {words : List UInt16} {depth : Nat}
    (nested : Nested ops words depth) (bound : depth ≤ 32768) (machine : Machine β) :
    machine.Unwound ops words depth := by
  induction nested generalizing machine with
  | none => exact machine.unwound_none
  | around word inside after insideUnwound afterUnwound =>
      have room := Nat.le_trans (Nat.le_max_left _ _) bound
      have rest := Nat.le_trans (Nat.le_max_right _ _) bound
      exact Unwound.around room (insideUnwound (Nat.le_of_succ_le room) _) (afterUnwound rest)

/-- Words that are put in a row are taken in reverse. -/
theorem nested_reverse (words : List UInt16) :
    Nested (words.map .push ++ List.replicate words.length .pop) words.reverse words.length := by
  induction words with
  | nil => exact .none
  | cons word words ih =>
      have around := Nested.around word ih .none
      rw [List.map_cons, List.length_cons, List.replicate_succ', List.reverse_cons,
        List.cons_append, ← List.append_assoc]
      exact around

/--
What the stack does on one machine. Words that are put one after the other come back in
reverse, up to a full memory of them, and so do the words of any nested sequence. In any
sequence at all, an operation that takes a word gets that of the matching one.
-/
structure StackDiscipline (machine : Machine β) : Prop where
  reversed : ∀ words : List UInt16, words.length ≤ 32768 →
    machine.Unwound (words.map .push ++ List.replicate words.length .pop) words.reverse
      words.length
  nested : ∀ ops words depth, Nested ops words depth → depth ≤ 32768 →
    machine.Unwound ops words depth
  matching : ∀ before word inner within depth rest, Nested inner within depth → depth < 32768 →
    (machine.operate (before ++ .push word :: (inner ++ .pop :: rest))).1[
      (before ++ inner).count .pop]? = some word

/-- Every word that is taken is the one that the matching operation has put there. -/
theorem stack_discipline (machine : Machine β) : machine.StackDiscipline where
  reversed := by
    intro words bound
    exact (nested_reverse words).unwound bound machine
  nested := by
    intro ops words depth nested bound
    exact nested.unwound bound machine
  matching := by
    intro before word inner within depth rest nested room
    have around := Nested.around word nested .none
    have unwound := around.unwound (by omega) (machine.operate before).2
    have pops : within.length = inner.count .pop := by
      have length := ((machine.operate before).2).length_operate inner
      rwa [(nested.unwound (Nat.le_of_lt room) _).words] at length
    have ops : before ++ .push word :: (inner ++ .pop :: rest) =
        before ++ (.push word :: (inner ++ .pop :: []) ++ rest) := by
      simp only [List.cons_append, List.append_assoc, List.nil_append]
    rw [ops, operate_append, operate_append, unwound.words, List.count_append, ← pops,
      ← machine.length_operate before]
    simp

/-- Below address 1 the first word already goes past address 0 to the last address. -/
theorem stack_discipline_wrapped :
    let machine : Machine Memory := ⟨{ sp := 0x0001 }, Memory.zero⟩
    (machine.operate [.push 0x1234, .push 0xABCD, .pop, .push 0x5678, .pop, .pop]).1 =
      [0xABCD, 0x5678, 0x1234] := by
  intro machine
  have nested := Nested.around 0x1234 (.around 0xABCD .none (.around 0x5678 .none .none)) .none
  exact ((stack_discipline machine).nested _ _ _ nested (by decide)).words

end Machine

end Cabinet
