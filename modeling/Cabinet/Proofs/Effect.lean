import Cabinet.Effect
import Cabinet.Proofs.Outcome

/-!
# What operations say and how they end

Checked arithmetic has a result exactly if the exact result is a number of its type.
An operation that tells notes is described by these notes and by its outcome, neither of
which depends on who listens. Operations in a row tell their notes one after another, up
to the first that ends in a panic.
-/

namespace Cabinet

open Log

/-! ## Checked arithmetic -/

namespace Checked

theorem narrow_eq {panic : Panic} {wide : UInt64} {exact : Nat} (same : wide.toNat = exact) :
    narrow panic wide =
      if exact < UInt32.size then .ok (UInt32.ofNat exact) else .error panic := by
  have narrowed : wide.toUInt32 = UInt32.ofNat exact := by
    rw [← same]
    exact (UInt32.ofNat_uInt64ToNat wide).symm
  have fits : wide < 4294967296 ↔ exact < UInt32.size := by
    rw [← same]
    exact UInt64.lt_iff_toNat_lt
  unfold narrow
  rw [narrowed]
  simp only [fits]

theorem add_eq (first second : UInt32) :
    add first second =
      if first.toNat + second.toNat < UInt32.size then .ok (first + second)
      else .error .addition := by
  have wide : (first.toUInt64 + second.toUInt64).toNat = first.toNat + second.toNat := by
    have left := first.toNat_lt
    have right := second.toNat_lt
    rw [UInt64.toNat_add, UInt32.toNat_toUInt64, UInt32.toNat_toUInt64, Nat.mod_eq_of_lt (by omega)]
  rw [add, narrow_eq wide, UInt32.ofNat_add, UInt32.ofNat_toNat, UInt32.ofNat_toNat]

theorem mul_eq (first second : UInt32) :
    mul first second =
      if first.toNat * second.toNat < UInt32.size then .ok (first * second)
      else .error .multiplication := by
  have wide : (first.toUInt64 * second.toUInt64).toNat = first.toNat * second.toNat := by
    have below : first.toNat * second.toNat ≤ 4294967295 * 4294967295 :=
      Nat.mul_le_mul (Nat.le_of_lt_succ first.toNat_lt) (Nat.le_of_lt_succ second.toNat_lt)
    rw [UInt64.toNat_mul, UInt32.toNat_toUInt64, UInt32.toNat_toUInt64, Nat.mod_eq_of_lt (by omega)]
  rw [mul, narrow_eq wide, UInt32.ofNat_mul, UInt32.ofNat_toNat, UInt32.ofNat_toNat]

theorem count_eq (counter amount : UInt64) :
    count counter amount =
      if counter.toNat + amount.toNat < UInt64.size then .ok (counter + amount)
      else .error .addition := by
  have grows : counter ≤ counter + amount ↔ counter.toNat + amount.toNat < UInt64.size := by
    have left := counter.toNat_lt
    have right := amount.toNat_lt
    rw [UInt64.le_iff_toNat_le, UInt64.toNat_add, UInt64.size]
    omega
  unfold count
  simp only [grows]

/-- A counter that does not pass its end counts. -/
theorem toNat_add_ofNat {counter : UInt64} {count : Nat}
    (room : counter.toNat + count < UInt64.size) :
    (counter + UInt64.ofNat count).toNat = counter.toNat + count := by
  rw [UInt64.toNat_add, UInt64.toNat_ofNat', Nat.add_mod_mod]
  exact Nat.mod_eq_of_lt room

end Checked

/-! ## Faults -/

namespace Outcome

variable {α β : Type}

/-- A value, unless something is wrong. -/
def unlessFault (fault : Option Panic) (value : α) : Except Panic α :=
  match fault with
  | none => .ok value
  | some panic => .error panic

@[simp] theorem unlessFault_none (value : α) : unlessFault none value = .ok value := rfl

@[simp] theorem unlessFault_some (panic : Panic) (value : α) :
    unlessFault (some panic) value = .error panic := rfl

theorem unlessFault_eq_ok_iff {fault : Option Panic} {value result : α} :
    unlessFault fault value = .ok result ↔ fault = none ∧ result = value := by
  cases fault with
  | none => simp [eq_comm]
  | some panic => simp

theorem unlessFault_bind (fault later : Option Panic) (value : α) (result : β) :
    (unlessFault fault value >>= fun _ => unlessFault later result) =
      unlessFault (fault.or later) result := by
  cases fault with
  | none => rfl
  | some panic => rfl

end Outcome

/-! ## Operations that tell notes -/

theorem run_bind {σ α β : Type} (first : Telling σ α) (next : α → Telling σ β) (listener : σ) :
    (first >>= next) listener =
      ExceptT.bindCont next (first listener).1 (first listener).2 := rfl

section Speaking

open Outcome

variable {σ α β : Type} [Listener σ]

/-- An operation tells these notes and ends in this way, whoever listens. -/
def Speaks (operation : Telling σ α) (notes : List Note) (outcome : Except Panic α) : Prop :=
  ∀ listener, operation listener = (outcome, notes.foldl Listener.hear listener)

namespace Speaks

theorem tell (note : Note) : Speaks (Cabinet.tell note : Telling σ Unit) [note] (.ok ()) :=
  fun _ => rfl

theorem pure (value : α) : Speaks (Pure.pure value : Telling σ α) [] (.ok value) :=
  fun _ => rfl

theorem throw (panic : Panic) :
    Speaks (MonadExcept.throw panic : Telling σ α) [] (.error panic) :=
  fun _ => rfl

/-- What may fail without a word. -/
theorem ofExcept (outcome : Except Panic α) :
    Speaks (liftM outcome : Telling σ α) [] outcome := by
  cases outcome with
  | ok value => exact pure value
  | error panic => exact throw panic

variable {first : Telling σ α} {next : α → Telling σ β} {notes more : List Note}

theorem bind {value : α} {outcome : Except Panic β} (here : Speaks first notes (.ok value))
    (later : Speaks (next value) more outcome) :
    Speaks (first >>= next) (notes ++ more) outcome := by
  intro listener
  rw [run_bind, here listener, List.foldl_append]
  exact later _

theorem stop {panic : Panic} (here : Speaks first notes (.error panic)) :
    Speaks (first >>= next) notes (.error panic) := by
  intro listener
  rw [run_bind, here listener]
  rfl

/-- What begins with a note goes on with the rest. -/
theorem tell_bind {note : Note} {next : Unit → Telling σ β} {outcome : Except Panic β}
    (later : Speaks (next ()) more outcome) :
    Speaks (Cabinet.tell note >>= next) (note :: more) outcome :=
  (tell note).bind later

/-- Notes that are told one after another. -/
theorem told (notes : List Note) : Speaks (notes.forM Cabinet.tell : Telling σ Unit) notes (.ok ()) := by
  induction notes with
  | nil => exact pure ()
  | cons note notes ih => exact tell_bind ih

/-- What is calculated from a result changes nothing that is said. -/
theorem map {fault : Option Panic} {value : α}
    (here : Speaks first notes (unlessFault fault value)) (change : α → β) :
    Speaks (first >>= fun value => Pure.pure (change value)) notes
      (unlessFault fault (change value)) := by
  cases fault with
  | none =>
      intro listener
      rw [run_bind, here listener]
      rfl
  | some panic => exact here.stop

theorem ofExcept_map {result : Except Panic α} {fault : Option Panic} {value : α}
    (same : result = unlessFault fault value) (change : α → β) :
    Speaks (liftM result >>= fun value => Pure.pure (change value) : Telling σ β) []
      (unlessFault fault (change value)) := by
  rw [same]
  exact (ofExcept _).map change

/-- What follows is told only if nothing was wrong before. -/
theorem bind_unless {fault later : Option Panic} {value : α} {result : β}
    (here : Speaks first notes (unlessFault fault value))
    (rest : fault = none → Speaks (next value) more (unlessFault later result)) :
    Speaks (first >>= next) (notes ++ if fault.isNone then more else [])
      (unlessFault (fault.or later) result) := by
  cases fault with
  | none => exact here.bind (rest rfl)
  | some panic =>
      rw [Option.isNone_some, if_neg Bool.false_ne_true, List.append_nil]
      exact here.stop

/-- A silent end that may fail. -/
theorem then_silent {fault later : Option Panic} {value : α} {result : β}
    (here : Speaks first notes (unlessFault fault value))
    (rest : Speaks (next value) [] (unlessFault later result)) :
    Speaks (first >>= next) notes (unlessFault (fault.or later) result) := by
  have both := here.bind_unless fun _ => rest
  rwa [ite_self, List.append_nil] at both

/-- What is told can be worked out by whoever listens. -/
theorem outcome_eq {outcome : Except Panic α} (speaks : Speaks first notes outcome)
    (listener : σ) : (first listener).1 = outcome :=
  congrArg Prod.fst (speaks listener)

end Speaks

end Speaking

end Cabinet
