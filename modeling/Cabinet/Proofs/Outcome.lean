/-!
# Outcomes

How a computation that may fail comes to a result: every part of it does.
-/

namespace Cabinet.Outcome

variable {ε α β : Type}

@[simp] theorem ok_bind (value : α) (next : α → Except ε β) :
    (Except.ok value >>= next) = next value := rfl

@[simp] theorem error_bind (failure : ε) (next : α → Except ε β) :
    ((Except.error failure : Except ε α) >>= next) = .error failure := rfl

theorem ok_mapError {δ : Type} (value : α) (rename : ε → δ) :
    (Except.ok value : Except ε α).mapError rename = .ok value := rfl

theorem mapError_eq_ok_iff {δ : Type} {outcome : Except ε α} {rename : ε → δ} {result : α} :
    outcome.mapError rename = .ok result ↔ outcome = .ok result := by
  cases outcome with
  | error failure => exact ⟨nofun, nofun⟩
  | ok value =>
      rw [ok_mapError, Except.ok.injEq, Except.ok.injEq]

/-- A sequence succeeds if its first part does and what follows does. -/
theorem bind_eq_ok_iff {first : Except ε α} {next : α → Except ε β} {result : β} :
    (first >>= next) = .ok result ↔ ∃ value, first = .ok value ∧ next value = .ok result := by
  cases first with
  | error failure => simp
  | ok value => simp

/-- A check in front of a computation has to succeed as well. -/
theorem check_eq_ok_iff {check : Except ε Unit} {next : Except ε β} {result : β} :
    (check >>= fun _ => next) = .ok result ↔ check = .ok () ∧ next = .ok result := by
  refine bind_eq_ok_iff.trans ?_
  constructor
  · rintro ⟨⟨⟩, checked, rest⟩
    exact ⟨checked, rest⟩
  · rintro ⟨checked, rest⟩
    exact ⟨(), checked, rest⟩

/-- Values are checked one after another by checking each of them. -/
theorem forM_eq_ok_iff {values : List α} {check : α → Except ε Unit} :
    values.forM check = .ok () ↔ ∀ value ∈ values, check value = .ok () := by
  induction values with
  | nil => exact iff_of_true rfl nofun
  | cons value values ih =>
      rw [List.forall_mem_cons, ← ih]
      exact check_eq_ok_iff

/-- The same failure twice, or results that are related. -/
inductive Matches {γ : Type} (Related : α → γ → Prop) : Except ε α → Except ε γ → Prop where
  | ok {value : α} {other : γ} (related : Related value other) :
      Matches Related (.ok value) (.ok other)
  | error (failure : ε) : Matches Related (.error failure) (.error failure)

theorem Matches.mono {γ : Type} {Related After : α → γ → Prop} {first : Except ε α}
    {second : Except ε γ} (here : Matches Related first second)
    (implies : ∀ {value other}, Related value other → After value other) :
    Matches After first second := by
  cases here with
  | ok related => exact .ok (implies related)
  | error failure => exact .error failure

theorem Matches.map {γ δ : Type} {Related : α → γ → Prop} {After : β → δ → Prop}
    {first : Except ε α} {second : Except ε γ} {change : α → β} {other : γ → δ}
    (here : Matches Related first second)
    (later : ∀ {value result}, Related value result → After (change value) (other result)) :
    Matches After (first.map change) (second.map other) := by
  cases here with
  | ok related => exact .ok (later related)
  | error failure => exact .error failure

theorem Matches.bind {γ δ : Type} {Related : α → γ → Prop} {After : β → δ → Prop}
    {first : Except ε α} {second : Except ε γ} {next : α → Except ε β} {other : γ → Except ε δ}
    (here : Matches Related first second)
    (later : ∀ {value result}, Related value result → Matches After (next value) (other result)) :
    Matches After (first >>= next) (second >>= other) := by
  cases here with
  | ok related => exact later related
  | error failure => exact .error failure

/-! ## Loops that may stop -/

/-- Steps that agree on the values gone through lead to the same outcome. -/
theorem foldlM_congr {first second : β → α → Except ε β} {values : List α}
    (same : ∀ value ∈ values, ∀ start, first start value = second start value) (start : β) :
    values.foldlM first start = values.foldlM second start := by
  induction values generalizing start with
  | nil => rfl
  | cons value values ih =>
      obtain ⟨here, later⟩ := List.forall_mem_cons.mp same
      rw [List.foldlM_cons, List.foldlM_cons, here]
      exact congrArg (second start value >>= ·) (funext (ih later))

/-- A loop stops at the first value that stops it, if an invariant leads it there. -/
theorem foldlM_stops {step : β → α → Except ε β} {invariant : β → Prop} {before : List α}
    {last : α} {failure : ε}
    (goesOn : ∀ value ∈ before, ∀ start, invariant start →
      ∃ next, step start value = .ok next ∧ invariant next)
    (stops : ∀ start, step start last = .error failure) (after : List α) {start : β}
    (holds : invariant start) :
    (before ++ last :: after).foldlM step start = .error failure := by
  induction before generalizing start with
  | nil =>
      rw [List.nil_append, List.foldlM_cons, stops]
      rfl
  | cons value before ih =>
      obtain ⟨here, later⟩ := List.forall_mem_cons.mp goesOn
      obtain ⟨next, steps, still⟩ := here start holds
      rw [List.cons_append, List.foldlM_cons, steps]
      exact ih later still

end Cabinet.Outcome
