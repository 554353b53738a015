import Cabinet.Proofs.Machine.Lockstep

/-!
# Replaying a run

What a machine received in a run can be written into a script, port by port. A
machine on memory alone that reads its ports from this script repeats the run.
-/

namespace Cabinet

namespace ScriptedBus

/-- The bytes that a record has for a port, in order. -/
def bytesOf (port : UInt8) (received : List (UInt8 × UInt8)) : List UInt8 :=
  (received.filter fun entry => entry.1 = port).map Prod.snd

/-- The script that has the bytes of a record for each of its ports. -/
def scriptOf (received : List (UInt8 × UInt8)) : List (UInt8 × List UInt8) :=
  received.map fun entry => (entry.1, bytesOf entry.1 received)

/-- Whether a script begins with all that is still to be received. -/
def Serves (script : List (UInt8 × List UInt8)) (rest : List (UInt8 × UInt8)) : Prop :=
  ∀ port, bytesOf port rest ≠ [] → script.lookup port = some (bytesOf port rest)

theorem bytesOf_cons_same (port value : UInt8) (rest : List (UInt8 × UInt8)) :
    bytesOf port ((port, value) :: rest) = value :: bytesOf port rest := by
  simp [bytesOf]

theorem bytesOf_cons_of_ne {port other : UInt8} (apart : other ≠ port) (value : UInt8)
    (rest : List (UInt8 × UInt8)) :
    bytesOf port ((other, value) :: rest) = bytesOf port rest := by
  simp [bytesOf, apart]

theorem lookup_cons_of_ne {key port : UInt8} (apart : key ≠ port) (bytes : List UInt8)
    (script : List (UInt8 × List UInt8)) :
    ((key, bytes) :: script).lookup port = script.lookup port := by
  have other : (port == key) = false := beq_eq_false_iff_ne.mpr apart.symm
  rw [List.lookup_cons, other]

/-- A script made port by port has an entry for every port of the record. -/
theorem lookup_map (entries : List (UInt8 × UInt8)) (bytes : UInt8 → List UInt8) {port : UInt8}
    (some : bytesOf port entries ≠ []) :
    (entries.map fun entry => (entry.1, bytes entry.1)).lookup port = .some (bytes port) := by
  induction entries with
  | nil => exact absurd rfl some
  | cons entry entries ih =>
      obtain ⟨other, value⟩ := entry
      rw [List.map_cons]
      by_cases same : other = port
      · subst same
        exact List.lookup_cons_self
      · rw [bytesOf_cons_of_ne same] at some
        rw [lookup_cons_of_ne same, ih some]

theorem serves_scriptOf (received : List (UInt8 × UInt8)) :
    Serves (scriptOf received) received := by
  intro port some
  exact lookup_map received (fun port => bytesOf port received) some

/-! ## One byte -/

theorem nextByte_fst (value : UInt8) (rest : List UInt8) :
    (nextByte (value :: rest)).1 = value := by
  cases rest <;> rfl

theorem nextByte_snd (value : UInt8) {rest : List UInt8} (some : rest ≠ []) :
    (nextByte (value :: rest)).2 = rest := by
  cases rest with
  | nil => exact absurd rfl some
  | cons next rest => rfl

theorem take_cons_same (port : UInt8) (values : List UInt8)
    (script : List (UInt8 × List UInt8)) :
    take port ((port, values) :: script) =
      ((nextByte values).1, (port, (nextByte values).2) :: script) := by
  rw [take, if_pos rfl]

theorem take_cons_of_ne {key port : UInt8} (apart : key ≠ port) (values : List UInt8)
    (script : List (UInt8 × List UInt8)) :
    take port ((key, values) :: script) =
      ((take port script).1, (key, values) :: (take port script).2) := by
  rw [take, if_neg apart]

/-- Taking a byte from a port shortens the list of this port. -/
theorem take_of_lookup {script : List (UInt8 × List UInt8)} {port : UInt8} {values : List UInt8}
    (found : script.lookup port = some values) :
    (take port script).1 = (nextByte values).1 ∧
      (take port script).2.lookup port = some (nextByte values).2 := by
  induction script with
  | nil => cases found
  | cons entry script ih =>
      obtain ⟨key, bytes⟩ := entry
      by_cases same : key = port
      · subst same
        rw [List.lookup_cons_self] at found
        cases found
        rw [take_cons_same]
        exact ⟨rfl, List.lookup_cons_self⟩
      · rw [lookup_cons_of_ne same] at found
        rw [take_cons_of_ne same, lookup_cons_of_ne same]
        exact ih found

/-- It leaves the lists of the other ports. -/
theorem lookup_take_of_ne {port other : UInt8} (apart : port ≠ other)
    (script : List (UInt8 × List UInt8)) :
    (take port script).2.lookup other = script.lookup other := by
  induction script with
  | nil => rfl
  | cons entry script ih =>
      obtain ⟨key, bytes⟩ := entry
      by_cases same : key = port
      · subst same
        rw [take_cons_same, lookup_cons_of_ne apart, lookup_cons_of_ne apart]
      · rw [take_cons_of_ne same, List.lookup_cons, List.lookup_cons, ih]

/-- A script that serves a record gives its first byte and then serves the rest. -/
theorem Serves.next {script : List (UInt8 × List UInt8)} {port value : UInt8}
    {rest : List (UInt8 × UInt8)} (serves : Serves script ((port, value) :: rest)) :
    (take port script).1 = value ∧ Serves (take port script).2 rest := by
  have found := serves port
  rw [bytesOf_cons_same] at found
  obtain ⟨byte, shorter⟩ := take_of_lookup (found (List.cons_ne_nil _ _))
  refine ⟨byte.trans (nextByte_fst value _), ?_⟩
  intro other some
  by_cases same : port = other
  · subst same
    rw [shorter, nextByte_snd value some]
  · have before := serves other
    rw [bytesOf_cons_of_ne same] at before
    rw [lookup_take_of_ne same, before some]

end ScriptedBus

namespace Watched

variable {β : Type} [Bus β] [Bus.OverMemory β]

/-- Alike buses of which the second has a script for the rest of what the first is to receive. -/
structure Replays (all : List (UInt8 × UInt8)) (first : Watched β)
    (second : Watched ScriptedBus) : Prop extends Same first second where
  serves : ∃ rest, all = first.received ++ rest ∧ ScriptedBus.Serves second.bus.script rest

theorem replays_simulation (all : List (UInt8 × UInt8)) :
    Bus.MemorySimulation (Replays all : Watched β → Watched ScriptedBus → Prop) where
  read replays address := same_simulation.read replays.toSame address
  write replays address value :=
    { same_simulation.write replays.toSame address value with serves := replays.serves }
  output replays port value :=
    { same_simulation.output replays.toSame port value with serves := replays.serves }

end Watched

namespace Machine

variable {β : Type} [Bus β] [Bus.OverMemory β] {all : List (UInt8 × UInt8)}

section

variable {first : Machine (Watched β)} {second : Machine (Watched ScriptedBus)}

/-- The next byte of the record is the one that the script gives. -/
theorem Alike.perform_input_replays (alike : Alike (Watched.Replays all) first second)
    (recorded : (first.perform .input).bus.received <+: all) :
    Alike (Watched.Replays all) (first.perform .input) (second.perform .input) := by
  obtain ⟨rest, whole, serves⟩ := alike.bus.serves
  obtain ⟨later, shorter⟩ := recorded
  rw [received_perform_input, whole, List.append_assoc, List.append_cancel_left_eq] at shorter
  -- What is received now is the first of what was still to be received.
  rw [← shorter] at serves
  obtain ⟨byte, left⟩ := serves.next
  have port : first.read (first.cpu.pc + 1) = second.read (second.cpu.pc + 1) :=
    alike.read (Watched.replays_simulation all) (congrArg (fun cpu => cpu.pc + 1) alike.cpu)
  rw [port] at byte left
  have same : Alike Watched.Same first second := ⟨alike.cpu, alike.bus.toSame⟩
  have next := same.perform_input_same byte.symm
  refine ⟨next.cpu, { next.bus with serves := ⟨later, ?_, left⟩ }⟩
  rw [received_perform_input, whole, ← shorter, List.append_assoc]

theorem Alike.step_replays (alike : Alike (Watched.Replays all) first second)
    (recorded : first.step.2.bus.received <+: all) :
    Alike (Watched.Replays all) first.step.2 second.step.2 := by
  refine alike.step_of_takes (Watched.replays_simulation all) ?_
  intro quiet running current
  rw [step_of_running quiet running, current, tick_bus] at recorded
  exact alike.perform_input_replays recorded

theorem Alike.follow_replays (alike : Alike (Watched.Replays all) first second)
    (events : List Event) (recorded : (first.follow events).bus.received <+: all) :
    Alike (Watched.Replays all) (first.follow events) (second.follow events) := by
  apply alike.follow_of_step
  intro past leads met
  exact met.step_replays ((first.received_step_isPrefix leads).trans recorded)

end

/-- The same processor over the same memory, with a script of all that a run receives. -/
def replay (machine : Machine β) (events : List Event) : Machine ScriptedBus :=
  ⟨machine.cpu,
    { memory := machine.memory, script := ScriptedBus.scriptOf (machine.received events) }⟩

/-- The script gives what the machine received. -/
theorem received_replay (machine : Machine β) (events : List Event) :
    (machine.replay events).received events = machine.received events := by
  have start : Alike (Watched.Replays (machine.received events)) machine.watched
      (machine.replay events).watched :=
    { cpu := rfl
      bus :=
        { memory := rfl
          received := rfl
          sent := rfl
          serves := ⟨_, rfl, ScriptedBus.serves_scriptOf _⟩ } }
  exact (start.follow_replays events (List.prefix_refl _)).bus.received.symm

end Machine

end Cabinet
