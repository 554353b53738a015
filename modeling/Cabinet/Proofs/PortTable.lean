import Cabinet.Game
import Cabinet.Proofs.Config.ReadBack

/-!
# Port tables by name

A name stands for the first override that has it, otherwise for the handler that the
registry knows, and otherwise for a stub; input names and output names are apart. The
port table of a game has a handler for each port that the description names, the one that
the name stands for.
-/

namespace Cabinet

/-! ## Names -/

/-- How the names of input ports, or those of output ports, are understood. -/
structure Naming (Handler : Type) where
  overrides : List (String × Handler)
  registry : String → Option Handler
  stub : Handler

namespace Naming

variable {Handler : Type} {naming : Naming Handler}

/-- The handler that a name stands for. -/
inductive StandsFor (naming : Naming Handler) (name : String) : Handler → Prop where
  | overridden {before after : List (String × Handler)} {handler : Handler}
      (listed : naming.overrides = before ++ (name, handler) :: after)
      (first : ∀ entry ∈ before, entry.1 ≠ name) : StandsFor naming name handler
  | registered {handler : Handler} (free : ∀ entry ∈ naming.overrides, entry.1 ≠ name)
      (known : naming.registry name = some handler) : StandsFor naming name handler
  | unknown (free : ∀ entry ∈ naming.overrides, entry.1 ≠ name)
      (unknown : naming.registry name = none) : StandsFor naming name naming.stub

/-- The handler that is found for a name. -/
def handler (naming : Naming Handler) (name : String) : Handler :=
  ((naming.overrides.lookup name).or (naming.registry name)).getD naming.stub

/-- What is found for a name is what it stands for. -/
theorem standsFor_handler (naming : Naming Handler) (name : String) :
    naming.StandsFor name (naming.handler name) := by
  cases found : naming.overrides.lookup name with
  | some handler =>
      obtain ⟨before, after, listed, first⟩ := List.lookup_eq_some_iff.mp found
      rw [Naming.handler, found]
      refine .overridden listed fun entry inside => ?_
      exact (bne_iff_ne.mp (first entry inside)).symm
  | none =>
      have free : ∀ entry ∈ naming.overrides, entry.1 ≠ name := fun entry inside =>
        (bne_iff_ne.mp (List.lookup_eq_none_iff.mp found entry inside)).symm
      rw [Naming.handler, found, Option.none_or]
      cases known : naming.registry name with
      | some handler => exact .registered free known
      | none => exact .unknown free known

/-- A name stands for one handler only. -/
theorem StandsFor.eq_handler {name : String} {handler : Handler}
    (stands : naming.StandsFor name handler) : handler = naming.handler name := by
  have lookup_of_free (free : ∀ entry ∈ naming.overrides, entry.1 ≠ name) :
      naming.overrides.lookup name = none :=
    List.lookup_eq_none_iff.mpr fun entry inside => bne_iff_ne.mpr (free entry inside).symm
  cases stands with
  | overridden listed first =>
      have found : naming.overrides.lookup name = some handler :=
        List.lookup_eq_some_iff.mpr
          ⟨_, _, listed, fun entry inside => bne_iff_ne.mpr (first entry inside).symm⟩
      rw [Naming.handler, found]
      rfl
  | registered free known =>
      rw [Naming.handler, lookup_of_free free, known]
      rfl
  | unknown free unknown =>
      rw [Naming.handler, lookup_of_free free, unknown]
      rfl

/-- Exactly the ports with a name are bound, to what their names stand for. -/
structure Binds (naming : Naming Handler) (wiring : Wiring) (slot : UInt8 → Option Handler) :
    Prop where
  empty : ∀ port, slot port = none ↔ wiring.name? port = none
  bound : ∀ port name, wiring.name? port = some name →
    ∃ handler, slot port = some handler ∧ naming.StandsFor name handler

theorem binds_of_eq {wiring : Wiring} {slot : UInt8 → Option Handler}
    (eq : ∀ port, slot port = (wiring.name? port).map naming.handler) :
    naming.Binds wiring slot where
  empty := by
    intro port
    rw [eq, Option.map_eq_none_iff]
  bound := by
    intro port name named
    refine ⟨naming.handler name, ?_, naming.standsFor_handler name⟩
    rw [eq, named, Option.map_some]

end Naming

/-! ## Tables -/

namespace PortTable

theorem input?_bindInput (table : PortTable) (port other : UInt8) (handler : InHandler) :
    (table.bindInput port handler).input? other =
      if other = port then some handler else table.input? other := by
  simp only [input?, bindInput, Vector.getElem_set, UInt8.toNat_inj, eq_comm]

theorem output?_bindOutput (table : PortTable) (port other : UInt8) (handler : OutHandler) :
    (table.bindOutput port handler).output? other =
      if other = port then some handler else table.output? other := by
  simp only [output?, bindOutput, Vector.getElem_set, UInt8.toNat_inj, eq_comm]

end PortTable

namespace Wiring

section

variable {Handler : Type} {wiring : Wiring} {bind : PortTable → UInt8 → Handler → PortTable}
  {slot : PortTable → UInt8 → Option Handler} {handler : String → Handler}

/-- Bind a handler to each port of a list, one after another. -/
def bindAll (bind : PortTable → UInt8 → Handler → PortTable) (handler : String → Handler)
    (connections : List (UInt8 × String)) (table : PortTable) : PortTable :=
  connections.foldl (fun table (port, name) => bind table port (handler name)) table

/-- Binding the ports of one direction leaves those of the other direction alone. -/
theorem bindAll_kept {Slot : Type} (slot : PortTable → Slot)
    (kept : ∀ table port handler, slot (bind table port handler) = slot table)
    (connections : List (UInt8 × String)) (table : PortTable) :
    slot (bindAll bind handler connections table) = slot table := by
  induction connections generalizing table with
  | nil => rfl
  | cons connection connections ih => exact (ih _).trans (kept ..)

/-- Of ports that are bound to names of a wiring, all others stay as they were. -/
theorem slot_bindAll (slot_bind : ∀ table port other handler, slot (bind table port handler) other =
      if other = port then some handler else slot table other)
    {connections : List (UInt8 × String)}
    (named : ∀ connection ∈ connections, wiring.name? connection.1 = some connection.2)
    (table : PortTable) (port : UInt8) :
    slot (bindAll bind handler connections table) port =
      if port ∈ connections.map Prod.fst then (wiring.name? port).map handler
      else slot table port := by
  induction connections generalizing table with
  | nil => rfl
  | cons connection connections ih =>
      have here := named connection List.mem_cons_self
      have rest := ih (fun other inside => named other (List.mem_cons_of_mem _ inside))
        (bind table connection.1 (handler connection.2))
      refine rest.trans ?_
      rw [slot_bind, List.map_cons]
      -- A port that comes again later is bound again, to the same name.
      by_cases later : port ∈ connections.map Prod.fst
      · rw [if_pos later, if_pos (List.mem_cons_of_mem _ later)]
      · rw [if_neg later]
        by_cases same : port = connection.1
        · rw [if_pos same, if_pos (same ▸ List.mem_cons_self), same, here, Option.map_some]
        · have absent : port ∉ connection.1 :: connections.map Prod.fst := by
            rw [List.mem_cons, not_or]
            exact ⟨same, later⟩
          rw [if_neg same, if_neg absent]

/-- A table without bound ports comes to have those of the wiring. -/
theorem slot_bindAll_toList
    (slot_bind : ∀ table port other handler, slot (bind table port handler) other =
      if other = port then some handler else slot table other)
    {table : PortTable} (port : UInt8) (unbound : slot table port = none) :
    slot (bindAll bind handler wiring.toList table) port = (wiring.name? port).map handler := by
  rw [slot_bindAll slot_bind fun _ listed => mem_toList.mp listed]
  split
  · rfl
  · rename_i absent
    cases name : wiring.name? port with
    | none => exact unbound
    | some name => exact absurd (List.mem_map_of_mem (mem_toList.mpr name)) absent

end

end Wiring

namespace Game

/-- How the names of input ports are understood under a game. -/
def inputNaming (game : Game) : Naming InHandler :=
  ⟨game.overrides.inputs, InHandler.ofName?, .stub⟩

/-- How the names of output ports are understood under a game. -/
def outputNaming (game : Game) : Naming OutHandler :=
  ⟨game.overrides.outputs, OutHandler.ofName?, .stub⟩

theorem portTable_eq (game : Game) :
    game.portTable =
      Wiring.bindAll PortTable.bindOutput game.outputNaming.handler
        game.config.ports.outputs.toList
        (Wiring.bindAll PortTable.bindInput game.inputNaming.handler
          game.config.ports.inputs.toList .empty) := rfl

theorem input?_portTable (game : Game) (port : UInt8) :
    game.portTable.input? port =
      (game.config.ports.inputs.name? port).map game.inputNaming.handler := by
  have kept (table : PortTable) (other : UInt8) (handler : OutHandler) :
      (table.bindOutput other handler).inputs = table.inputs := rfl
  rw [portTable_eq, PortTable.input?]
  simp only [Wiring.bindAll_kept PortTable.inputs kept]
  exact Wiring.slot_bindAll_toList PortTable.input?_bindInput port (PortTable.input?_empty port)

theorem output?_portTable (game : Game) (port : UInt8) :
    game.portTable.output? port =
      (game.config.ports.outputs.name? port).map game.outputNaming.handler := by
  have kept (table : PortTable) (other : UInt8) (handler : InHandler) :
      (table.bindInput other handler).output? port = table.output? port := rfl
  rw [portTable_eq]
  apply Wiring.slot_bindAll_toList PortTable.output?_bindOutput port
  exact (Wiring.bindAll_kept (fun table => table.output? port) kept _ _).trans
    (PortTable.output?_empty port)

end Game

end Cabinet
