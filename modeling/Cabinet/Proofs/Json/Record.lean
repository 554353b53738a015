import Cabinet.Proofs.Json.Shown
import Cabinet.Proofs.Outcome

/-!
# Reading what was written

Every reader takes back the value that its type is written as. A record is
written as an object whose members may come in any order: each field is found
under its name.
-/

namespace Cabinet.Json

open Outcome

/-! ## Numbers, truth values and texts -/

theorem reads_natBelow {bound size : Nat} (expected : String) (fits : size < bound) :
    Reads (Reader.natBelow bound expected) (.ofNat size) size := by
  rintro _ ⟨⟩
  exact if_pos fits

/-- A word is read back from the natural number that stands for it. -/
theorem reads_word {α : Type} {bound size : Nat} {ofNat : Nat → α} {value : α}
    (expected : String) (fits : size < bound) (same : ofNat size = value) :
    Reads (fun node => (Reader.natBelow bound expected node).map ofNat) (.ofNat size) value := by
  intro node shows
  dsimp only
  rw [reads_natBelow expected fits node shows]
  exact congrArg Except.ok same

theorem reads_uint8 (value : UInt8) : Reads Reader.uint8 (.ofNat value.toNat) value :=
  reads_word "u8" value.toNat_lt_size value.ofNat_toNat

theorem reads_uint16 (value : UInt16) : Reads Reader.uint16 (.ofNat value.toNat) value :=
  reads_word "u16" value.toNat_lt_size value.ofNat_toNat

theorem reads_uint32 (value : UInt32) : Reads Reader.uint32 (.ofNat value.toNat) value :=
  reads_word "u32" value.toNat_lt_size value.ofNat_toNat

theorem reads_uint64 (value : UInt64) : Reads Reader.uint64 (.ofNat value.toNat) value :=
  reads_word "u64" value.toNat_lt_size value.ofNat_toNat

theorem reads_bool (value : Bool) : Reads Reader.bool (.bool value) value := by
  rintro _ ⟨⟩
  rfl

theorem reads_string (value : String) : Reads Reader.string (.string value) value := by
  rintro _ ⟨⟩
  rfl

/-! ## Options and sequences -/

section

variable {α : Type} {reader : Reader α} {encode : α → Json}

/-- A value that is not written as `null` is there. -/
theorem reads_some {json : Json} {value : α} (reads : Reads reader json value)
    (notNull : json ≠ .null) : Reads (Reader.option reader) json (some value) := by
  intro node shows
  unfold Reader.option
  split
  · cases shows
    exact absurd rfl notNull
  · rw [reads node shows]
    rfl

/-- An option is read back if no value is written as `null`. -/
theorem reads_option (reads : ∀ value, Reads reader (encode value) value)
    (notNull : ∀ value, encode value ≠ .null) (value : Option α) :
    Reads (Reader.option reader) (.ofOption encode value) value := by
  cases value with
  | none =>
      rintro _ ⟨⟩
      rfl
  | some value => exact reads_some (reads value) (notNull value)

theorem finish_of_complete {ending : Ending} (complete : ending.Complete) :
    Reader.finish ending = .ok () := by
  cases ending with
  | closed | counted => rfl
  | cut | dangling => cases complete

theorem finishFixed_of_complete {ending : Ending} (complete : ending.Complete) :
    Reader.finishFixed [] ending = .ok () := by
  cases ending with
  | closed | counted => rfl
  | cut | dangling => cases complete

theorem items_shown {values : List α} (reads : ∀ value ∈ values, Reads reader (encode value) value)
    {nodes : List Node} (shown : List.Forall₂ Shows (values.map encode) nodes) :
    Reader.items reader nodes = .ok values := by
  induction values generalizing nodes with
  | nil =>
      cases shown
      rfl
  | cons value values ih =>
      obtain ⟨read, reads⟩ := List.forall_mem_cons.mp reads
      cases shown with
      | cons first others =>
          simp only [Reader.items, read _ first, ih reads others, ok_bind]
          rfl

theorem reads_list {values : List α}
    (reads : ∀ value ∈ values, Reads reader (encode value) value) :
    Reads (Reader.list reader) (.array (values.map encode)) values := by
  intro node shows
  obtain ⟨nodes, ending, rfl, shown, complete⟩ := shows.items
  simp only [Reader.list, items_shown reads shown, finish_of_complete complete, ok_bind]
  rfl

theorem firstItems_shown (reads : ∀ value, Reads reader (encode value) value)
    (ending : Ending) (expected : String) (index : Nat) {values : List α}
    {nodes : List Node} (shown : List.Forall₂ Shows (values.map encode) nodes) :
    Reader.firstItems reader ending expected index values.length nodes = .ok (values, []) := by
  induction values generalizing index nodes with
  | nil =>
      cases shown
      rfl
  | cons value values ih =>
      cases shown with
      | cons first others =>
          simp only [List.length_cons, Reader.firstItems, reads value _ first, ih _ others, ok_bind]
          rfl

theorem reads_array (reads : ∀ value, Reads reader (encode value) value) (values : List α) :
    Reads (Reader.array values.length reader) (.array (values.map encode)) values := by
  intro node shows
  obtain ⟨nodes, ending, rfl, shown, complete⟩ := shows.items
  simp only [Reader.array, firstItems_shown reads _ _ _ shown, finishFixed_of_complete complete,
    ok_bind]
  rfl

end

/-! ## Records -/

/-- The given fields are these members. -/
structure Fields.Holds (given : Fields) (members : List (String × Json)) : Prop where
  shown : ∀ member ∈ members,
    ∃ node, given.given.lookup member.1 = some node ∧ Shows member.2 node
  absent : ∀ name, name ∉ members.map Prod.fst → given.given.lookup name = none

/-- The field of this name admits the value. -/
def Fields.Admits (fields : List Field) (member : String × Json) : Prop :=
  ∃ field, fields.find? (fun field => field.name == member.1) = some field ∧
    ∀ node, Shows member.2 node → field.check node = .ok ()

namespace Fields

variable {fields : List Field} {members : List (String × Json)}

theorem admitted_nil : ∀ member ∈ [], Admits fields member :=
  List.forall_mem_nil _

/-- A member is admitted if the reader of the field with its name takes it. -/
theorem admits_of_reads {α : Type} {reader : Reader α} {name : String} {json : Json} {result : α}
    (reads : Reads reader json result)
    (found : (fields.find? fun field => field.name == name).map Field.check =
      some fun node => (reader node).map fun _ => ()) : Admits fields (name, json) := by
  obtain ⟨field, found, check⟩ := Option.map_eq_some_iff.mp found
  refine ⟨field, found, fun node shows => ?_⟩
  rw [check]
  dsimp only
  rw [reads node shows]
  rfl

theorem admitted_cons {α : Type} {reader : Reader α} {name : String} {json : Json} {result : α}
    (reads : Reads reader json result)
    (found : (fields.find? fun field => field.name == name).map Field.check =
      some fun node => (reader node).map fun _ => ())
    (admitted : ∀ member ∈ members, Admits fields member) :
    ∀ member ∈ (name, json) :: members, Admits fields member :=
  List.forall_mem_cons.mpr ⟨admits_of_reads reads found, admitted⟩

/-- Members with different keys are all taken up, behind those taken up before. -/
theorem ofMembers_eq {nodes : List (Key × Node)} (shown : List.Forall₂ ShowsMember members nodes)
    (taken : List (String × Node)) (distinct : (members.map Prod.fst).Nodup)
    (fresh : ∀ name ∈ members.map Prod.fst, taken.lookup name = none)
    (admitted : ∀ member ∈ members, Admits fields member) :
    ∃ result, ofMembers fields taken nodes = .ok result ∧
      (∀ member ∈ members,
        ∃ node, result.given.lookup member.1 = some node ∧ Shows member.2 node) ∧
      ∀ name, name ∉ members.map Prod.fst → result.given.lookup name = taken.lookup name := by
  -- Each member is put in front of those taken up before, which therefore vary.
  induction shown generalizing taken with
  | nil => exact ⟨⟨taken⟩, rfl, nofun, fun _ _ => rfl⟩
  | @cons member node members nodes showsMember _ ih =>
      obtain ⟨name, json⟩ := member
      obtain ⟨key, node⟩ := node
      obtain ⟨spells, shows⟩ := showsMember
      rw [List.map_cons, List.nodup_cons] at distinct
      obtain ⟨new, distinct⟩ := distinct
      obtain ⟨⟨field, found, checked⟩, admitted⟩ := List.forall_mem_cons.mp admitted
      have unseen : taken.lookup name = none := fresh name List.mem_cons_self
      have front (other : String) (apart : other ≠ name) :
          List.lookup other ((name, node) :: taken) = taken.lookup other := by
        rw [List.lookup_cons, beq_eq_false_iff_ne.mpr apart]
      have later : ∀ other ∈ members.map Prod.fst,
          List.lookup other ((name, node) :: taken) = none := by
        intro other inside
        rw [front other fun same => new (same ▸ inside)]
        exact fresh other (List.mem_cons_of_mem _ inside)
      obtain ⟨result, read, given, kept⟩ := ih ((name, node) :: taken) distinct later admitted
      refine ⟨result, ?_, ?_, ?_⟩
      · have text : key.name = .ok name := spells.text
        simp only [ofMembers, text, Fault.raise, ok_bind, found, unseen, Option.isSome_none,
          Bool.false_eq_true, if_false, checked node shows]
        exact read
      · refine List.forall_mem_cons.mpr ⟨⟨node, ?_, shows⟩, given⟩
        rw [kept name new, List.lookup_cons, beq_self_eq_true]
      · intro other outside
        rw [List.map_cons, List.mem_cons, not_or] at outside
        rw [kept other outside.2, front other outside.1]

/-- An object with different keys that are all admitted is read as a record. -/
theorem read_object (record : String) (fields : List Field) {node : Node}
    (shows : Shows (.object members) node)
    (distinct : (members.map Prod.fst).Nodup)
    (admitted : ∀ member ∈ members, Admits fields member) :
    ∃ given, read record fields node = .ok given ∧ given.Holds members := by
  obtain ⟨ordered, nodes, ending, rfl, order, shown, complete⟩ := shows.members
  have names : (ordered.map Prod.fst).Perm (members.map Prod.fst) := order.map Prod.fst
  obtain ⟨given, taken, held, left⟩ := ofMembers_eq shown [] (names.nodup_iff.mpr distinct)
    (fun _ _ => rfl) (fun member inside => admitted member (order.mem_iff.mp inside))
  refine ⟨given, ?_, ?_, ?_⟩
  · simp only [read, taken, finish_of_complete complete, ok_bind]
    rfl
  · exact fun member inside => held member (order.mem_iff.mpr inside)
  · exact fun name outside => left name fun inside => outside (names.mem_iff.mp inside)

section

variable {given : Fields} {json : Json} {α : Type} {reader : Reader α} {result : α}

theorem Holds.lookup_some (holds : given.Holds members) {name : String}
    (member : members.lookup name = some json) :
    ∃ node, given.given.lookup name = some node ∧ Shows json node := by
  obtain ⟨front, back, rfl, -⟩ := List.lookup_eq_some_iff.mp member
  exact holds.shown (name, json) (List.mem_append_right front List.mem_cons_self)

theorem Holds.lookup_none (holds : given.Holds members) {name : String}
    (member : members.lookup name = none) : given.given.lookup name = none := by
  refine holds.absent name fun inside => ?_
  obtain ⟨other, listed, rfl⟩ := List.mem_map.mp inside
  have apart := List.lookup_eq_none_iff.mp member other listed
  exact absurd apart (by simp)

theorem Holds.required (holds : given.Holds members) (name : String)
    (member : members.lookup name = some json) (reads : Reads reader json result) :
    given.required name reader = .ok result := by
  obtain ⟨node, found, shows⟩ := holds.lookup_some member
  rw [Fields.required, found]
  exact reads node shows

theorem Holds.defaultTo (holds : given.Holds members) (name : String) (default : α)
    (member : members.lookup name = some json) (reads : Reads reader json result) :
    given.defaultTo name reader default = .ok result := by
  obtain ⟨node, found, shows⟩ := holds.lookup_some member
  rw [Fields.defaultTo, found]
  exact reads node shows

theorem Holds.defaulted (holds : given.Holds members) (name : String) (default : α)
    (member : members.lookup name = none) : given.defaultTo name reader default = .ok default := by
  rw [Fields.defaultTo, holds.lookup_none member]

end

end Fields

end Cabinet.Json
