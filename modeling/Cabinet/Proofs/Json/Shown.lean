import Mathlib.Data.List.Forall2
import Cabinet.Json.Reader
import Cabinet.Proofs.Json.Tokens

/-!
# Nodes that show a value

A node shows a value if it has no faults and the same structure. The members of an
object may come in any order. A reader takes a value for what it stands for if it does
so from every node that shows it, however the value was written.
-/

namespace Cabinet.Json

/-- A sequence that came to its end. -/
def Ending.Complete : Ending → Prop
  | .closed | .counted _ => True
  | .cut _ | .dangling _ => False

/-- A key has this name, and if the name is a number it is also read as this number. -/
structure Key.Spells (key : Key) (name : String) : Prop where
  text : key.name = .ok name
  number : ∀ size < NumberText.wordBound, name = toString size →
    key.number = .ok (.integer size, true)

inductive Shows : Json → Node → Prop where
  | null : Shows .null .null
  | bool (value : Bool) : Shows (.bool value) (.bool value)
  | number (value : Number) : Shows (.number value) (.number (.ok value))
  | string (value : String) : Shows (.string value) (.string (.ok value))
  | array {items : List Json} {nodes : List Node} {ending : Ending}
      (shown : List.Forall₂ Shows items nodes) (complete : ending.Complete) :
      Shows (.array items) (.array nodes ending)
  | object {members ordered : List (String × Json)} {nodes : List (Key × Node)}
      {ending : Ending} (order : ordered.Perm members)
      (keys : List.Forall₂ (fun member node => node.1.Spells member.1) ordered nodes)
      (values : List.Forall₂ (fun member node => Shows member.2 node.2) ordered nodes)
      (complete : ending.Complete) : Shows (.object members) (.object nodes ending)

/-- A member is shown by a key and a node. -/
def ShowsMember (member : String × Json) (node : Key × Node) : Prop :=
  node.1.Spells member.1 ∧ Shows member.2 node.2

theorem shows_object {members ordered : List (String × Json)} {nodes : List (Key × Node)}
    {ending : Ending} (order : ordered.Perm members)
    (shown : List.Forall₂ ShowsMember ordered nodes) (complete : ending.Complete) :
    Shows (.object members) (.object nodes ending) :=
  .object order (shown.imp fun _ _ => And.left) (shown.imp fun _ _ => And.right) complete

theorem Shows.items {items : List Json} {node : Node} (shows : Shows (.array items) node) :
    ∃ nodes ending, node = .array nodes ending ∧ List.Forall₂ Shows items nodes ∧
      ending.Complete := by
  cases shows with
  | array shown complete => exact ⟨_, _, rfl, shown, complete⟩

/-- A node that shows an object has its members in some order. -/
theorem Shows.members {members : List (String × Json)} {node : Node}
    (shows : Shows (.object members) node) :
    ∃ ordered nodes ending, node = .object nodes ending ∧ ordered.Perm members ∧
      List.Forall₂ ShowsMember ordered nodes ∧ ending.Complete := by
  cases shows with
  | @object _ ordered nodes ending order keys values complete =>
      exact ⟨ordered, nodes, ending, rfl, order, keys.mp (fun _ _ => And.intro) values, complete⟩

/-- A reader takes every node that shows the value for `result`. -/
def Reads {α : Type} (reader : Reader α) (json : Json) (result : α) : Prop :=
  ∀ node, Shows json node → reader node = .ok result

theorem Key.number_toString (size : Nat) (rest : List Char)
    (fits : size < NumberText.wordBound) :
    Key.scanNumber ((toString size).toList ++ '\x22' :: rest) = .ok (.integer size, true) := by
  rw [Nat.toString_eq_repr, Nat.toList_repr]
  exact scanNumber_toDigits fits rest

theorem Key.spells_body (name : String) (rest : List Char) :
    (Key.ofText (StringText.body name rest)).Spells name where
  text := StringText.value_body name rest
  number := by
    rintro size fits rfl
    have digits : ∀ c ∈ (toString size).toList, c.isDigit = true := by
      rw [Nat.toString_eq_repr, Nat.toList_repr]
      exact fun _ => NumberText.isDigit_of_mem
    rw [Key.ofText, StringText.body, StringText.flatMap_escapeChar digits]
    exact Key.number_toString size rest fits

mutual

/-- A finished value is shown by its own node. -/
theorem shows_ofJson : (json : Json) → Shows json (Node.ofJsonWith .counted json)
  | .null => .null
  | .bool value => .bool value
  | .number value => .number value
  | .string value => .string value
  | .array items => .array (shows_ofItems items) trivial
  | .object members => shows_object (.refl members) (shows_ofMembers members) trivial

theorem shows_ofItems :
    (items : List Json) → List.Forall₂ Shows items (Node.ofItems .counted items)
  | [] => .nil
  | item :: items => .cons (shows_ofJson item) (shows_ofItems items)

theorem shows_ofMembers :
    (members : List (String × Json)) →
      List.Forall₂ ShowsMember members (Node.ofMembers .counted members)
  | [] => .nil
  | (key, value) :: members =>
      have spells : Key.Spells ⟨.ok key, Key.scanNumber (key.toList ++ ['\x22'])⟩ key :=
        { text := rfl
          number := by
            rintro size fits rfl
            exact Key.number_toString size [] fits }
      .cons ⟨spells, shows_ofJson value⟩ (shows_ofMembers members)

end

theorem Reads.readValue {α : Type} {reader : Reader α} {json : Json} {result : α}
    (reads : Reads reader json result) : readValue reader json = .ok result :=
  reads _ (shows_ofJson json)

end Cabinet.Json
