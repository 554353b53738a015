/-!
# JSON values

Numbers are integers of at most 64 bits, signed or unsigned, or doubles. The
members of an object are kept in ascending order of their keys, each key once.
A text fails to be a value in two ways: something stands where it cannot, or the
text ends too early.
-/

namespace Cabinet

/-- A number: an integer that fits 64 bits, or a double. -/
inductive Json.Number where
  | integer (value : Int)
  | float (value : Float)
deriving Inhabited

inductive Json where
  | null
  | bool (value : Bool)
  | number (value : Json.Number)
  | string (value : String)
  | array (items : List Json)
  | object (members : List (String × Json))
deriving Inhabited

namespace Json

/-- What is wrong with a text. -/
inductive Fault where
  | malformed
  | truncated
deriving DecidableEq, Inhabited

def ofNat (value : Nat) : Json :=
  .number (.integer value)

/-- An option as its value or `null`. -/
def ofOption {α : Type} (encode : α → Json) : Option α → Json
  | none => .null
  | some value => encode value

/-- Put a member at its place, replacing one with the same key. -/
def insertMember (key : String) (value : Json) : List (String × Json) → List (String × Json)
  | [] => [(key, value)]
  | (other, kept) :: rest =>
      if key = other then (key, value) :: rest
      else if key < other then (key, value) :: (other, kept) :: rest
      else (other, kept) :: insertMember key value rest

/-- An object from members in any order; of two with the same key the later one counts. -/
def ofMembers (members : List (String × Json)) : Json :=
  .object (members.foldl (fun sorted member => insertMember member.1 member.2 sorted) [])

end Json

end Cabinet
