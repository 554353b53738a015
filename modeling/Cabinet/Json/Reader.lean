import Cabinet.Json.Node
import Cabinet.Json.Problem

/-!
# Readers

A reader makes a value of one type from a node. It goes through the node in the
order of the text and stops at the first problem it meets: a fault of the text,
a value of the wrong kind or range, a field given twice. A field that is missing
is noticed when its record is complete. Records may also be written as arrays of
their fields in order.
-/

namespace Cabinet.Json

/-- A way to make a value from a node. -/
abbrev Reader (α : Type) : Type := Node → Except Problem α

namespace Node

/-- The problem of a node that is not of the kind that is wanted. -/
def mismatch (node : Node) (expected : String) : Problem :=
  match node with
  | .null => .wrongType .null expected
  | .bool value => .wrongType (.bool value) expected
  | .number (.ok value) => .wrongType (.number value) expected
  | .number (.error reason) => .text reason
  | .string (.ok value) => .wrongType (.string value) expected
  | .string (.error reason) => .text reason
  | .array _ _ => .wrongType .sequence expected
  | .object _ _ => .wrongType .map expected
  | .keyless _ => .wrongType .map expected
  | .fault whenRead _ | .unfinished whenRead _ => .text whenRead

end Node

/-- Raise a fault of the text as a problem. -/
def Fault.raise {α : Type} : Except Fault α → Except Problem α
  | .ok value => .ok value
  | .error fault => .error (.text fault)

namespace Reader

/-- An integer in a range of naturals, as `expected` names it. -/
def integerBelow (bound : Nat) (expected : String) (value : Number) : Except Problem Nat :=
  match value with
  | .integer (.ofNat size) =>
      if size < bound then .ok size else .error (.wrongValue (.number value) expected)
  | .integer (.negSucc _) => .error (.wrongValue (.number value) expected)
  | .float _ => .error (.wrongType (.number value) expected)

/-- A natural number below a bound. -/
def natBelow (bound : Nat) (expected : String) : Reader Nat
  | .number (.ok value) => integerBelow bound expected value
  | node => .error (node.mismatch expected)

def uint8 : Reader UInt8 := fun node =>
  (natBelow UInt8.size "u8" node).map UInt8.ofNat

def uint16 : Reader UInt16 := fun node =>
  (natBelow UInt16.size "u16" node).map UInt16.ofNat

def uint32 : Reader UInt32 := fun node =>
  (natBelow UInt32.size "u32" node).map UInt32.ofNat

def uint64 : Reader UInt64 := fun node =>
  (natBelow UInt64.size "u64" node).map UInt64.ofNat

/-- A count of bytes. -/
def size : Reader Nat :=
  natBelow UInt64.size "usize"

def bool : Reader Bool
  | .bool value => .ok value
  | node => .error (node.mismatch "a boolean")

def string : Reader String
  | .string value => Fault.raise value
  | node => .error (node.mismatch "a string")

/-- A value or `null`. -/
def option {α : Type} (reader : Reader α) : Reader (Option α)
  | .null => .ok none
  | node => (reader node).map some

/-- The end of a sequence that is read to its end. -/
def finish : Ending → Except Problem Unit
  | .closed | .counted _ => .ok ()
  | .cut reason | .dangling reason => .error (.text reason)

/-- The end of an array of which no more elements are wanted. -/
def finishFixed (surplus : List Node) (ending : Ending) : Except Problem Unit :=
  match surplus, ending with
  | [], .closed => .ok ()
  | [], .counted _ => .ok ()
  | [], .cut reason => .error (.text reason)
  | _, .counted total => .error (.wrongLength total "fewer elements in array")
  | _, _ => .error (.text .malformed)

/-- The elements in order. -/
def items {α : Type} (reader : Reader α) : List Node → Except Problem (List α)
  | [] => .ok []
  | node :: nodes => do
      let item ← reader node
      let items ← items reader nodes
      return item :: items

/-- An array of any length. -/
def list {α : Type} (reader : Reader α) : Reader (List α)
  | .array nodes ending => do
      let values ← items reader nodes
      finish ending
      return values
  | node => .error (node.mismatch "a sequence")

/-- The first `count` elements, and the elements that are left. -/
def firstItems {α : Type} (reader : Reader α) (ending : Ending) (expected : String)
    (index : Nat) : (count : Nat) → List Node → Except Problem (List α × List Node)
  | 0, nodes => .ok ([], nodes)
  | _ + 1, [] => do
      finish ending
      .error (.wrongLength index expected)
  | count + 1, node :: nodes => do
      let item ← reader node
      let (items, rest) ← firstItems reader ending expected (index + 1) count nodes
      return (item :: items, rest)

/-- An array of a fixed length. -/
def array {α : Type} (count : Nat) (reader : Reader α) : Reader (List α) := fun node =>
  let expected := s!"an array of length {count}"
  match node with
  | .array nodes ending => do
      let (values, rest) ← firstItems reader ending expected 0 count nodes
      finishFixed rest ending
      return values
  | node => .error (node.mismatch expected)

end Reader

/-! ## Records -/

/-- A field as its record sees it: what it admits, and whether it may be left out of an array. -/
structure Field where
  name : String
  check : Node → Except Problem Unit
  optional : Bool := false

/-- A field that has to be there in an array. -/
def Field.needed {α : Type} (name : String) (reader : Reader α) : Field :=
  { name, check := fun node => (reader node).map fun _ => () }

/-- A field that has a default. -/
def Field.defaulted {α : Type} (name : String) (reader : Reader α) : Field :=
  { name, check := fun node => (reader node).map fun _ => (), optional := true }

/-- The nodes of the fields that were given. -/
structure Fields where
  given : List (String × Node)

namespace Fields

/-- Go through the members: check known fields, refuse repeated ones, skip unknown ones. -/
def ofMembers (fields : List Field) (given : List (String × Node)) :
    List (Key × Node) → Except Problem Fields
  | [] => .ok ⟨given⟩
  | (key, value) :: members => do
      let name ← Fault.raise key.name
      match fields.find? fun field => field.name == name with
      | none =>
          Fault.raise value.skip
          ofMembers fields given members
      | some field =>
          if (given.lookup name).isSome then .error (.duplicateField name)
          else
            field.check value
            ofMembers fields ((name, value) :: given) members

/-- Go through the elements, which are the fields in order. -/
def ofItems (expected : String) (index : Nat) (ending : Ending) :
    List Field → List Node → Except Problem (List (String × Node))
  | [], rest => do
      Reader.finishFixed rest ending
      return []
  | field :: fields, [] => do
      Reader.finish ending
      if field.optional then ofItems expected (index + 1) ending fields []
      else .error (.wrongLength index expected)
  | field :: fields, node :: nodes => do
      field.check node
      let given ← ofItems expected (index + 1) ending fields nodes
      return (field.name, node) :: given

/-- The given fields of a record, from an object or an array. -/
def read (record : String) (fields : List Field) : Node → Except Problem Fields
  | .object members ending => do
      let given ← ofMembers fields [] members
      Reader.finish ending
      return given
  | .keyless _ => .error (.text .malformed)
  | .array nodes ending => do
      let expected := s!"struct {record} with {fields.length} elements"
      return ⟨← ofItems expected 0 ending fields nodes⟩
  | node => .error (node.mismatch s!"struct {record}")

/-- The value of a field that must be given. -/
def required {α : Type} (fields : Fields) (name : String) (reader : Reader α) :
    Except Problem α :=
  match fields.given.lookup name with
  | some node => reader node
  | none => .error (.missingField name)

/-- The value of a field, or what it is when not given. -/
def defaultTo {α : Type} (fields : Fields) (name : String) (reader : Reader α) (value : α) :
    Except Problem α :=
  match fields.given.lookup name with
  | some node => reader node
  | none => .ok value

end Fields

/-! ## Values and whole texts -/

mutual

/-- The finished value of a node that nests less deeply than `depth`. -/
def Node.toJson (depth : Nat) : Node → Except Fault Json
  | .null => .ok .null
  | .bool value => .ok (.bool value)
  | .number value => value.map .number
  | .string value => value.map .string
  | .array nodes ending => do
      if depth ≤ 1 then .error .malformed
      else
        let items ← Node.toItems (depth - 1) nodes
        Node.skipEnding ending
        return .array items
  | .object members ending => do
      if depth ≤ 1 then .error .malformed
      else
        let members ← Node.toMembers (depth - 1) members
        Node.skipEnding ending
        return .ofMembers members
  | .keyless _ => .error .malformed
  | .fault whenRead _ | .unfinished whenRead _ => .error whenRead

def Node.toItems (depth : Nat) : List Node → Except Fault (List Json)
  | [] => .ok []
  | node :: nodes => do
      let item ← node.toJson depth
      let items ← Node.toItems depth nodes
      return item :: items

def Node.toMembers (depth : Nat) : List (Key × Node) → Except Fault (List (String × Json))
  | [] => .ok []
  | (key, node) :: members => do
      let name ← key.name
      let value ← node.toJson depth
      let members ← Node.toMembers depth members
      return (name, value) :: members

end

/-- How deeply the values of a text may nest. -/
def depthLimit : Nat := 128

/-- Read a whole text; only space may follow the value. -/
def readText {α : Type} (reader : Reader α) (text : String) : Except Problem α := do
  let document := Document.scan text
  let value ← reader document.root
  if document.complete then return value else .error (.text .malformed)

/-- Read a finished value. -/
def readValue {α : Type} (reader : Reader α) (value : Json) : Except Problem α :=
  reader (Node.ofJson value)

/-- The value that a whole text denotes. -/
def parse (text : String) : Except Problem Json :=
  readText (fun node => Fault.raise (node.toJson depthLimit)) text

end Cabinet.Json
