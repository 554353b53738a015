import Cabinet.Json.NumberText
import Cabinet.Json.StringText

/-!
# Readable structure of a text

A node is what a text has to offer at one place, before it is known what is
wanted there. Faults are part of it: a text is scanned as far as it goes, and a
fault counts only for a reader that comes as far as it. So of several faults and
type errors the first in reading order is the one reported. Readers that skip a
value are more lenient with strings and numbers than readers that want it.

A finished value is a node without faults; its arrays know how many elements
they have.
-/

namespace Cabinet.Json

/--
What follows the last element or member: the closing bracket, the end of a finished value
with so many elements, neither a comma nor the closing bracket, or a comma with nothing
readable behind it.
-/
inductive Ending where
  | closed
  | counted (total : Nat)
  | cut (fault : Fault)
  | dangling (fault : Fault)

/--
A member's key, read as a string and read as a number in quotes. With the number it is known
whether the closing quote follows it at once.
-/
structure Key where
  name : Except Fault String
  number : Except Fault (Number × Bool)

/--
A value as far as it can be read. An opening brace before something that is neither a key
nor the closing brace is `keyless`. Where nothing is readable there is a `fault`, and a
truth value or number that begins but does not go on is `unfinished`; both name the fault
when a value is wanted and the one when it is skipped.
-/
inductive Node where
  | null
  | bool (value : Bool)
  | number (value : Except Fault Number)
  | string (value : Except Fault String)
  | array (items : List Node) (ending : Ending)
  | object (members : List (Key × Node)) (ending : Ending)
  | keyless (inner : Node)
  | fault (whenRead whenSkipped : Fault)
  | unfinished (whenRead whenSkipped : Fault)

namespace Key

/-- Read a number right behind the opening quote. -/
def scanNumber (text : List Char) : Except Fault (Number × Bool) :=
  match text with
  | [] => .error .malformed
  | first :: _ =>
      if first.isDigit ∨ first = '-' then
        match NumberText.scan text with
        | .fault whenRead _ => .error whenRead
        | .done number rest => number.value.map fun value => (value, rest.head? == some '\x22')
      else .error .malformed

/-- A key from the text behind its opening quote. -/
def ofText (text : List Char) : Key :=
  ⟨StringText.value text, scanNumber text⟩

end Key

namespace Node

/-- The characters that may stand between the parts of a text. -/
def isSpace (c : Char) : Bool :=
  c == ' ' || c == '\n' || c == '\t' || c == '\r'

def skipSpace (text : List Char) : List Char :=
  text.dropWhile isSpace

/-- The fault where something else was needed: the text may have ended there. -/
def absence : List Char → Fault
  | [] => .truncated
  | _ :: _ => .malformed

/-- A place with nothing readable, where the text does not go on. -/
def broken (fault : Fault) : Node × Option (List Char) :=
  (.fault fault fault, none)

/-- The rest of a literal name. -/
def scanName (node : Node) (failed : Fault → Node) :
    (name text : List Char) → Node × Option (List Char)
  | [], rest => (node, some rest)
  | _ :: _, [] => (failed .truncated, none)
  | expected :: name, c :: rest =>
      if c = expected then scanName node failed name rest else (failed .malformed, none)

def scanNumber (text : List Char) : Node × Option (List Char) :=
  match NumberText.scan text with
  | .fault whenRead whenSkipped => (.unfinished whenRead whenSkipped, none)
  | .done parts rest => (.number parts.value, some rest)

/-- A string from the text behind its opening quote. -/
def scanString (text : List Char) : Node × Option (List Char) :=
  match StringText.skip text with
  | .ok rest => (.string (StringText.value text), some rest)
  | .error whenSkipped =>
      match StringText.value text with
      | .ok _ => broken whenSkipped
      | .error whenRead => (.fault whenRead whenSkipped, none)

/-- What follows an element or member: a comma, the closing bracket or a fault. -/
inductive Separator where
  | comma (rest : List Char)
  | close (rest : List Char)
  | missing (fault : Fault)

def scanSeparator (bracket : Char) (text : List Char) : Separator :=
  match skipSpace text with
  | [] => .missing .truncated
  | c :: rest =>
      if c = ',' then .comma rest else if c = bracket then .close rest else .missing .malformed

mutual

/-- Scan the value at the head of a text, with what follows it unless a fault ends the text. -/
def scan (fuel : Nat) (text : List Char) : Node × Option (List Char) :=
  match fuel with
  | 0 => broken .truncated
  | fuel + 1 =>
      match skipSpace text with
      | [] => broken .truncated
      | 'n' :: rest => scanName .null (fun reason => .fault reason reason) ['u', 'l', 'l'] rest
      | 't' :: rest =>
          scanName (.bool true) (fun reason => .unfinished reason reason) ['r', 'u', 'e'] rest
      | 'f' :: rest =>
          scanName (.bool false) (fun reason => .unfinished reason reason)
            ['a', 'l', 's', 'e'] rest
      | '\x22' :: rest => scanString rest
      | '[' :: rest =>
          match skipSpace rest with
          | [] => (.array [] (.cut .truncated), none)
          | ']' :: rest => (.array [] .closed, some rest)
          | _ => scanItems fuel rest []
      | '\x7b' :: rest =>
          match skipSpace rest with
          | [] => (.object [] (.cut .truncated), none)
          | '\x7d' :: rest => (.object [] .closed, some rest)
          | '\x22' :: rest => scanMembers fuel rest []
          | other => (.keyless (scan fuel other).1, none)
      | c :: rest =>
          if c.isDigit ∨ c = '-' then scanNumber (c :: rest) else broken .malformed

/-- Scan the elements from the next one on, after those scanned before, in reverse. -/
def scanItems (fuel : Nat) (text : List Char) (done : List Node) : Node × Option (List Char) :=
  match fuel with
  | 0 => (.array done.reverse (.cut .truncated), none)
  | fuel + 1 =>
      match scan fuel text with
      | (item, none) => (.array (item :: done).reverse (.cut .malformed), none)
      | (item, some rest) =>
          match scanSeparator ']' rest with
          | .missing reason => (.array (item :: done).reverse (.cut reason), none)
          | .close rest => (.array (item :: done).reverse .closed, some rest)
          | .comma rest =>
              match skipSpace rest with
              | [] => (.array (item :: done).reverse (.dangling .truncated), none)
              | ']' :: _ => (.array (item :: done).reverse (.dangling .malformed), none)
              | _ => scanItems fuel rest (item :: done)

/--
Scan the members from the next key on, which begins behind its opening quote,
after those scanned before, in reverse.
-/
def scanMembers (fuel : Nat) (text : List Char) (done : List (Key × Node)) :
    Node × Option (List Char) :=
  match fuel with
  | 0 => (.object done.reverse (.cut .truncated), none)
  | fuel + 1 =>
      let key := Key.ofText text
      let stop (value : Node) (ending : Ending) : Node × Option (List Char) :=
        (.object ((key, value) :: done).reverse ending, none)
      match StringText.skip text with
      | .error reason => stop (.fault reason reason) (.cut reason)
      | .ok rest =>
          match skipSpace rest with
          | ':' :: rest =>
              match scan fuel rest with
              | (value, none) => stop value (.cut .malformed)
              | (value, some rest) =>
                  match scanSeparator '\x7d' rest with
                  | .missing reason => stop value (.cut reason)
                  | .close rest => (.object ((key, value) :: done).reverse .closed, some rest)
                  | .comma rest =>
                      match skipSpace rest with
                      | '\x22' :: rest => scanMembers fuel rest ((key, value) :: done)
                      | other => stop value (.dangling (absence other))
          | other => stop (.fault (absence other) (absence other)) (.cut (absence other))

end

mutual

/-- Pass over a value, refusing what cannot even be skipped. -/
def skip : Node → Except Fault Unit
  | .null | .bool _ | .number _ | .string _ => .ok ()
  | .array items ending => do
      skipItems items
      skipEnding ending
  | .object members ending => do
      skipMembers members
      skipEnding ending
  | .keyless _ => .error .malformed
  | .fault _ whenSkipped | .unfinished _ whenSkipped => .error whenSkipped

def skipItems : List Node → Except Fault Unit
  | [] => .ok ()
  | item :: items => do
      item.skip
      skipItems items

def skipMembers : List (Key × Node) → Except Fault Unit
  | [] => .ok ()
  | (_, value) :: members => do
      value.skip
      skipMembers members

def skipEnding : Ending → Except Fault Unit
  | .closed | .counted _ => .ok ()
  | .cut reason | .dangling reason => .error reason

end

end Node

/-- A scanned text: its value, and whether only space follows it. -/
structure Document where
  root : Node
  complete : Bool

/-- Scan a whole text. -/
def Document.scan (text : String) : Document :=
  let chars := text.toList
  match Node.scan (2 * chars.length + 2) chars with
  | (root, none) => ⟨root, false⟩
  | (root, some rest) => ⟨root, (Node.skipSpace rest).isEmpty⟩

mutual

/-- A finished value as a node. The ending of an array may depend on its length. -/
def Node.ofJsonWith (ending : Nat → Ending) : Json → Node
  | .null => .null
  | .bool value => .bool value
  | .number value => .number (.ok value)
  | .string value => .string (.ok value)
  | .array items => .array (Node.ofItems ending items) (ending items.length)
  | .object members => .object (Node.ofMembers ending members) .closed

def Node.ofItems (ending : Nat → Ending) : List Json → List Node
  | [] => []
  | item :: items => Node.ofJsonWith ending item :: Node.ofItems ending items

def Node.ofMembers (ending : Nat → Ending) : List (String × Json) → List (Key × Node)
  | [] => []
  | (key, value) :: members =>
      (⟨.ok key, Key.scanNumber (key.toList ++ ['\x22'])⟩, Node.ofJsonWith ending value) ::
        Node.ofMembers ending members

end

/-- A finished value as a node whose arrays know their length. -/
def Node.ofJson (value : Json) : Node :=
  Node.ofJsonWith .counted value

end Cabinet.Json
