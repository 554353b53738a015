import Cabinet.Json.Basic
import Cabinet.Json.Problem

/-!
# Writing JSON

The compact form has no space at all. The indented form puts every element and
member on its own line, two spaces deeper than its bracket; empty brackets stay
together. Strings escape quotes, backslashes and control characters only.
-/

namespace Cabinet.Json

/-- A hexadecimal digit in lower case. -/
def lowerDigit (value : Nat) : Char :=
  if value < 10 then Char.ofNat (48 + value) else Char.ofNat (87 + value)

/-- A character inside a string. -/
def escapeChar (c : Char) : List Char :=
  if c = '\x22' then ['\x5c', '\x22']
  else if c = '\x5c' then ['\x5c', '\x5c']
  else if c = '\n' then ['\x5c', 'n']
  else if c = '\r' then ['\x5c', 'r']
  else if c = '\t' then ['\x5c', 't']
  else if c = '\x08' then ['\x5c', 'b']
  else if c = '\x0c' then ['\x5c', 'f']
  else if c < ' ' then
    ['\x5c', 'u', '0', '0', lowerDigit (c.toNat / 16), lowerDigit (c.toNat % 16)]
  else [c]

/-- A string in quotes. -/
def quoted (text : String) : List Char :=
  '\x22' :: text.toList.flatMap escapeChar ++ ['\x22']

/-- Join texts with a separator between them. -/
def separate (separator : List Char) : List (List Char) → List Char
  | [] => []
  | [last] => last
  | first :: rest => first ++ separator ++ separate separator rest

mutual

/-- The compact text. -/
def compactChars : Json → List Char
  | .null => ['n', 'u', 'l', 'l']
  | .bool true => ['t', 'r', 'u', 'e']
  | .bool false => ['f', 'a', 'l', 's', 'e']
  | .number value => value.text.toList
  | .string value => quoted value
  | .array items => '[' :: separate [','] (compactItems items) ++ [']']
  | .object members => '\x7b' :: separate [','] (compactMembers members) ++ ['\x7d']

def compactItems : List Json → List (List Char)
  | [] => []
  | item :: items => item.compactChars :: compactItems items

def compactMembers : List (String × Json) → List (List Char)
  | [] => []
  | (key, value) :: members =>
      (quoted key ++ ':' :: value.compactChars) :: compactMembers members

end

def compact (value : Json) : String :=
  String.ofList value.compactChars

/-- A line break and the indentation of a depth. -/
def lineBreak (depth : Nat) : List Char :=
  '\n' :: List.replicate (2 * depth) ' '

/-- Parts on lines of their own between brackets; nothing between them if there is no part. -/
def block (depth : Nat) (opening closing : Char) (parts : List (List Char)) : List Char :=
  match parts with
  | [] => [opening, closing]
  | parts =>
      opening :: lineBreak (depth + 1) ++ separate (',' :: lineBreak (depth + 1)) parts ++
        lineBreak depth ++ [closing]

mutual

/-- The indented text at a depth. -/
def indentedChars (depth : Nat) : Json → List Char
  | .array items => block depth '[' ']' (indentedItems (depth + 1) items)
  | .object members => block depth '\x7b' '\x7d' (indentedMembers (depth + 1) members)
  | value => value.compactChars

def indentedItems (depth : Nat) : List Json → List (List Char)
  | [] => []
  | item :: items => item.indentedChars depth :: indentedItems depth items

def indentedMembers (depth : Nat) : List (String × Json) → List (List Char)
  | [] => []
  | (key, value) :: members =>
      (quoted key ++ ':' :: ' ' :: value.indentedChars depth) :: indentedMembers depth members

end

def indented (value : Json) : String :=
  String.ofList (value.indentedChars 0)

end Cabinet.Json
