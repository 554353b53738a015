import Cabinet.Json.Basic

/-!
# Strings in a text

The body of a string goes up to its closing quote. Reading it for its value
replaces escapes; an escaped surrogate has to be part of a pair. Skipping it
only asks for well-formed escapes. Control characters are refused in both.
-/

namespace Cabinet.Json.StringText

/-- The value of four hexadecimal digits. -/
def hexValue? (digits : List Char) : Option Nat :=
  digits.foldlM (fun value digit =>
    if '0' ≤ digit ∧ digit ≤ '9' then some (16 * value + (digit.toNat - 48))
    else if 'A' ≤ digit ∧ digit ≤ 'F' then some (16 * value + (digit.toNat - 55))
    else if 'a' ≤ digit ∧ digit ≤ 'f' then some (16 * value + (digit.toNat - 87))
    else none) 0

/-- The number of bytes that a text takes in UTF-8. -/
def byteLength (text : List Char) : Nat :=
  text.foldl (fun size c => size + c.utf8Size) 0

/--
The fault of a Unicode escape with fewer than four characters left: the text
ends early unless four bytes are left.
-/
def shortEscape (rest : List Char) : Fault :=
  if byteLength rest < 4 then .truncated else .malformed

/-- The character that a one-letter escape stands for. -/
def simpleEscape? : Char → Option Char
  | '\x22' => some '\x22'
  | '\x5c' => some '\x5c'
  | '/' => some '/'
  | 'b' => some '\x08'
  | 'f' => some '\x0c'
  | 'n' => some '\n'
  | 'r' => some '\r'
  | 't' => some '\t'
  | _ => none

/-- The fault of a leading surrogate that no second escape follows. -/
def loneSurrogate : List Char → Fault
  | [] => .truncated
  | ['\x5c'] => .truncated
  | '\x5c' :: 'u' :: rest => shortEscape rest
  | _ => .malformed

def isLeading (unit : Nat) : Bool := 0xD800 ≤ unit && unit ≤ 0xDBFF

def isTrailing (unit : Nat) : Bool := 0xDC00 ≤ unit && unit ≤ 0xDFFF

/-- The character of a surrogate pair. -/
def joinSurrogates (leading trailing : Nat) : Char :=
  Char.ofNat ((leading - 0xD800) * 0x400 + (trailing - 0xDC00) + 0x10000)

/-- Read a body up to its closing quote, after the characters read before, in reverse. -/
def read (done : List Char) : List Char → Except Fault (List Char)
  | [] => .error .truncated
  | '\x22' :: _ => .ok done.reverse
  | ['\x5c'] => .error .truncated
  | '\x5c' :: 'u' :: p :: q :: r :: s :: rest =>
      match hexValue? [p, q, r, s] with
      | none => .error .malformed
      | some unit =>
          if isTrailing unit then .error .malformed
          else if isLeading unit then
            match rest with
            | '\x5c' :: 'u' :: t :: u :: v :: w :: rest =>
                match hexValue? [t, u, v, w] with
                | none => .error .malformed
                | some second =>
                    if isTrailing second then read (joinSurrogates unit second :: done) rest
                    else .error .malformed
            | rest => .error (loneSurrogate rest)
          else read (Char.ofNat unit :: done) rest
  | '\x5c' :: 'u' :: rest => .error (shortEscape rest)
  | '\x5c' :: letter :: rest =>
      match simpleEscape? letter with
      | none => .error .malformed
      | some c => read (c :: done) rest
  | c :: rest => if c < ' ' then .error .malformed else read (c :: done) rest

/-- Pass over a body and its closing quote. -/
def skip : List Char → Except Fault (List Char)
  | [] => .error .truncated
  | '\x22' :: rest => .ok rest
  | ['\x5c'] => .error .truncated
  | '\x5c' :: 'u' :: p :: q :: r :: s :: rest =>
      match hexValue? [p, q, r, s] with
      | none => .error .malformed
      | some _ => skip rest
  | '\x5c' :: 'u' :: rest => .error (shortEscape rest)
  | '\x5c' :: letter :: rest =>
      match simpleEscape? letter with
      | none => .error .malformed
      | some _ => skip rest
  | c :: rest => if c < ' ' then .error .malformed else skip rest

/-- The value of a body. -/
def value (body : List Char) : Except Fault String :=
  (read [] body).map String.ofList

end Cabinet.Json.StringText
