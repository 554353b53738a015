import Cabinet.Json.Basic
import Cabinet.Text.Characters
import Cabinet.Text.Decimal

/-!
# Problems of reading

Why a text or a value is not what a reader wants: a fault of the text, or a
value of the wrong kind, range or length, or a record with the wrong fields.
-/

namespace Cabinet.Json

/-- What stands in the place of what was wanted. -/
inductive Found where
  | null
  | bool (value : Bool)
  | number (value : Number)
  | string (value : String)
  | sequence
  | map

inductive Problem where
  | text (fault : Fault)
  | wrongType (found : Found) (expected : String)
  | wrongValue (found : Found) (expected : String)
  | wrongLength (length : Nat) (expected : String)
  | missingField (name : String)
  | duplicateField (name : String)
  | unknownVariant (name : String) (known : List String)

namespace Number

/-- The text of a number: an integer in full, a double in its shortest form. -/
def text : Number → String
  | .integer value => toString value
  | .float value => String.ofList (Decimal.text value)

end Number

namespace Found

def describe : Found → String
  | .null => "null"
  | .bool value => s!"boolean `{value}`"
  | .number (.integer value) => s!"integer `{value}`"
  | .number (.float value) => s!"floating point `{(Number.float value).text}`"
  | .string value => s!"string {Text.quoted value}"
  | .sequence => "sequence"
  | .map => "map"

end Found

namespace Problem

def message : Problem → String
  | .text .malformed => "malformed text"
  | .text .truncated => "text ends too early"
  | .wrongType found expected => s!"invalid type: {found.describe}, expected {expected}"
  | .wrongValue found expected => s!"invalid value: {found.describe}, expected {expected}"
  | .wrongLength length expected => s!"invalid length {length}, expected {expected}"
  | .missingField name => s!"missing field `{name}`"
  | .duplicateField name => s!"duplicate field `{name}`"
  | .unknownVariant name known =>
      let list := ", ".intercalate (known.map fun variant => s!"`{variant}`")
      s!"unknown variant `{name}`, expected one of {list}"

end Problem

end Cabinet.Json
