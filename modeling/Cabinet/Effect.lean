import Cabinet.Log

/-!
# Effects

What operations do beside their results. They tell notes to a listener, and they
end in a panic where arithmetic leaves the numbers of its type or a value is
looked up behind the last one. A panic ends the whole program: what was told
before it stays, and there is no result.
-/

namespace Cabinet

/-- Why the program ends at once. -/
inductive Panic where
  | addition
  | subtraction
  | multiplication
  | remainder
  | index (size place : Nat)
deriving DecidableEq, Inhabited

def Panic.message : Panic → String
  | .addition => "attempt to add with overflow"
  | .subtraction => "attempt to subtract with overflow"
  | .multiplication => "attempt to multiply with overflow"
  | .remainder => "attempt to calculate the remainder with a divisor of zero"
  | .index size place => s!"index out of bounds: the len is {size} but the index is {place}"

/-! ## Checked arithmetic -/

namespace Checked

/-- A result of 64 bits, if it fits 32. -/
def narrow (panic : Panic) (wide : UInt64) : Except Panic UInt32 :=
  if wide < 4294967296 then .ok wide.toUInt32 else .error panic

def add (first second : UInt32) : Except Panic UInt32 :=
  narrow .addition (first.toUInt64 + second.toUInt64)

def mul (first second : UInt32) : Except Panic UInt32 :=
  narrow .multiplication (first.toUInt64 * second.toUInt64)

/-- Count on; a counter that has passed its end has become smaller. -/
@[inline] def count (counter amount : UInt64) : Except Panic UInt64 :=
  if counter ≤ counter + amount then .ok (counter + amount) else .error .addition

end Checked

/-! ## Listeners -/

/-- Whatever notes are told to. -/
class Listener (σ : Type) where
  hear : σ → Log.Note → σ

/-- Nobody listens. -/
instance : Listener Unit where
  hear _ _ := ()

/-- Every note is kept, in order. -/
instance : Listener (Array Log.Note) where
  hear := Array.push

/-- Operations that tell notes and may end in a panic. -/
abbrev Telling (σ : Type) : Type → Type :=
  ExceptT Panic (StateM σ)

variable {σ : Type} [Listener σ]

@[inline] def tell (note : Log.Note) : Telling σ Unit :=
  fun listener => (.ok (), Listener.hear listener note)

end Cabinet
