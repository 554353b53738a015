/-!
# Buttons

A snapshot of the controls: which buttons are held, by name. A button that the
snapshot does not mention is not held, yet a snapshot that mentions it as
released differs from one that does not mention it.
-/

namespace Cabinet

/-- Names with their state, each name at most once when built by `set`. -/
structure Buttons where
  entries : List (String × Bool) := []
deriving DecidableEq, Inhabited

namespace Buttons

/-- The buttons that the port handlers look at. -/
def wellKnown : List String := [
  "p1_up", "p1_down", "p1_left", "p1_right", "p1_fire", "p1_fire2", "p1_start",
  "p2_up", "p2_down", "p2_left", "p2_right", "p2_fire", "p2_fire2", "p2_start",
  "coin1", "coin2", "service", "tilt"]

/-- Record a button's state, forgetting the earlier one. -/
def set (buttons : Buttons) (name : String) (held : Bool) : Buttons :=
  ⟨(name, held) :: buttons.entries.filter fun entry => entry.1 != name⟩

/-- Forget the state of every button. -/
def clear (buttons : Buttons) : Buttons :=
  { buttons with entries := [] }

/-- Record a button as held. -/
def press (buttons : Buttons) (name : String) : Buttons :=
  buttons.set name true

/-- A snapshot from states in order; the last state of a button counts. -/
def ofList (entries : List (String × Bool)) : Buttons :=
  entries.foldl (fun buttons entry => buttons.set entry.1 entry.2) {}

/-- What the snapshot says about a button. -/
def state? (buttons : Buttons) (name : String) : Option Bool :=
  buttons.entries.lookup name

def isHeld (buttons : Buttons) (name : String) : Bool :=
  (buttons.state? name).getD false

/-- Join the bits of the buttons that are held. -/
def mask (buttons : Buttons) (bits : List (String × UInt8)) : UInt8 :=
  (bits.filter fun entry => buttons.isHeld entry.1).foldl (fun sum entry => sum ||| entry.2) 0

/-- Whether two snapshots say the same about every button. -/
def same (first second : Buttons) : Bool :=
  (first.entries ++ second.entries).all fun entry => first.state? entry.1 == second.state? entry.1

end Buttons

end Cabinet
