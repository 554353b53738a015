/-!
# Diagnostic notes

A note is a line that a part of the machine has to say about what it is doing.
A gate decides which notes are written down: a table of levels chooses among
them, and of those no more than a certain number of one category pass within a
second. What is held back is counted, and the count is written down from time
to time.
-/

namespace Cabinet.Log

/-- How much is said, from nothing to everything. -/
inductive Level where
  | off | error | warn | info | debug | trace
deriving DecidableEq, Inhabited

/-- The part of the machine that speaks. -/
inductive Category where
  | cpu | bus | io | interrupts | video | stubs
deriving DecidableEq, Inhabited

namespace Level

/-- The position among the levels; a higher one says more. -/
def rank : Level → Nat
  | .off => 0 | .error => 1 | .warn => 2 | .info => 3 | .debug => 4 | .trace => 5

/--
Read a level's name, a common abbreviation or its rank. Case is ignored; no
letter outside ASCII folds to a letter of one of these names.
-/
def ofText? (text : String) : Option Level :=
  match text.map Char.toLower with
  | "off" | "0" => some .off
  | "error" | "err" | "1" => some .error
  | "warn" | "warning" | "2" => some .warn
  | "info" | "3" => some .info
  | "debug" | "4" => some .debug
  | "trace" | "5" => some .trace
  | _ => none

end Level

namespace Category

def name : Category → String
  | .cpu => "CPU" | .bus => "Bus" | .io => "Io"
  | .interrupts => "Interrupts" | .video => "Video" | .stubs => "Stubs"

/-- The position among the categories. -/
def place : Category → Fin 6
  | .cpu => 0 | .bus => 1 | .io => 2 | .interrupts => 3 | .video => 4 | .stubs => 5

/-- Read a category's name or one of its short names, ignoring case. -/
def ofText? (text : String) : Option Category :=
  match text.map Char.toLower with
  | "cpu" => some .cpu
  | "bus" | "mem" | "memory" => some .bus
  | "io" | "ports" => some .io
  | "int" | "irq" | "interrupts" => some .interrupts
  | "video" => some .video
  | "stubs" => some .stubs
  | _ => none

end Category

/-- A level for everything and one for each category. -/
structure Levels where
  overall : Level
  ofCategory : Category → Level

namespace Levels

/-- Nothing is shown. -/
def silent : Levels :=
  ⟨.off, fun _ => .off⟩

def setOverall (levels : Levels) (level : Level) : Levels :=
  { levels with overall := level }

def set (levels : Levels) (category : Category) (level : Level) : Levels :=
  { levels with
    ofCategory := fun other => if other = category then level else levels.ofCategory other }

/-- The level in force: a category's own one unless it is `off`. -/
def effective (levels : Levels) (category : Category) : Level :=
  match levels.ofCategory category with
  | .off => levels.overall
  | level => level

/-- Whether a note of this category and level is shown. -/
def shows (levels : Levels) (category : Category) (level : Level) : Bool :=
  level.rank ≤ (levels.effective category).rank

end Levels

/-- A line with its category and level. The text is made only when it is shown. -/
structure Note where
  category : Category
  level : Level
  text : Unit → String

/-! ## Windows -/

/-- A second as the clock counts it. -/
def second : Nat := 1000000000

/--
What is remembered of one category: when lines were written within the last
second, the earliest first, how many were held back since their number was
written down, and when that was. Times are readings of a clock.
-/
structure Window where
  times : List Nat := []
  dropped : Nat := 0
  reported : Option Nat := none
deriving Inhabited

/-- What becomes of a line: whether it is written, and a count that is written before it. -/
structure Verdict where
  passes : Bool
  report : Option Nat

namespace Window

/-- Forget the lines that were written more than a second ago. -/
def recent (window : Window) (now : Nat) : Window :=
  { window with times := window.times.dropWhile fun time => second < now - time }

/-- Write down how many lines were held back. -/
def reporting (window : Window) (now : Nat) : Window :=
  { window with dropped := 0, reported := some now }

/-- Ask for one more line within the limit. -/
def ask (window : Window) (limit now : Nat) : Verdict × Window :=
  let window := window.recent now
  if window.times.length < limit then
    let kept := { window with times := window.times ++ [now] }
    if 0 < window.dropped then (⟨true, some window.dropped⟩, kept.reporting now)
    else (⟨true, none⟩, kept)
  else
    let kept := { window with dropped := window.dropped + 1 }
    if window.reported.all fun last => second ≤ now - last then
      (⟨false, some kept.dropped⟩, kept.reporting now)
    else (⟨false, none⟩, kept)

end Window

/-! ## Lines -/

/-- What is written down: a note, or how many notes of a category were held back. -/
inductive Line where
  | note (category : Category) (level : Level) (text : String)
  | heldBack (category : Category) (count : Nat)

namespace Line

def ofNote (note : Note) : Line :=
  .note note.category note.level (note.text ())

def text : Line → String
  | .note _ _ text => text
  | .heldBack category count =>
      s!"[{category.name}] WARNING: Rate limit exceeded, {count} log message(s) dropped" ++
        " in the last second"

end Line

/-! ## Gates -/

/-- The levels in force, the number of lines of a category in a second and its windows. -/
structure Gate where
  levels : Levels
  limit : Nat := 60
  windows : Vector Window 6 := Vector.replicate 6 {}

namespace Gate

def window (gate : Gate) (category : Category) : Window :=
  gate.windows[category.place]

/-- Whether the clock is looked at for a note at all. -/
def shows (gate : Gate) (note : Note) : Bool :=
  gate.levels.shows note.category note.level

/-- The lines that a note which is shown comes to at a moment. -/
def judge (gate : Gate) (note : Note) (now : Nat) : List Line × Gate :=
  let (verdict, window) := (gate.window note.category).ask gate.limit now
  let report := (verdict.report.filter (0 < ·)).toList.map (.heldBack note.category)
  let line := if verdict.passes then [.ofNote note] else []
  (report ++ line, { gate with windows := gate.windows.set note.category.place window })

end Gate

end Cabinet.Log
