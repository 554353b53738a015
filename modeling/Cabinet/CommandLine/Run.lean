import Cabinet.Board.Trace
import Cabinet.CommandLine.Arguments
import Cabinet.CommandLine.Host
import Cabinet.Config.Format
import Cabinet.Json.Printer
import Cabinet.Preset

/-!
# Commands

Run a game for a number of frames and save its state, or list the known games.
A failure ends the command; what was written until then stays.
-/

namespace Cabinet.CommandLine

variable {m : Type → Type} [Monad m] [Host m]

/-- Why a command ends before its end. -/
inductive Failure where
  | refused (message : String)
  | panicked (panic : Panic)

/-- A command that may fail. -/
abbrev Task (m : Type → Type) : Type → Type :=
  ExceptT Failure m

/-- Fail in place of an error. -/
def orFail {ε α : Type} (failure : ε → Failure) : Except ε α → Task m α
  | .ok value => pure value
  | .error error => throw (failure error)

/-! ## Notes -/

/-- Which notes are written down, and the file they go to instead of the error stream. -/
structure Notebook where
  gate : Log.Gate
  file : Option String

/-- The level that a text names, or the message about it. -/
def readLevel (text : String) : Except String Log.Level :=
  match Log.Level.ofText? text with
  | some level => .ok level
  | none => .error s!"Unknown log level: {text}"

/-- The category and the level on the two sides of the first equals sign. -/
def readChoice (text : String) : Except String (Log.Category × Log.Level) :=
  match splitEquals text.toList with
  | (_, none) => .error s!"Expected CATEGORY=LEVEL, got {text}"
  | (name, some level) =>
      match Log.Category.ofText? name with
      | none => .error s!"Unknown log category: {name}"
      | some category => (readLevel level).map fun level => (category, level)

/-- The table of levels that the arguments ask for. -/
def readLevels (arguments : Arguments) : Except String Log.Levels := do
  let base := Log.Levels.silent.setOverall (← readLevel arguments.logLevel)
  arguments.log.foldlM (fun levels text => do
    let (category, level) ← readChoice text
    return levels.set category level) base

/-- Choose the notes and open their file. -/
def openNotebook (arguments : Arguments) : Task m Notebook := do
  let levels ← orFail .refused (readLevels arguments)
  match arguments.logFile with
  | none => pure ()
  | some path =>
      orFail (fun _ => .refused s!"Cannot open log file {path}") (← Host.appendText path "")
  return ⟨{ levels }, arguments.logFile⟩

namespace Notebook

/-- Write down a line. -/
def put (notebook : Notebook) (line : Log.Line) : m Unit :=
  match notebook.file with
  | none => Host.complain line.text
  | some path => discard (Host.appendText path (line.text ++ "\n"))

/-- Write down what the gate lets through of a note. -/
def note (notebook : Notebook) (note : Log.Note) : m Notebook := do
  if notebook.gate.shows note then
    let (lines, gate) := notebook.gate.judge note (← Host.now)
    lines.forM notebook.put
    return { notebook with gate }
  else return notebook

/-- Write down notes, in order. -/
def write (notebook : Notebook) (notes : List Log.Note) : m Notebook :=
  notes.foldlM note notebook

end Notebook

/-! ## Running a game -/

/-- The game with a key or the one that a file describes. -/
def findGame (name : String) : Task m Game := do
  match Preset.find? name with
  | some preset => return preset.game
  | none =>
      if ← Host.isFile name then
        let text ← orFail (fun _ => .refused s!"Cannot read {name}") (← Host.readText name)
        let config ← orFail (fun _ => .refused s!"Invalid hardware config {name}")
          (Config.ofText text)
        return { config }
      else throw (.refused s!"Unknown game: {name} (not a preset or a config file)")

/-- Load the program images of a folder. -/
def loadFolder (notebook : Notebook) (board : Board) (path : String) :
    Task m (Notebook × Board) := do
  let files ← orFail (fun error => .refused (BoardError.files error).message)
    (← Host.romFiles path)
  let notebook ← notebook.write (board.loadNotes files)
  return (notebook, board.loadRoms files)

/-- Take back the state that a file holds. -/
def loadState (board : Board) (path : String) : Task m Board := do
  let text ← orFail (fun _ => .refused s!"Cannot read {path}") (← Host.readText path)
  let value ← orFail (fun problem => .refused problem.message) (Json.parse text)
  orFail (fun _ => .refused s!"Cannot restore {path}") (board.load value)

/-- The lines about a frame that was just run. -/
def frameLines (number : Nat) (frame : Frame) (board : Board) : List String :=
  [s!"Frame {number}: {frame.width.toNat}x{frame.height.toNat}, {frame.litCount} lit pixels" ++
      s!", {board.lastFrameCycles} cycles",
    s!"DEBUG STATE (frame {number}):",
    board.summary.indented]

/-- Run a frame and write down what is said meanwhile. -/
def runFrame (notebook : Notebook) (board : Board) : Task m (Notebook × Frame × Board) := do
  let (outcome, notes) := (board.runFrameM : Telling (Array Log.Note) _) #[]
  let notebook ← notebook.write notes.toList
  let (frame, board) ← orFail .panicked outcome
  return (notebook, frame, board)

/-- Run frames after `finished` ones. -/
def runFrames (notebook : Notebook) (verbose : Bool) (board : Board) (finished : Nat) :
    Nat → Task m (Notebook × Board)
  | 0 => pure (notebook, board)
  | count + 1 => do
      let (notebook, frame, board) ← runFrame notebook board
      if verbose then (frameLines (finished + 1) frame board).forM Host.print
      runFrames notebook verbose board (finished + 1) count

/-- The line about the whole run. -/
def runLine (board : Board) : String :=
  let info := board.game.displayInfo
  let screen := if info.color then "colour" else "monochrome"
  s!"Ran {board.frameIndex.toNat} frames of {board.config.name}" ++
    s!" (rotation {info.rotation.toNat}, {screen})"

/-- Run a game and save its state. -/
def runGame (arguments : Arguments) (name : String) : Task m Unit := do
  let notebook ← openNotebook arguments
  let game ← findGame name
  let notebook ← notebook.write game.powerOnNotes
  let board := Board.new game
  let (notebook, board) ← match arguments.roms with
    | some path => loadFolder notebook board path
    | none => pure (notebook, board)
  let board ← match arguments.load with
    | some path => loadState board path
    | none => pure board
  let board := board.setInput (.ofList (arguments.press.map (·, true)))
  let verbose := arguments.debug && !arguments.quiet
  let (_, board) ← runFrames notebook verbose board 0 arguments.frames.toNat
  unless arguments.quiet do Host.print (runLine board)
  orFail (fun error => .refused error.message)
    (← Host.writeText arguments.save board.save.indented)

/-! ## Commands as a whole -/

/-- A text with blanks behind it up to a width. -/
def padded (width : Nat) (text : String) : String :=
  text ++ String.ofList (List.replicate (width - text.length) ' ')

/-- The line that lists a known game. -/
def presetLine (preset : Preset) : String :=
  let config := preset.game.config
  let maker := config.manufacturer.getD "unknown"
  let year := (config.year.map fun year => toString year.toNat).getD ""
  let tokens := ", ".intercalate (config.memory.rom.map RomRegion.fileMatch)
  s!"{padded 14 preset.key} {config.name} ({maker}, {year}) roms: {tokens}"

/-- Do what the arguments ask for. -/
def perform (arguments : Arguments) : Task m Unit :=
  if arguments.list then (Preset.all.map presetLine).forM Host.print
  else
    match arguments.game with
    | some name => runGame arguments name
    | none => throw (.refused "No game given; use --list to see the presets")

/-- How the command is used. -/
def usage : String :=
  "Usage: cabinet [GAME] [--roms DIR] [--frames N] [--press BUTTON]... [--load FILE]\n" ++
  "               [--save FILE] [--debug] [--quiet] [--log-level LEVEL]\n" ++
  "               [--log CATEGORY=LEVEL]... [--log-file FILE] [--list]"

/-- Run a command line; the result is the exit code. -/
def start (words : List String) : m UInt32 := do
  match Request.ofWords words with
  | .error misuse =>
      Host.complain s!"error: {misuse.message}"
      Host.complain usage
      return 2
  | .ok .help =>
      Host.print usage
      return 0
  | .ok (.run arguments) =>
      match ← (perform arguments).run with
      | .ok () => return 0
      | .error (.refused message) =>
          Host.complain s!"Error: {message}"
          return 1
      | .error (.panicked panic) =>
          Host.complain panic.message
          return 101

end Cabinet.CommandLine
