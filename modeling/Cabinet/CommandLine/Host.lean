import Cabinet.FileTree

/-!
# Hosts

What a command needs from its surroundings: two streams for lines, a clock and a few
operations on files. A session is a host that is a value; it keeps its files and
everything that was said, and its clock shows something at every reading.
-/

namespace Cabinet.CommandLine

/--
The surroundings of a command. Lines are printed to the output stream and complained to
the error stream, and the clock counts nanoseconds. The files of a folder are given in
the order of their names; a file that is written is made or replaced, and one that is
appended to is made if it is missing.
-/
class Host (m : Type → Type) where
  print : String → m Unit
  complain : String → m Unit
  now : m Nat
  isFile : String → m Bool
  readText : String → m (Except FileError String)
  romFiles : String → m (Except FileError (List RomFile))
  writeText : String → String → m (Except FileError Unit)
  appendText : String → String → m (Except FileError Unit)

/-- A command that may fail has the surroundings of one that may not. -/
instance {ε : Type} {m : Type → Type} [Monad m] [Host m] : Host (ExceptT ε m) where
  print line := liftM (Host.print line : m Unit)
  complain line := liftM (Host.complain line : m Unit)
  now := liftM (Host.now : m Nat)
  isFile path := liftM (Host.isFile path : m Bool)
  readText path := liftM (Host.readText path : m _)
  romFiles path := liftM (Host.romFiles path : m _)
  writeText path text := liftM (Host.writeText path text : m _)
  appendText path text := liftM (Host.appendText path text : m _)

/-- Files, a clock with the number of its readings and the lines so far, the latest first. -/
structure Session where
  files : FileTree := .ofHome .empty
  clock : Nat → Nat := id
  readings : Nat := 0
  printed : List String := []
  complained : List String := []

namespace Session

/-- Change a file if that is possible. -/
def update (path : String) (change : Content → Content) :
    StateM Session (Except FileError Unit) := fun session =>
  match session.files.update path change with
  | .ok files => (.ok (), { session with files })
  | .error error => (.error error, session)

instance : Host (StateM Session) where
  print line := modify fun session => { session with printed := line :: session.printed }
  complain line := modify fun session => { session with complained := line :: session.complained }
  now := modifyGet fun session =>
    (session.clock session.readings, { session with readings := session.readings + 1 })
  isFile path := return (← get).files.isFile path
  readText path := return (← get).files.readText path
  romFiles path := return (← get).files.romFiles path
  writeText path text := update path fun _ => Content.empty.add text.toUTF8
  appendText path text := update path fun content => content.add text.toUTF8

end Session

end Cabinet.CommandLine
