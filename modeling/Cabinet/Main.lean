import Cabinet.CommandLine.Run

/-!
# The program

The command line over the files and streams of the process.
-/

namespace Cabinet.CommandLine

/-- Why the file system refused. -/
def fileError : IO.Error → FileError
  | .noFileOrDirectory .. => .notFound
  | .inappropriateType _ code _ => if code = 21 then .isDirectory else .notDirectory
  | error@(.invalidArgument _ code _) =>
      if code = 36 then .nameTooLong else .other (toString error)
  | error => .other (toString error)

/-- An action on files with its refusal as a value. -/
def attempt {α : Type} (action : IO α) : IO (Except FileError α) := do
  match ← action.toBaseIO with
  | .ok value => return .ok value
  | .error error => return .error (fileError error)

/-- The text that bytes encode. -/
def textOfBytes (bytes : ByteArray) : Except FileError String :=
  match String.fromUTF8? bytes with
  | some text => .ok text
  | none => .error .notText

/-- The files directly in a folder in the order of their names. -/
def filesOfFolder (path : String) : IO (List RomFile) := do
  let entries ← (System.mkFilePath [path]).readDir
  let mut files := []
  for entry in entries do
    if (← entry.path.metadata).type == .file then
      let bytes ← IO.FS.readBinFile entry.path
      files := ⟨entry.fileName, bytes.toList⟩ :: files
  return files.mergeSort fun first second => first.name ≤ second.name

/-- Whether a path leads to a file. -/
def leadsToFile (path : String) : IO Bool := do
  match ← (System.mkFilePath [path]).metadata.toBaseIO with
  | .ok metadata => return metadata.type == .file
  | .error _ => return false

/-- Add to the end of a file. -/
def appendToFile (path text : String) : IO Unit := do
  let handle ← IO.FS.Handle.mk path .append
  handle.putStr text

instance : Host IO where
  print line := IO.println line
  complain line := IO.eprintln line
  now := IO.monoNanosNow
  isFile path := leadsToFile path
  readText path := do return (← attempt (IO.FS.readBinFile path)).bind textOfBytes
  romFiles path := attempt (filesOfFolder path)
  writeText path text := attempt (IO.FS.writeFile path text)
  appendText path text := attempt (appendToFile path text)

end Cabinet.CommandLine

def main (words : List String) : IO UInt32 :=
  Cabinet.CommandLine.start words
