import Cabinet.Error
import Cabinet.Rom

/-!
# File trees

Folders and files as a value, and paths through them. A path is a row of names
with slashes between them. One that begins with a slash starts at the root of
the tree, any other one at home, a folder below the root whose own name no path
can spell. Empty names and `.` stay where they are and `..` goes back to the
folder above, and all three need a folder to start from. Names and paths have a
greatest length.
-/

namespace Cabinet

/-- What a file holds, in pieces of which the last one comes first: adding to its end is one step. -/
structure Content where
  pieces : List ByteArray
deriving Inhabited

namespace Content

def empty : Content :=
  ⟨[]⟩

/-- Add bytes at the end. -/
def add (content : Content) (bytes : ByteArray) : Content :=
  ⟨bytes :: content.pieces⟩

def toList (content : Content) : List UInt8 :=
  content.pieces.reverse.flatMap fun piece => piece.data.toList

end Content

inductive FileTree where
  | file (content : Content)
  | folder (entries : List (String × FileTree))
deriving Inhabited

namespace FileTree

/-- A folder with nothing in it. -/
def empty : FileTree :=
  .folder []

/-- What a folder has under a name. -/
def entry? : FileTree → String → Option FileTree
  | .file _, _ => none
  | .folder entries, name => entries.lookup name

/-- What is found by going from entry to entry. -/
def at? (tree : FileTree) : List String → Option FileTree
  | [] => some tree
  | name :: names => (tree.entry? name).bind fun inner => inner.at? names

/-- Set an entry of a folder. -/
def setEntry (tree : FileTree) (name : String) (inner : FileTree) : FileTree :=
  match tree with
  | .file content => .file content
  | .folder entries => .folder ((name, inner) :: entries.filter fun entry => entry.1 != name)

/-- Put something at a place, with the folders that lead to it. -/
def put (tree : FileTree) (inner : FileTree) : List String → FileTree
  | [] => inner
  | name :: names =>
      tree.setEntry name (((tree.entry? name).getD empty).put inner names)

/-- The names of a path. -/
def names (path : String) : List String :=
  path.splitOn "/"

/-- The most bytes that a name can have. -/
def nameLimit : Nat := 255

/-- The most bytes that a path can have. -/
def pathLimit : Nat := 4095

/-- What is refused before any name of a path is looked up. -/
def checkPath (path : String) : Except FileError Unit :=
  if path.toList.contains '\x00' then .error .nullInName
  else if path = "" then .error .notFound
  else if pathLimit < path.utf8ByteSize then .error .nameTooLong
  else .ok ()

/-- Follow names from a place in the tree to the place they lead to. -/
def locate (tree : FileTree) (place : List String) : List String → Except FileError (List String)
  | [] => .ok place
  | name :: names =>
      match tree.at? place with
      | some (.folder entries) =>
          if name = "" ∨ name = "." then tree.locate place names
          else if name = ".." then tree.locate place.dropLast names
          else if nameLimit < name.utf8ByteSize then .error .nameTooLong
          else if (entries.lookup name).isSome then tree.locate (place ++ [name]) names
          else .error .notFound
      | _ => .error .notDirectory

/-- The place of the folder where a path begins that has no slash in front. -/
def home : List String :=
  [""]

/-- A tree that has something at home and nothing else. -/
def ofHome (inner : FileTree) : FileTree :=
  .folder [("", inner)]

/-- The place where a path begins. -/
def start (path : String) : List String :=
  if path.startsWith "/" then [] else home

/-- What a path leads to. -/
def find (tree : FileTree) (path : String) : Except FileError FileTree := do
  checkPath path
  let place ← tree.locate (start path) (names path)
  match tree.at? place with
  | some inner => .ok inner
  | none => .error .notFound

/-- Whether a path leads to a file. -/
def isFile (tree : FileTree) (path : String) : Bool :=
  match tree.find path with
  | .ok (.file _) => true
  | _ => false

/-- The bytes of a file. -/
def read (tree : FileTree) (path : String) : Except FileError (List UInt8) := do
  match ← tree.find path with
  | .file content => .ok content.toList
  | .folder _ => .error .isDirectory

/-- The text of a file. -/
def readText (tree : FileTree) (path : String) : Except FileError String := do
  let bytes ← tree.read path
  match String.fromUTF8? ⟨bytes.toArray⟩ with
  | some text => .ok text
  | none => .error .notText

/-- Names without the empty ones at their end. -/
def dropTrailing (names : List String) : List String :=
  (names.reverse.dropWhile (· = "")).reverse

/--
Change what a file holds; a file that is missing is made, as if it had been
empty. A path that ends in a slash cannot name a file.
-/
def update (tree : FileTree) (path : String) (change : Content → Content) :
    Except FileError FileTree := do
  checkPath path
  let parts := names path
  let used := dropTrailing parts
  let place ← tree.locate (start path) used.dropLast
  match tree.at? place, used.getLast? with
  | some (.folder entries), some name =>
      if used.length < parts.length ∨ name = "." ∨ name = ".." then .error .isDirectory
      else if nameLimit < name.utf8ByteSize then .error .nameTooLong
      else
        match entries.lookup name with
        | some (.folder _) => .error .isDirectory
        | some (.file content) => .ok (tree.put (.file (change content)) (place ++ [name]))
        | none => .ok (tree.put (.file (change .empty)) (place ++ [name]))
  | some (.folder _), none => .error .isDirectory
  | _, _ => .error .notDirectory

/-- The files among some entries. -/
def filesOf : List (String × FileTree) → List RomFile
  | [] => []
  | (name, .file content) :: entries => ⟨name, content.toList⟩ :: filesOf entries
  | (_, .folder _) :: entries => filesOf entries

/-- The files directly in a folder in the order of their names. -/
def romFiles (tree : FileTree) (path : String) : Except FileError (List RomFile) := do
  match ← tree.find path with
  | .folder entries =>
      .ok ((filesOf entries).mergeSort fun first second => first.name ≤ second.name)
  | .file _ => .error .notDirectory

end FileTree

end Cabinet
