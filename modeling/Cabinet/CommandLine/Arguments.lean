import Cabinet.Text.Ascii

/-!
# Arguments

What the words of a command line ask for. Long options stand anywhere among the
words; a value follows as the next word or behind an equals sign, and a next
word that begins with a dash is no value unless it is a lone dash. After `--`
every word is taken as it is. The first thing that is wrong is reported.
-/

namespace Cabinet.CommandLine

/--
What a command line asks for. The game is a key or the path of a description. Its images are
in a folder, its buttons are held during the whole run, and its state is taken from a file
and saved to one. Notes are chosen by one level for everything and by levels for single
categories, and may go to a file. With `list` nothing is done but to list the known games.
-/
structure Arguments where
  game : Option String := none
  roms : Option String := none
  frames : UInt32 := 60
  press : List String := []
  load : Option String := none
  save : String := "state.json"
  debug : Bool := false
  quiet : Bool := false
  logLevel : String := "warn"
  log : List String := []
  logFile : Option String := none
  list : Bool := false
deriving DecidableEq, Inhabited

inductive Flag where
  | roms | frames | press | load | save | debug | quiet | logLevel | log | logFile | list | help
deriving DecidableEq, Inhabited

/-- What is wrong with a command line. -/
inductive Misuse where
  | unknown (word : String)
  | missingValue (flag : Flag)
  | unexpectedValue (flag : Flag)
  | repeated (flag : Flag)
  | badValue (flag : Flag) (value : String)
deriving DecidableEq, Inhabited

/-- What a command line asks for. -/
inductive Request where
  | help
  | run (arguments : Arguments)
deriving DecidableEq, Inhabited

namespace Flag

def all : List Flag := [
  .roms, .frames, .press, .load, .save, .debug, .quiet, .logLevel, .log, .logFile, .list, .help]

/-- The name without its two dashes. -/
def name : Flag → String
  | .roms => "roms" | .frames => "frames" | .press => "press" | .load => "load"
  | .save => "save" | .debug => "debug" | .quiet => "quiet" | .logLevel => "log-level"
  | .log => "log" | .logFile => "log-file" | .list => "list" | .help => "help"

def ofName? (name : String) : Option Flag :=
  all.find? fun flag => flag.name == name

/-- Whether a value belongs to the flag. -/
def takesValue : Flag → Bool
  | .debug | .quiet | .list | .help => false
  | _ => true

/-- Whether the flag may be given more than once. -/
def repeats : Flag → Bool
  | .press | .log => true
  | _ => false

end Flag

namespace Misuse

def message : Misuse → String
  | .unknown word => s!"unexpected argument '{word}'"
  | .missingValue flag => s!"a value is required for '--{flag.name}'"
  | .unexpectedValue flag => s!"'--{flag.name}' takes no value"
  | .repeated flag => s!"'--{flag.name}' cannot be used more than once"
  | .badValue flag value => s!"invalid value '{value}' for '--{flag.name}'"

end Misuse

/-- A number of frames: digits with an optional sign, in the range of 32 bits. -/
def frameCount? (text : String) : Option UInt32 := do
  let count ← match text.toList with
    | '-' :: digits => do
        let value ← Text.natural? digits
        if value = 0 then some 0 else none
    | signed => Text.natural? (Text.dropPlus signed)
  if count < UInt32.size then some (UInt32.ofNat count) else none

/-- The arguments so far and the flags they came from. -/
structure Given where
  arguments : Arguments := {}
  used : List Flag := []

namespace Given

/-- Mark a flag as used, unless it may not be used again. -/
def mark (given : Given) (flag : Flag) : Except Misuse Given :=
  if given.used.contains flag && !flag.repeats then .error (.repeated flag)
  else .ok { given with used := flag :: given.used }

/-- Take the value of a flag. A path must not be empty where it names a place to look at. -/
def withValue (given : Given) (flag : Flag) (value : String) : Except Misuse Given := do
  let marked ← given.mark flag
  let arguments := marked.arguments
  let arguments ← match flag with
    | .roms =>
        if value = "" then .error (.badValue flag value)
        else .ok { arguments with roms := some value }
    | .logFile =>
        if value = "" then .error (.badValue flag value)
        else .ok { arguments with logFile := some value }
    | .frames =>
        match frameCount? value with
        | some frames => .ok { arguments with frames }
        | none => .error (.badValue flag value)
    | .press => .ok { arguments with press := arguments.press ++ [value] }
    | .log => .ok { arguments with log := arguments.log ++ [value] }
    | .load => .ok { arguments with load := some value }
    | .save => .ok { arguments with save := value }
    | .logLevel => .ok { arguments with logLevel := value }
    | .debug | .quiet | .list | .help => .error (.unexpectedValue flag)
  return { marked with arguments }

/-- Take a flag without a value. -/
def withFlag (given : Given) (flag : Flag) : Except Misuse Given := do
  let marked ← given.mark flag
  let arguments := marked.arguments
  let arguments := match flag with
    | .debug => { arguments with debug := true }
    | .quiet => { arguments with quiet := true }
    | .list => { arguments with list := true }
    | _ => arguments
  return { marked with arguments }

/-- Take a word that is no flag; there is room for one. -/
def withWord (given : Given) (word : String) : Except Misuse Given :=
  match given.arguments.game with
  | some _ => .error (.unknown word)
  | none => .ok { given with arguments := { given.arguments with game := some word } }

/-- Take words as they are. -/
def withWords (given : Given) : List String → Except Misuse Given
  | [] => .ok given
  | word :: words => do (← given.withWord word).withWords words

end Given

/-- The shape of a word; two dashes end the flags. -/
inductive Word where
  | stop
  | long (name : String) (value : Option String)
  | short (letters : List Char)
  | plain

/-- The parts of a text before and after the first equals sign. -/
def splitEquals (text : List Char) : String × Option String :=
  match text.span (· != '=') with
  | (before, _ :: after) => (String.ofList before, some (String.ofList after))
  | (before, []) => (String.ofList before, none)

def Word.ofText (text : String) : Word :=
  match text.toList with
  | ['-', '-'] => .stop
  | '-' :: '-' :: rest =>
      let (name, value) := splitEquals rest
      .long name value
  | '-' :: letter :: letters => .short (letter :: letters)
  | _ => .plain

/-- Read words one after another. -/
def readWords (given : Given) : List String → Except Misuse Request
  | [] => .ok (.run given.arguments)
  | word :: words =>
      match Word.ofText word with
      | .plain => do readWords (← given.withWord word) words
      | .stop => do return .run (← given.withWords words).arguments
      | .short letters =>
          if letters.head? = some 'h' then .ok .help else .error (.unknown word)
      | .long name attached =>
          match Flag.ofName? name, attached with
          | none, _ => .error (.unknown word)
          | some .help, none => .ok .help
          | some flag, some value => do
              if flag.takesValue then readWords (← given.withValue flag value) words
              else .error (.unexpectedValue flag)
          | some flag, none =>
              if flag.takesValue then
                match words with
                | [] => .error (.missingValue flag)
                | value :: words =>
                    match Word.ofText value with
                    | .plain => do readWords (← given.withValue flag value) words
                    | _ => .error (.missingValue flag)
              else do readWords (← given.withFlag flag) words

/-- What the words of a command line ask for. -/
def Request.ofWords (words : List String) : Except Misuse Request :=
  readWords {} words

end Cabinet.CommandLine
