import Cabinet.Json.Problem
import Cabinet.Text.Hex

/-!
# Errors

Why a description, a file, a mount point or a saved state is refused. Running a
board never fails.
-/

namespace Cabinet

/-- Why the file system refuses a request. -/
inductive FileError where
  | notFound
  | notDirectory
  | isDirectory
  | notText
  | nameTooLong
  | nullInName
  | other (message : String)
deriving DecidableEq, Inhabited

/-- The kind of a region of the address space. -/
inductive RegionKind where
  | rom | ram | video
deriving DecidableEq, Inhabited

/-- What is wrong with a region. -/
inductive RegionFault where
  | endBeforeStart
  | emptyToken
  | sizeMisfit (size span : Nat)
deriving DecidableEq, Inhabited

inductive BoardError where
  | config (problem : Json.Problem)
  | invalidRegion (kind : RegionKind) (start stop : UInt16) (fault : RegionFault)
  | invalidInterruptPeriod (vector : UInt8)
  | invalidDisplay (width height : UInt32)
  | invalidTiming (clockHz refreshHz : UInt32)
  | invalidMountPoint (id : String)
  | stateMismatch (expected found : String)
  | unsupportedStateVersion (version : UInt32)
  | unknownPreset (key : String)
  | files (error : FileError)

namespace FileError

def message : FileError → String
  | .notFound => "No such file or directory (os error 2)"
  | .notDirectory => "Not a directory (os error 20)"
  | .isDirectory => "Is a directory (os error 21)"
  | .notText => "stream did not contain valid UTF-8"
  | .nameTooLong => "File name too long (os error 36)"
  | .nullInName => "file name contained an unexpected NUL byte"
  | .other message => message

end FileError

namespace RegionKind

def name : RegionKind → String
  | .rom => "ROM"
  | .ram => "RAM"
  | .video => "video"

end RegionKind

namespace RegionFault

def message : RegionFault → String
  | .endBeforeStart => "end before start"
  | .emptyToken => "empty fileMatch"
  | .sizeMisfit size span => s!"size {size} does not fit a {span}-byte span"

end RegionFault

namespace BoardError

def message : BoardError → String
  | .config problem => s!"Invalid hardware config: {problem.message}"
  | .invalidRegion kind start stop fault =>
      s!"Invalid {kind.name} region 0x{Hex.word start}-0x{Hex.word stop}: {fault.message}"
  | .invalidInterruptPeriod vector =>
      s!"Interrupt vector {vector.toNat} has a period of 0 frames"
  | .invalidDisplay width height => s!"Invalid display size {width.toNat}x{height.toNat}"
  | .invalidTiming clockHz refreshHz =>
      s!"Invalid frame timing: {clockHz.toNat} Hz clock at {refreshHz.toNat} Hz refresh"
  | .invalidMountPoint id => s!"Invalid mount point: {id}"
  | .stateMismatch expected found => s!"Save state is for {found}, running {expected}"
  | .unsupportedStateVersion version => s!"Unsupported save state version {version.toNat}"
  | .unknownPreset key => s!"Unknown preset: {key}"
  | .files error => s!"ROM source error: {error.message}"

end BoardError

end Cabinet
