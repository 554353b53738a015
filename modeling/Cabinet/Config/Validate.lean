import Cabinet.Config.Basic
import Cabinet.Error
import Cabinet.Text.Characters

/-!
# Validation

A description is checked in a fixed order: screen, timing, program regions,
memory regions, picture region, interrupts. The first thing that is wrong is
reported.
-/

namespace Cabinet.Config

/-- A region has to end where it starts or later and to hold between one byte and all of it. -/
def checkRegion (kind : RegionKind) (start stop : UInt16) (size : Nat) : Except BoardError Unit :=
  let span := stop.toNat - start.toNat + 1
  if stop < start then .error (.invalidRegion kind start stop .endBeforeStart)
  else if size = 0 ∨ span < size then
    .error (.invalidRegion kind start stop (.sizeMisfit size span))
  else .ok ()

def checkDisplay (display : Display) : Except BoardError Unit :=
  if display.width = 0 ∨ display.height = 0 then
    .error (.invalidDisplay display.width display.height)
  else .ok ()

/-- A frame has to last at least one clock state. -/
def checkTiming (timing : FrameTiming) : Except BoardError Unit :=
  if timing.clockHz = 0 ∨ timing.refreshHz = 0 ∨ timing.cyclesPerFrame = 0 then
    .error (.invalidTiming timing.clockHz timing.refreshHz)
  else .ok ()

/-- A program region has to have a token that is not blank. -/
def checkRom (region : RomRegion) : Except BoardError Unit := do
  checkRegion .rom region.start region.stop region.size
  if Text.isBlank region.fileMatch then
    .error (.invalidRegion .rom region.start region.stop .emptyToken)

def checkRam (region : RamRegion) : Except BoardError Unit :=
  checkRegion .ram region.start region.stop region.size

def checkVideo (region : VideoRegion) : Except BoardError Unit :=
  match region.stop with
  | none => .ok ()
  | some stop =>
      if stop < region.start then
        .error (.invalidRegion .video region.start stop .endBeforeStart)
      else .ok ()

def checkInterrupt (interrupt : Interrupt) : Except BoardError Unit :=
  if interrupt.period = 0 then .error (.invalidInterruptPeriod interrupt.vector) else .ok ()

/-- Check everything in order. -/
def validate (config : Config) : Except BoardError Unit := do
  checkDisplay config.display
  checkTiming config.timing
  config.memory.rom.forM checkRom
  config.memory.ram.forM checkRam
  config.memory.video.forM checkVideo
  config.interrupts.forM checkInterrupt

end Cabinet.Config
