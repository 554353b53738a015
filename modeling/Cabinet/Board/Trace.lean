import Cabinet.Board.Mount
import Cabinet.Board.Save

/-!
# Notes about a board

What a board has to say about changing the game, and the summary of its state that
is shown on demand.
-/

namespace Cabinet.Board

open Log

/-- What is said when another game takes the place of the running one. -/
def switchNotes (board : Board) (game : Game) : List Note :=
  ⟨.bus, .info, fun _ => s!"Switching from {board.config.name} to {game.config.name}"⟩ ::
    game.powerOnNotes

/-! ## Summary -/

def cpuSummary (cpu : Cpu) : Json :=
  .object [
    ("a", .ofNat cpu.a.toNat),
    ("bc", .ofNat cpu.bc.toNat),
    ("cycles", .ofNat cpu.cycles.toNat),
    ("de", .ofNat cpu.de.toNat),
    ("flags", .ofNat cpu.flags.toNat),
    ("halted", .bool cpu.halted),
    ("hl", .ofNat cpu.hl.toNat),
    ("inte", .bool cpu.enabled),
    ("pc", .ofNat cpu.pc.toNat),
    ("pending_interrupt", .ofOption (fun vector => .ofNat vector.toNat) cpu.pending),
    ("sp", .ofNat cpu.sp.toNat)]

def deviceSummary (devices : Devices) : Json :=
  .object [
    ("coins_counted", .ofNat devices.coinsCounted.toNat),
    ("color_bank", .ofNat devices.colorBank.toNat),
    ("flip_screen", .bool devices.flipScreen),
    ("shift_offset", .ofNat devices.shifter.offset.toNat),
    ("shift_value", .ofNat devices.shifter.value.toNat),
    ("sound", .array (devices.sound.toList.map fun latch => .ofNat latch.toNat)),
    ("watchdog_resets", .ofNat devices.watchdogResets.toNat)]

/-- The state that is shown on demand. -/
def summary (board : Board) : Json :=
  .object [
    ("cpu", cpuSummary board.machine.cpu),
    ("cycles_per_frame", .ofNat board.budget),
    ("devices", deviceSummary board.devices),
    ("frame", .ofNat board.frameIndex.toNat),
    ("game", .string board.config.name),
    ("last_frame_cycles", .ofNat board.lastFrameCycles),
    ("mounted", .array (board.mounted.map .string))]

end Cabinet.Board
