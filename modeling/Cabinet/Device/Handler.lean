import Cabinet.Text.Ascii

/-!
# Port handlers

What a port is connected to. A configuration names handlers; a name stands for
the first override that has it, and otherwise for what the common registry says.
Sound channels are named `sound_1` to `sound_8`.
-/

namespace Cabinet

/--
What an input port reads. The players' controls are coin, start buttons and the first
player's stick, the cabinet's that stick alone, both with bit 3 always set. The switches may
be joined with the second player's stick, and the first player's buttons with the
periscope's position in the high half.
-/
inductive InHandler where
  | dipSwitches
  | player1
  | player2
  | playerControls
  | coin
  | shiftResult
  | soundStatus
  | watchdog
  | dipWithPlayer2
  | cabinetControls
  | periscopePlayer1
  | stub
deriving DecidableEq, Inhabited

/-- What an output port writes to. -/
inductive OutHandler where
  | shiftOffset
  | shiftData
  | sound (channel : UInt8)
  | watchdogReset
  | coinCounter
  | videoSelect
  | flipScreen
  | colorBank
  | speech
  | speechData
  | stub
deriving DecidableEq, Inhabited

namespace InHandler

/-- The handler that a configuration name stands for without overrides. -/
def ofName? : String → Option InHandler
  | "dip_switches" => some .dipSwitches
  | "player_1" => some .player1
  | "player_2" => some .player2
  | "player_controls" => some .playerControls
  | "coin" => some .coin
  | "shift_register" => some .shiftResult
  | "sound_status" => some .soundStatus
  | "watchdog" => some .watchdog
  | _ => none

end InHandler

/-- The number of sound channels. -/
def soundChannels : Nat := 8

namespace OutHandler

/--
The sound channel that a name stands for. The channel's number may have a plus
sign and zeros in front.
-/
def soundChannel? (name : String) : Option UInt8 := do
  let rest ← "sound_".toList.isPrefixOf? name.toList
  let channel ← Text.byte? rest
  if 1 ≤ channel ∧ channel.toNat ≤ soundChannels then some channel else none

/-- The handler that a configuration name stands for without overrides. -/
def ofName? (name : String) : Option OutHandler :=
  match name with
  | "shift_offset" => some .shiftOffset
  | "shift_data" => some .shiftData
  | "watchdog" | "watchdog_reset" => some .watchdogReset
  | "coin_counter" => some .coinCounter
  | "video_select" => some .videoSelect
  | _ => (soundChannel? name).map .sound

end OutHandler

/-- Names that stand for other handlers on one board, inputs and outputs apart. -/
structure Overrides where
  inputs : List (String × InHandler) := []
  outputs : List (String × OutHandler) := []
deriving DecidableEq, Inhabited

namespace Overrides

/-- Add an input override behind the present ones. -/
def withInput (overrides : Overrides) (name : String) (handler : InHandler) : Overrides :=
  { overrides with inputs := overrides.inputs ++ [(name, handler)] }

/-- Add an output override behind the present ones. -/
def withOutput (overrides : Overrides) (name : String) (handler : OutHandler) : Overrides :=
  { overrides with outputs := overrides.outputs ++ [(name, handler)] }

def isEmpty (overrides : Overrides) : Bool :=
  overrides.inputs.isEmpty && overrides.outputs.isEmpty

/-- The handler of an input name: the first override, or the registry's. -/
def input? (overrides : Overrides) (name : String) : Option InHandler :=
  (overrides.inputs.lookup name).or (InHandler.ofName? name)

/-- The handler of an output name: the first override, or the registry's. -/
def output? (overrides : Overrides) (name : String) : Option OutHandler :=
  (overrides.outputs.lookup name).or (OutHandler.ofName? name)

end Overrides

end Cabinet
