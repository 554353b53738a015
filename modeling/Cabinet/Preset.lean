import Cabinet.Error
import Cabinet.Game

/-!
# Known games

The games that need no description of their own. Each has a key; keys are found
without regard to the case of their letters.
-/

namespace Cabinet

/-- A game with the key that it is found by. -/
structure Preset where
  key : String
  game : Game
deriving DecidableEq, Inhabited

namespace Preset

/-- A monochrome screen that is mounted with a quarter turn. -/
def turnedScreen : Display :=
  { width := 224, height := 256, rotation := 90, color := false }

/-- A screen that is not turned. -/
def flatScreen (color : Bool) : Display :=
  { width := 256, height := 224, rotation := 0, color }

/-- A program region that one image fills. -/
def romAt (start : UInt16) (size : Nat) (token : String) : RomRegion :=
  ⟨start, start + UInt16.ofNat (size - 1), size, token⟩

def ramAt (start : UInt16) (size : Nat) : RamRegion :=
  ⟨start, start + UInt16.ofNat (size - 1), size⟩

/-- Vector 1 on every other frame. -/
def everyOtherFrame : Interrupt :=
  ⟨1, 2⟩

/-- Vector 2 on every frame and vector 1 in its place on every other frame. -/
def twoVectors : List Interrupt :=
  [⟨2, 1⟩, everyOtherFrame]

/-- Ports 0 to 2 with the players' controls and the coin slot. -/
def plainInputs : Wiring :=
  .ofList [(0, "player_1"), (1, "player_2"), (2, "coin")]

def spaceInvaders : Config where
  name := "Space Invaders"
  year := some 1978
  manufacturer := some "Midway"
  display := turnedScreen
  memory := {
    rom := [
        romAt 0x0000 2048 "invaders.h",
        romAt 0x0800 2048 "invaders.g",
        romAt 0x1000 2048 "invaders.f",
        romAt 0x1800 2048 "invaders.e"]
    ram := [ramAt 0x2000 1024]
    video := some { start := 0x2400, stop := some 0x3FFF, format := some .mono } }
  ports := {
    inputs := .ofList [(1, "player_controls"), (2, "dip_switches"), (3, "shift_register")]
    outputs := .ofList [
        (2, "shift_offset"), (3, "sound_1"), (4, "shift_data"),
        (5, "sound_2"), (6, "watchdog_reset")] }
  interrupts := twoVectors
  dip := 8

def alienInvasion : Config where
  name := "Alien Invasion"
  year := some 1978
  manufacturer := some "Midway"
  display := turnedScreen
  memory := {
    rom := [romAt 0x0000 8192 "alien"]
    ram := [ramAt 0x2000 1024]
    video := some { start := 0x2400, stop := some 0x3FFF, format := some .mono } }
  ports := {
    inputs := .ofList [(1, "dip_switches"), (2, "player_controls"), (3, "shift_register")]
    outputs := .ofList [
        (2, "shift_offset"), (3, "sound_1"), (4, "shift_data"),
        (5, "sound_2"), (6, "sound_3")] }
  interrupts := twoVectors
  dip := 8

def gunFight : Config where
  name := "Gun Fight"
  year := some 1975
  manufacturer := some "Midway"
  display := flatScreen false
  memory := {
    rom := [romAt 0x0000 2048 "gunfight.1", romAt 0x0800 2048 "gunfight.2"]
    ram := [ramAt 0x8000 1024]
    video := some { start := 0x8000, format := some .mono } }
  ports := {
    inputs := plainInputs
    outputs := .ofList [(0, "sound_1"), (1, "sound_2")] }
  interrupts := [everyOtherFrame]

def seaWolf : Config where
  name := "Sea Wolf"
  year := some 1976
  manufacturer := some "Midway"
  display := flatScreen false
  memory := {
    rom := [romAt 0x0000 4096 "seawolf"]
    ram := [ramAt 0x8000 1024]
    video := some { start := 0x8000, format := some .mono } }
  ports := {
    inputs := plainInputs
    outputs := .ofList [(0, "sound_1"), (1, "sound_2"), (2, "torpedo_sound")] }
  interrupts := [everyOtherFrame]

def lupin : Config where
  name := "Lupin III"
  year := some 1980
  manufacturer := some "Taito"
  display := flatScreen true
  memory := {
    rom := [romAt 0x0000 8192 "lupin"]
    ram := [ramAt 0x8000 1024]
    video := some { start := 0x8800, format := some .color } }
  ports := {
    inputs := plainInputs
    outputs := .ofList [(0, "sound_1"), (1, "sound_2"), (2, "video_select"), (3, "color_bank")] }
  interrupts := [everyOtherFrame]

def stratovox : Config where
  name := "Stratovox"
  year := some 1980
  manufacturer := some "Taito"
  display := flatScreen false
  memory := {
    rom := [romAt 0x0000 8192 "strat"]
    ram := [ramAt 0x8000 1024]
    video := some { start := 0x8400, format := some .mono } }
  ports := {
    inputs := plainInputs
    outputs := .ofList [(0, "sound_1"), (1, "sound_2"), (2, "speech"), (3, "speech_data")] }
  interrupts := [everyOtherFrame]

def spaceFury : Config where
  name := "Space Fury"
  year := some 1978
  manufacturer := some "Sega"
  display := flatScreen false
  memory := {
    rom := [romAt 0x0000 8192 "fury"]
    ram := [ramAt 0x8000 1024]
    video := some { start := 0x8000, format := some .mono } }
  ports := {
    inputs := plainInputs
    outputs := .ofList [(0, "sound_1"), (1, "sound_2"), (2, "sound_3"), (3, "sound_4")] }
  interrupts := [everyOtherFrame, ⟨2, 4⟩]

def galaxian : Config where
  name := "Galaxian"
  year := some 1979
  manufacturer := some "Namco"
  display := flatScreen true
  memory := {
    rom := [romAt 0x0000 16384 "gal"]
    ram := [ramAt 0x4000 2048]
    video := some {
        start := 0x4000, tilemap := some 0x4400,
        sprites := some 0x4600, patterns := some 0x5000 } }
  ports := {
    inputs := plainInputs
    outputs := .ofList [(0, "sound_1"), (1, "sound_2"), (2, "sound_3"), (3, "flip_screen")] }
  interrupts := [everyOtherFrame]

/-- All known games in their listed order. -/
def all : List Preset := [
  ⟨"invaders", {
    config := spaceInvaders
    overrides := { inputs := [("dip_switches", .dipWithPlayer2)] } }⟩,
  ⟨"alieninvasion", {
    config := alienInvasion
    overrides := { inputs := [("player_controls", .cabinetControls)] } }⟩,
  ⟨"gunfight", { config := gunFight }⟩,
  ⟨"seawolf", {
    config := seaWolf
    overrides := { inputs := [("player_1", .periscopePlayer1)] } }⟩,
  ⟨"lupin3", {
    config := lupin
    overrides := { outputs := [("color_bank", .colorBank)] } }⟩,
  ⟨"stratovox", {
    config := stratovox
    overrides := { outputs := [("speech", .speech), ("speech_data", .speechData)] } }⟩,
  ⟨"spacefury", { config := spaceFury }⟩,
  ⟨"galaxian", {
    config := galaxian
    overrides := { outputs := [("flip_screen", .flipScreen)] } }⟩]

/-- The known game with this key. -/
def find? (key : String) : Option Preset :=
  all.find? fun preset => Text.sameLetters preset.key key

/-- The known game with this key, or why there is none. -/
def find (key : String) : Except BoardError Preset :=
  match find? key with
  | some preset => .ok preset
  | none => .error (.unknownPreset key)

end Preset

end Cabinet
