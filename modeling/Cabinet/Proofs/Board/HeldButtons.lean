import Mathlib.Data.List.Forall2
import Cabinet.Proofs.Board.Resume

/-!
# Held buttons

All that a board ever asks of the controls is which of the well-known buttons are
held. So boards that are alike stay alike under controls that hold the same ones,
whatever else the snapshots say and however they say that a button is released.
Controls that are replaced before a frame begins leave no trace at all.
-/

namespace Cabinet.Board

open Outcome

/-- Plays of one kind, whose controls hold the same well-known buttons. -/
inductive Play.Alike : Play → Play → Prop where
  | setInput {input other : Buttons} (held : input.Alike other) :
      Alike (.setInput input) (.setInput other)
  | runFrame : Alike .runFrame .runFrame
  | reset : Alike .reset .reset

/-- The board behind plays, in order. -/
def playAll (board : Board) (plays : List Play) : Except Panic Board :=
  plays.foldlM (fun board play => (board.play play).map Prod.snd) board

/-- The pictures that plays show. -/
def frames (board : Board) : List Play → List Frame
  | [] => []
  | play :: plays =>
      match board.play play with
      | .ok (picture, next) => picture.toList ++ next.frames plays
      | .error _ => []

/-- What boards have in common that differ in their controls only. -/
structure Indistinct (first second : Board) : Prop where
  cpu : first.machine.cpu = second.machine.cpu
  memory : first.memory = second.memory
  save : first.save = second.save
  devices : first.devices.UpToInput second.devices

/-! ## Controls that hold the same buttons -/

namespace Alike

variable {first second : Board}

theorem indistinct (alike : Alike first second) : Indistinct first second where
  cpu := alike.cpu
  memory := alike.memory
  save := alike.save
  devices := alike.devices

theorem play_alike (alike : Alike first second) {play other : Play} (same : play.Alike other) :
    Matches PlayedAlike (first.play play) (second.play other) := by
  cases same with
  | setInput held => exact .ok ⟨rfl, alike.setInput held⟩
  | runFrame => exact alike.play .runFrame
  | reset => exact .ok ⟨rfl, alike.reset⟩

theorem playAll (alike : Alike first second) {plays others : List Play}
    (same : List.Forall₂ Play.Alike plays others) :
    Matches Alike (first.playAll plays) (second.playAll others) := by
  induction same generalizing first second with
  | nil => exact .ok alike
  | cons play _ ih =>
      rw [Board.playAll, Board.playAll, List.foldlM_cons, List.foldlM_cons]
      have next := (alike.play_alike play).map fun played => played.2
      exact next.bind fun alike => ih alike

theorem observe_alike (alike : Alike first second) {plays others : List Play}
    (same : List.Forall₂ Play.Alike plays others) :
    first.observe plays = second.observe others := by
  induction same generalizing first second with
  | nil => rfl
  | @cons play other plays others alikePlay _ ih =>
      have played := alike.play_alike alikePlay
      rw [Board.observe, Board.observe]
      generalize first.play play = here at played
      generalize second.play other = there at played
      cases played with
      | ok same =>
          obtain ⟨picture, next⟩ := same
          simp only [picture, next.save, ih next]
      | error panic => rfl

end Alike

/-! ## Controls that are replaced -/

namespace Play

/-- Whether the next play replaces the controls that this one sets. -/
def replacedBy : Play → List Play → Bool
  | .setInput _, .setInput _ :: _ => true
  | _, _ => false

/-- The plays without the controls that are replaced at once. -/
def settle : List Play → List Play
  | [] => []
  | play :: plays => if play.replacedBy plays then settle plays else play :: settle plays

/-- Controls that are replaced show nothing and do not change what follows. -/
theorem replaced {play : Play} {plays : List Play} (replaced : play.replacedBy plays = true)
    (board : Board) :
    board.playAll (play :: plays) = board.playAll plays ∧
      board.frames (play :: plays) = board.frames plays := by
  unfold replacedBy at replaced
  split at replaced
  · exact ⟨rfl, rfl⟩
  · cases replaced

end Play

theorem playAll_settle (board : Board) (plays : List Play) :
    board.playAll (Play.settle plays) = board.playAll plays := by
  induction plays generalizing board with
  | nil => rfl
  | cons play plays ih =>
      rw [Play.settle]
      split
      · rename_i replaced
        rw [ih, (Play.replaced replaced board).1]
      · rw [playAll, playAll, List.foldlM_cons, List.foldlM_cons]
        exact congrArg (_ >>= ·) (funext ih)

theorem frames_settle (board : Board) (plays : List Play) :
    board.frames (Play.settle plays) = board.frames plays := by
  induction plays generalizing board with
  | nil => rfl
  | cons play plays ih =>
      rw [Play.settle]
      split
      · rename_i replaced
        rw [ih, (Play.replaced replaced board).2]
      · rw [frames, frames]
        simp only [ih]

/--
Boards that are alike show the same pictures and have the same processor, memory,
saved state and devices after plays that hold the same well-known buttons, or the same
panic ends both, and of controls that are set one after another only the last ones count.
-/
theorem only_held_buttons_matter {first second : Board} (alike : Alike first second) :
    (∀ plays others, List.Forall₂ Play.Alike plays others →
      first.observe plays = second.observe others ∧
        Matches Indistinct (first.playAll plays) (second.playAll others)) ∧
    ∀ plays, first.frames (Play.settle plays) = first.frames plays ∧
      first.playAll (Play.settle plays) = first.playAll plays := by
  constructor
  · intro plays others same
    exact ⟨alike.observe_alike same, (alike.playAll same).mono Alike.indistinct⟩
  · intro plays
    exact ⟨first.frames_settle plays, first.playAll_settle plays⟩

/-- A coin, with and without a button that no port looks at and one that is said to be released. -/
theorem only_held_buttons_matter_coin :
    let loaded := (new ⟨Preset.spaceInvaders, {}⟩).perform
      (.loadRoms [⟨"invaders.h", [0xDB, 0x01, 0xD3, 0x03, 0xC3, 0x00, 0x00]⟩])
    let coin : Buttons := ⟨[("coin1", true)]⟩
    let more : Buttons := ⟨[("turbo", true), ("p1_up", false), ("coin1", true)]⟩
    let first := (loaded.setInput coin).advance
    let second := (loaded.setInput more).advance
    Alike first second ∧
      first.observe [.setInput more, .runFrame] = second.observe [.setInput coin, .runFrame] ∧
      first.frames [.setInput {}, .setInput coin, .runFrame] =
        first.frames [.setInput coin, .runFrame] := by
  intro loaded coin more first second
  have same : coin.Alike more := by
    unfold Buttons.Alike
    decide
  have waiting : Alike (loaded.setInput coin) (loaded.setInput more) :=
    { game := rfl
      cpu := rfl
      memory := rfl
      ports := rfl
      devices := rfl
      frameIndex := rfl
      input := same }
  have alike : Alike first second := waiting.advance
  obtain ⟨held, last⟩ := only_held_buttons_matter alike
  have back : more.Alike coin := fun name known => (same name known).symm
  have plays : List.Forall₂ Play.Alike [.setInput more, .runFrame] [.setInput coin, .runFrame] :=
    .cons (.setInput back) (.cons .runFrame .nil)
  exact ⟨alike, (held _ _ plays).1, (last [.setInput {}, .setInput coin, .runFrame]).1.symm⟩

end Cabinet.Board
