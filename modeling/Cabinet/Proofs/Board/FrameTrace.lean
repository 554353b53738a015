import Cabinet.Proofs.Board.Budget
import Cabinet.Proofs.Board.Schedule
import Cabinet.Proofs.Machine.Tracing
import Mathlib.Data.List.TakeWhile

/-!
# The trace of frames

What is said during a frame is what is said about its events, and something about
the picture behind it. So the trace of a row of frames is the trace of their runs, one
after another. A frame that ends in a panic is the last one.
-/

namespace Cabinet

namespace Board

open Log Machine Outcome Picture

/-! ## One frame -/

/-- A picture is not about the processor. -/
theorem textsOf_pictureNotes (config : Config) : textsOf .cpu .trace (notes config) = [] := by
  unfold notes
  split
  · rfl
  · split
    · rfl
    · rfl

theorem textsOf_frameNotes (board : Board) :
    textsOf .cpu .trace board.frameNotes =
      (board.latched.fetches board.happened).map Fetch.line := by
  rw [frameNotes, textsOf_append, textsOf_runNotes]
  split
  · rw [textsOf_pictureNotes, List.append_nil]
  · exact List.append_nil _

/-- Until an entry without a period, all that are due are raised. -/
theorem raisedBy_of_periods {interrupts : List Interrupt} (frameIndex : UInt64)
    (periods : periodFault? interrupts = none) :
    raisedBy frameIndex interrupts = dueBy frameIndex interrupts := by
  have all := (periodFault?_eq_none_iff interrupts).mp periods
  rw [raisedBy, List.takeWhile_eq_self_iff.mpr]
  intro interrupt member
  exact bne_iff_ne.mpr (all interrupt member)

/-- In a frame that comes to its end, everything happens that a frame consists of. -/
theorem happened_of_sound {board : Board} (sound : board.fault? = none) :
    board.happened = board.frameEvents := by
  obtain ⟨latch, rest⟩ := Option.or_eq_none_iff.mp sound
  obtain ⟨spent, rest⟩ := Option.or_eq_none_iff.mp rest
  have steps : board.latched.runFault? board.stepping = none := (Option.or_eq_none_iff.mp spent).1
  have periods := (Option.or_eq_none_iff.mp rest).1
  rw [happened, latch, spent, Option.isNone_none, if_pos rfl, if_pos rfl,
    untilFault_of_runFault? steps, raisedBy_of_periods _ periods]
  rfl

/-! ## Rows of frames -/

/-- Frames one after another, with all that is said and may go wrong. -/
def runFramesM {σ : Type} [Listener σ] (board : Board) : Nat → Telling σ Board
  | 0 => pure board
  | frames + 1 => do
      let result ← board.runFrameM
      result.2.runFramesM frames

/-- What is said during the next frames. -/
def notesOver (board : Board) : Nat → List Note
  | 0 => []
  | frames + 1 =>
      board.frameNotes ++ if board.fault?.isNone then board.advance.notesOver frames else []

/-- What the steps of the next frames fetch, in order. -/
def fetchesOver (board : Board) : Nat → List Fetch
  | 0 => []
  | frames + 1 =>
      board.latched.fetches board.happened ++
        if board.fault?.isNone then board.advance.fetchesOver frames else []

theorem textsOf_notesOver (board : Board) (frames : Nat) :
    textsOf .cpu .trace (board.notesOver frames) =
      (board.fetchesOver frames).map Fetch.line := by
  induction frames generalizing board with
  | zero => rfl
  | succ frames ih =>
      rw [notesOver, textsOf_append, textsOf_frameNotes, fetchesOver, List.map_append]
      congr 1
      split
      · exact ih board.advance
      · rfl

/-- What goes wrong first in the next frames. -/
def faultOver? (board : Board) : Nat → Option Panic
  | 0 => none
  | frames + 1 => board.fault?.or (board.advance.faultOver? frames)

/-- By induction: a row of frames is its first frame and, if that ends, the rest. -/
theorem runFramesM_speaks {σ : Type} [Listener σ] (board : Board) (frames : Nat) :
    Speaks (board.runFramesM frames : Telling σ Board) (board.notesOver frames)
      (unlessFault (board.faultOver? frames) (board.advanceBy frames)) := by
  induction frames generalizing board with
  | zero => exact .pure board
  | succ frames ih => exact board.runFrameM_speaks.bind_unless fun _ => ih board.advance

theorem runFrames_eq (board : Board) (frames : Nat) :
    board.runFrames frames = unlessFault (board.faultOver? frames) (board.advanceBy frames) := by
  induction frames generalizing board with
  | zero => rfl
  | succ frames ih =>
      rw [runFrames, runFrame_eq, faultOver?, ← unlessFault_bind _ _ board, advanceBy]
      cases board.fault? with
      | none => exact ih board.advance
      | some panic => rfl

end Board

end Cabinet
