import Cabinet.Proofs.Board.Frames
import Cabinet.Proofs.Device.Speaking
import Cabinet.Proofs.Picture.Drawing

/-!
# Frames of the program

A frame of the program makes of a board what a frame on numbers without a bound does,
unless something goes wrong in it: the periscope, a port, one of the counters, an entry
of the schedule without a period or the size of the screen. What a frame says and how it
ends do not depend on who listens.
-/

namespace Cabinet

open Log Outcome

namespace Picture

variable {σ : Type} [Listener σ]

/-- What is wrong with drawing the pictures of a game. -/
def drawFault? (config : Config) : Option Panic :=
  if Drawable config then none else some .multiplication

theorem drawM_speaks (config : Config) (memory : Memory) (devices : Devices) :
    Speaks (drawM config memory devices : Telling σ Frame)
      (if (drawFault? config).isNone then notes config else [])
      (unlessFault (drawFault? config) (render config memory devices)) := by
  have drawn : draw config memory devices =
      unlessFault (drawFault? config) (render config memory devices) := by
    rw [draw_eq, drawFault?]
    split <;> rfl
  unfold drawM
  rw [drawn]
  cases drawFault? config with
  | none =>
      have told : Speaks ((notes config).forM tell >>= fun _ =>
          pure (render config memory devices) : Telling σ Frame) (notes config ++ [])
          (.ok (render config memory devices)) := (Speaks.told (notes config)).bind (.pure _)
      rw [List.append_nil] at told
      exact (Speaks.ofExcept (.ok _)).bind told
  | some panic => exact (Speaks.ofExcept (.error panic)).stop

end Picture

namespace Board

open Machine Picture

/-! ## What can be wrong -/

/-- What is wrong with latching the controls. -/
def latchFault? (board : Board) : Option Panic :=
  if board.input.isHeld "p1_right" ∧ ¬ board.input.isHeld "p1_left" ∧
      board.devices.periscope = 255 then some .addition
  else none

theorem latchedM_eq (board : Board) :
    board.latchedM = unlessFault board.latchFault? board.latched := by
  unfold latchedM latchFault? Devices.latchM
  split <;> rfl

/-- What is wrong with entries of a schedule. -/
def periodFault? (interrupts : List Interrupt) : Option Panic :=
  if interrupts.any (·.period == 0) then some .remainder else none

/-- What is wrong with counting frames. -/
def indexFault? (board : Board) : Option Panic :=
  if board.frameIndex.toNat + 1 < UInt64.size then none else some .addition

/-- What goes wrong first in a frame. -/
def fault? (board : Board) : Option Panic :=
  board.latchFault?.or <| (board.latched.spendFault? board.budget 0).or <|
    (periodFault? board.config.interrupts).or <| (drawFault? board.config).or board.indexFault?

/-! ## What is said -/

/-- The vectors that are due by entries of a schedule. -/
def dueBy (frameIndex : UInt64) (interrupts : List Interrupt) : List UInt8 :=
  (interrupts.filter fun interrupt =>
    frameIndex % interrupt.period.toUInt64 = 0).map Interrupt.vector

/-- The vectors that are raised: those that are due, up to an entry without a period. -/
def raisedBy (frameIndex : UInt64) (interrupts : List Interrupt) : List UInt8 :=
  dueBy frameIndex (interrupts.takeWhile (·.period != 0))

variable {σ : Type} [Listener σ]

theorem raiseDueM_speaks (board : Board) (machine : Machine SystemBus) :
    Speaks (board.raiseDueM machine : Telling σ (Machine SystemBus))
      (machine.runNotes ((raisedBy board.frameIndex board.config.interrupts).map .raise))
      (unlessFault (periodFault? board.config.interrupts)
        (board.due.foldl raise machine)) := by
  have due : board.due = dueBy board.frameIndex board.config.interrupts := rfl
  unfold raiseDueM
  rw [due]
  induction board.config.interrupts generalizing machine with
  | nil => exact .pure machine
  | cons interrupt interrupts ih =>
      rw [List.foldlM_cons]
      by_cases none : interrupt.period = 0
      · have raised : raisedBy board.frameIndex (interrupt :: interrupts) = [] := by
          simp [raisedBy, dueBy, none]
        have stops : periodFault? (interrupt :: interrupts) = some .remainder := by
          simp [periodFault?, none]
        rw [if_pos none, raised, stops]
        exact (Speaks.throw .remainder).stop
      · have later : periodFault? (interrupt :: interrupts) = periodFault? interrupts := by
          simp [periodFault?, none]
        rw [if_neg none, later]
        by_cases now : board.frameIndex % interrupt.period.toUInt64 = 0
        · have raised : raisedBy board.frameIndex (interrupt :: interrupts) =
              interrupt.vector :: raisedBy board.frameIndex interrupts := by
            simp [raisedBy, dueBy, none, now]
          have due : dueBy board.frameIndex (interrupt :: interrupts) =
              interrupt.vector :: dueBy board.frameIndex interrupts := by
            simp [dueBy, now]
          rw [if_pos now, raised, due, List.map_cons, runNotes, List.foldl_cons]
          exact (machine.raiseM_speaks interrupt.vector).bind (ih _)
        · have raised : raisedBy board.frameIndex (interrupt :: interrupts) =
              raisedBy board.frameIndex interrupts := by
            simp [raisedBy, dueBy, none, now]
          have due : dueBy board.frameIndex (interrupt :: interrupts) =
              dueBy board.frameIndex interrupts := by
            simp [dueBy, now]
          rw [if_neg now, raised, due]
          exact (Speaks.pure machine).bind (ih machine)

/-! ## Frames -/

/-- The steps of a frame. -/
def stepping (board : Board) : List Event :=
  board.latched.spending board.budget 0

/-- What happens in a frame, up to the first event that goes wrong. -/
def happened (board : Board) : List Event :=
  if board.latchFault?.isNone then
    board.latched.untilFault board.stepping ++
      if (board.latched.spendFault? board.budget 0).isNone then
        (raisedBy board.frameIndex board.config.interrupts).map .raise
      else []
  else []

/-- What goes wrong before the picture is drawn. -/
def spendingFault? (board : Board) : Option Panic :=
  board.latchFault?.or <| (board.latched.spendFault? board.budget 0).or <|
    periodFault? board.config.interrupts

/-- What a frame says. -/
def frameNotes (board : Board) : List Note :=
  board.latched.runNotes board.happened ++
    if board.spendingFault?.isNone ∧ (drawFault? board.config).isNone then notes board.config
    else []

theorem follow_stepping (board : Board) :
    board.latched.follow board.stepping = (board.latched.spend board.budget 0).2 := by
  rw [stepping, spending, follow_steps, spend_eq]

theorem budget_lt_counterLimit (board : Board) : board.budget < counterLimit := by
  rw [budget_eq]
  exact Nat.lt_of_le_of_lt (Nat.div_le_self _ _) board.config.timing.clockHz.toNat_lt

/-- The notes of a frame, one part after another. -/
theorem frameNotes_eq (board : Board) :
    board.frameNotes = [] ++ if board.latchFault?.isNone then
      board.latched.runNotes (board.latched.untilFault board.stepping) ++
        if (board.latched.spendFault? board.budget 0).isNone then
          (board.latched.spend board.budget 0).2.runNotes
              ((raisedBy board.frameIndex board.config.interrupts).map .raise) ++
            if (periodFault? board.config.interrupts).isNone then
              if (drawFault? board.config).isNone then notes board.config else []
            else []
        else []
      else [] := by
  unfold frameNotes happened spendingFault?
  cases latch : board.latchFault? with
  | some panic => simp [runNotes]
  | none =>
      cases spent : board.latched.spendFault? board.budget 0 with
      | some panic => simp
      | none =>
          have sound : board.latched.runFault? board.stepping = none :=
            (Option.or_eq_none_iff.mp spent).1
          cases period : periodFault? board.config.interrupts with
          | some panic =>
              simp [runNotes_append, untilFault_of_runFault? sound, follow_stepping]
          | none =>
              simp [runNotes_append, untilFault_of_runFault? sound, follow_stepping]

/-- A frame of the program is the plain one, unless something goes wrong in it. -/
theorem runFrameM_speaks (board : Board) :
    Speaks (board.runFrameM : Telling σ (Frame × Board)) board.frameNotes
      (unlessFault board.fault? (board.advance.picture, board.advance)) := by
  have counted : Checked.count board.frameIndex 1 =
      unlessFault board.indexFault? (board.frameIndex + 1) := by
    rw [Checked.count_eq, indexFault?]
    change (if _ + 1 < _ then _ else _) = _
    split <;> rfl
  unfold runFrameM
  rw [latchedM_eq, frameNotes_eq]
  refine (Speaks.ofExcept _).bind_unless fun _ => ?_
  refine (spendM_speaks board.latched (Nat.le_of_lt board.budget_lt_counterLimit)
    (by decide)).bind_unless fun _ => ?_
  refine (board.raiseDueM_speaks _).bind_unless fun _ => ?_
  refine (drawM_speaks board.config _ _).then_silent ?_
  exact Speaks.ofExcept_map counted _

/-- What a frame comes to. -/
theorem runFrame_eq (board : Board) :
    board.runFrame = unlessFault board.fault? (board.advance.picture, board.advance) :=
  board.runFrameM_speaks.outcome_eq ()

/-! ## Frames that come to their end -/

/--
What it takes to come to the end of a frame. The periscope can be moved, no step uses a port
that goes wrong, the two counters of clock states have room for the steps, every entry of
the schedule has a period, words count the screen and the counter of frames has room.
-/
structure Completes (board : Board) : Prop where
  latches : ¬ (board.input.isHeld "p1_right" ∧ ¬ board.input.isHeld "p1_left" ∧
    board.devices.periscope = 255)
  ports : ∀ count < board.frameSteps, (board.latched.after count).usedPortFault? = none
  cycles : board.machine.cpu.cycles.toNat + board.advance.lastFrameCycles < UInt64.size
  sum : board.advance.lastFrameCycles < UInt32.size
  periods : ∀ interrupt ∈ board.config.interrupts, interrupt.period ≠ 0
  screen : Drawable board.config
  frameIndex : board.frameIndex.toNat + 1 < UInt64.size

theorem spendFault?_eq_none_iff (board : Board) :
    board.latched.spendFault? board.budget 0 = none ↔
      ((∀ count < board.frameSteps, (board.latched.after count).usedPortFault? = none) ∧
        board.machine.cpu.cycles.toNat + board.advance.lastFrameCycles < UInt64.size) ∧
          board.advance.lastFrameCycles < UInt32.size := by
  have steps := board.latched.runFault?_steps_eq_none_iff board.frameSteps
  rw [spendFault?, Option.or_eq_none_iff, sumFault?_eq_none_iff, spend_latched,
    lastFrameCycles_advance, ← cpu_latched, ← steps]
  rfl

theorem latchFault?_eq_none_iff (board : Board) :
    board.latchFault? = none ↔ ¬ (board.input.isHeld "p1_right" ∧
      ¬ board.input.isHeld "p1_left" ∧ board.devices.periscope = 255) := by
  unfold latchFault?
  split <;> simp_all

theorem periodFault?_eq_none_iff (interrupts : List Interrupt) :
    periodFault? interrupts = none ↔ ∀ interrupt ∈ interrupts, interrupt.period ≠ 0 := by
  simp [periodFault?]

theorem drawFault?_eq_none_iff (config : Config) :
    drawFault? config = none ↔ Drawable config := by
  unfold drawFault?
  split <;> simp_all

theorem indexFault?_eq_none_iff (board : Board) :
    board.indexFault? = none ↔ board.frameIndex.toNat + 1 < UInt64.size := by
  unfold indexFault?
  split <;> simp_all

theorem fault?_eq_none_iff (board : Board) : board.fault? = none ↔ board.Completes := by
  rw [fault?, Option.or_eq_none_iff, Option.or_eq_none_iff, Option.or_eq_none_iff,
    Option.or_eq_none_iff, latchFault?_eq_none_iff, spendFault?_eq_none_iff,
    periodFault?_eq_none_iff, drawFault?_eq_none_iff, indexFault?_eq_none_iff]
  constructor
  · rintro ⟨latches, ⟨⟨ports, cycles⟩, sum⟩, periods, screen, frameIndex⟩
    exact ⟨latches, ports, cycles, sum, periods, screen, frameIndex⟩
  · rintro ⟨latches, ports, cycles, sum, periods, screen, frameIndex⟩
    exact ⟨latches, ⟨⟨ports, cycles⟩, sum⟩, periods, screen, frameIndex⟩

theorem runFrame_eq_ok_iff {board next : Board} {frame : Frame} :
    board.runFrame = .ok (frame, next) ↔
      board.Completes ∧ frame = board.advance.picture ∧ next = board.advance := by
  rw [runFrame_eq, unlessFault_eq_ok_iff, fault?_eq_none_iff, Prod.mk.injEq]

theorem Completes.runFrame_eq {board : Board} (completes : board.Completes) :
    board.runFrame = .ok (board.advance.picture, board.advance) :=
  runFrame_eq_ok_iff.mpr ⟨completes, rfl, rfl⟩

end Board

end Cabinet
