import Cabinet.Proofs.CommandLine.Indistinct
import Cabinet.Proofs.Device.Speaking

/-!
# The fidelity of the trace

The trace of a run has exactly one line for each opcode that was fetched, as long as the
limit of its category is not reached. In a machine, in a row of frames and in a whole
command, the notes that are asked for decide only what is noted.
-/

namespace Cabinet.CommandLine

open Log Machine Outcome

/--
What the trace of the next frames tells, and that it leaves the board alone. A frame that
comes to its end is a run of events, of which each has its line. Below the limit there is
one line for each fetched opcode, in order, and no other, in a journal and in the error
stream alike. Whoever listens, the frames lead to the same board or end in the same panic,
and with every notebook the lines in the output stream are the same.
-/
structure FramesTold (board : Board) (count : Nat) : Prop where
  frame : board.fault? = none →
    board.advance.machine = board.latched.follow board.frameEvents ∧
      board.happened = board.frameEvents
  lines : ∀ journal : Journal, journal.gate.levels.shows .cpu .trace = true →
    journal.InLimit .cpu (board.notesOver count) →
      (board.runFramesM count journal).2.texts .cpu .trace =
        journal.texts .cpu .trace ++ (board.fetchesOver count).map Fetch.line
  unmoved : ∀ (σ : Type) [Listener σ] (listener : σ),
    (board.runFramesM count listener).1 = board.runFrames count
  run : ∀ (notebook : Notebook) (verbose : Bool) (finished : Nat) (session : Session),
    ∃ (kept : Notebook) (after : Session) (lines : List Line),
      (runFrames notebook verbose board finished count : Task (StateM Session) _).run session =
          (((board.runFrames count).map (kept, ·)).mapError .panicked, after) ∧
        after.printed = (reportsOver verbose board finished count).reverse ++ session.printed ∧
        (notebook.file = none →
          after.complained = (lines.map Line.text).reverse ++ session.complained ∧
          (notebook.gate.levels.shows .cpu .trace = true →
            (notebook.journal session).InLimit .cpu (board.notesOver count) →
              lines.filterMap (Line.textOf? .cpu .trace) =
                (board.fetchesOver count).map Fetch.line))

theorem texts_runFrames (board : Board) (count : Nat) {journal : Journal}
    (shows : journal.gate.levels.shows .cpu .trace = true)
    (within : journal.InLimit .cpu (board.notesOver count)) :
    (journal.sayAll (board.notesOver count)).texts .cpu .trace =
      journal.texts .cpu .trace ++ (board.fetchesOver count).map Fetch.line := by
  rw [Journal.texts_sayAll within, textsOf_shown shows, Board.textsOf_notesOver]

theorem framesTold (board : Board) (count : Nat) : FramesTold board count where
  frame sound := ⟨board.machine_advance_eq_follow, Board.happened_of_sound sound⟩
  lines journal shows within := by
    rw [board.runFramesM_speaks count journal, ← Journal.sayAll_eq]
    exact texts_runFrames board count shows within
  unmoved σ _ listener := by
    rw [(board.runFramesM_speaks count).outcome_eq listener, Board.runFrames_eq]
  run notebook verbose finished session := by
    obtain ⟨kept, after, ran, printed, noted⟩ :=
      run_runFrames notebook verbose board finished count session
    exact ⟨kept, after, _, ran, printed, fun stream =>
      ⟨noted.complained stream, fun shows within => texts_runFrames board count shows within⟩⟩

/--
What the trace tells, and that no choice of notes changes anything else: commands that
choose different notes differ in nothing but the error stream.
-/
structure TraceFidelity (β : Type) [Bus β] [TellingBus β] [LawfulPorts β] : Prop where
  machine : Traced β
  frames : ∀ (board : Board) (count : Nat), FramesTold board count
  commands : ∀ (arguments : Arguments) (level : String) (choices : List String)
    (levels levels' : Levels), arguments.logFile = none → readLevels arguments = .ok levels →
      readLevels { arguments with logLevel := level, log := choices } = .ok levels' →
        Indistinct Eq (perform arguments)
          (perform { arguments with logLevel := level, log := choices })

theorem trace_fidelity {β : Type} [Bus β] [TellingBus β] [LawfulPorts β] : TraceFidelity β where
  machine := traced
  frames := framesTold
  commands _ _ _ _ _ := perform_indistinct

/-- An opcode at the last address has a line, and the vector accepted after it has none. -/
theorem trace_fidelity_last_address :
    let memory := Memory.zero.write 0xFFFF 0xFB
    let machine : Machine SystemBus := ⟨{ a := 0x12, sp := 0x2400, pc := 0xFFFF }, { memory }⟩
    let journal : Journal :=
      { gate := { levels := Levels.silent.set .cpu .trace }, clock := fun reading => reading }
    (machine.followM [.raise 1, .step, .step] journal).2.texts .cpu .trace =
      ["8080: FFFF  FB  Ei  A=12 F=00 BC=0000 DE=0000 HL=0000 SP=2400"] := by
  intro memory machine journal
  let raised := machine.raise 1
  have quiet : raised.cpu.serviceable = none := rfl
  have running : raised.cpu.halted = false := rfl
  have fetched : raised.read raised.cpu.pc = 0xFB := by
    have read (address : UInt16) : raised.read address = memory.read address := rfl
    have pc : raised.cpu.pc = 0xFFFF := rfl
    rw [read, pc]
    exact Memory.zero.read_write_same 0xFFFF 0xFB
  have decoded : Cpu.Instruction.ofOpcode 0xFB = .ei := Cpu.Instruction.ofOpcode_of_decode rfl
  -- The vector is not accepted before EI is executed.
  have waits : raised.step.2.cpu.serviceable = some 1 := by
    rw [step_of_decoded fetched quiet running decoded]
    rfl
  have fetches : machine.fetches [.raise 1, .step, .step] =
      [⟨0xFFFF, 0xFB, 0x12, 0, 0, 0, 0, 0x2400⟩] := by
    change raised.fetch?.toList ++ (raised.step.2.fetch?.toList ++ []) = _
    rw [fetch?_of_running quiet running, fetched, fetch?_of_serviceable waits]
    decide
  have sound : machine.runFault? [.raise 1, .step, .step] = none := by
    have first : (machine.raise 1).stepFault? = none := by
      change raised.stepFault? = none
      rw [stepFault?_of_running quiet running, current, fetched, decoded]
      decide
    have second : (machine.raise 1).step.2.stepFault? = none := by
      change raised.step.2.stepFault? = none
      have busy : ¬ (raised.step.2.cpu.serviceable = none ∧ raised.step.2.cpu.halted = false) := by
        simp [waits]
      rw [stepFault?_of_idle busy, step_of_serviceable waits,
        step_of_decoded fetched quiet running decoded]
      decide
    simp only [runFault?, eventFault?, on, first, second, Option.none_or]
  have all := untilFault_of_runFault? sound
  have within : journal.InLimit .cpu
      (machine.runNotes (machine.untilFault [.raise 1, .step, .step])) := by
    have silent : raised.instructionNotes 0xFB = [] := by
      rw [instructionNotes, decoded]
      rfl
    have told : raised.stepNotes.length = 1 := by
      rw [stepNotes_of_running quiet running, fetched, silent]
      rfl
    apply Journal.inLimit_of_few
    rw [all]
    change 0 + ([_] ++ (raised.stepNotes ++ (raised.step.2.stepNotes ++ []))).length ≤ 60
    rw [stepNotes_of_serviceable waits, List.length_append, List.length_append, told]
    decide
  have told := (trace_fidelity : TraceFidelity SystemBus).machine.lines machine _ journal rfl within
  rw [told, all, fetches]
  decide +kernel

end Cabinet.CommandLine
