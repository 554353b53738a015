import Cabinet.CommandLine.Run
import Cabinet.Proofs.Board.FrameTrace

/-!
# Notes of a command

The lines that come of the notes of a command go to the error stream or to a file. A
notebook writes what a journal would write, with the clock of the session. Frames are
run and reported in the same way whatever is noted about them.
-/

namespace Cabinet.CommandLine

open Log Outcome

/-! ## Tasks of a session -/

section

variable {α β : Type}

theorem run_bind (task : Task (StateM Session) α) (next : α → Task (StateM Session) β)
    (session : Session) :
    (task >>= next).run session =
      match (task.run session).1 with
      | .ok value => (next value).run (task.run session).2
      | .error failure => (.error failure, (task.run session).2) := by
  change ExceptT.bindCont next (task.run session).1 (task.run session).2 = _
  cases (task.run session).1 with
  | ok value => rfl
  | error failure => rfl

theorem run_bind_of_ok {task : Task (StateM Session) α} {next : α → Task (StateM Session) β}
    {session after : Session} {value : α} (here : task.run session = (.ok value, after)) :
    (task >>= next).run session = (next value).run after := by
  rw [run_bind, here]

theorem run_bind_of_error {task : Task (StateM Session) α} {next : α → Task (StateM Session) β}
    {session after : Session} {failure : Failure}
    (here : task.run session = (.error failure, after)) :
    (task >>= next).run session = (.error failure, after) := by
  rw [run_bind, here]

end

theorem run_print (lines : List String) (session : Session) :
    (lines.forM Host.print : Task (StateM Session) Unit).run session =
      (.ok (), { session with printed := lines.reverse ++ session.printed }) := by
  induction lines generalizing session with
  | nil => rfl
  | cons line lines ih =>
      change (Host.print line >>= fun _ => lines.forM Host.print :
        Task (StateM Session) Unit).run session = _
      have first : (Host.print line : Task (StateM Session) Unit).run session =
          (.ok (), { session with printed := line :: session.printed }) := rfl
      rw [run_bind_of_ok first, ih, List.reverse_cons, List.append_assoc]
      rfl

/-! ## Notes -/

namespace Notebook

/-- The journal that a notebook keeps in a session; nothing is written in it yet. -/
def journal (notebook : Notebook) (session : Session) : Journal :=
  { gate := notebook.gate, clock := session.clock, readings := session.readings }

/--
What notes leave behind: the gate and the readings of the clock that a journal would come
to, and its lines in the error stream unless there is a file for them.
-/
structure Noted (notebook : Notebook) (notes : List Note) (before : Session) (kept : Notebook)
    (after : Session) : Prop where
  gate : kept.gate = ((notebook.journal before).sayAll notes).gate
  file : kept.file = notebook.file
  clock : after.clock = before.clock
  readings : after.readings = ((notebook.journal before).sayAll notes).readings
  files : notebook.file = none → after.files = before.files
  complained : notebook.file = none →
    after.complained = (((notebook.journal before).sayAll notes).lines.map Line.text).reverse ++
      before.complained

variable {notebook : Notebook}

theorem noted_nothing (notebook : Notebook) (session : Session) :
    notebook.Noted [] session notebook session :=
  ⟨rfl, rfl, rfl, rfl, fun _ => rfl, fun _ => rfl⟩

/-- Where a notebook was kept, its journal goes on behind the lines so far. -/
theorem Noted.journal_eq {notes : List Note} {before after : Session} {kept : Notebook}
    (noted : notebook.Noted notes before kept after) :
    (notebook.journal before).sayAll notes =
      (kept.journal after).behind ((notebook.journal before).sayAll notes).lines := by
  have clock : ((notebook.journal before).sayAll notes).clock = before.clock :=
    (notebook.journal before).clock_sayAll notes
  have goesOn : kept.journal after =
      { (notebook.journal before).sayAll notes with lines := [] } := by
    change ({ gate := kept.gate, clock := after.clock, readings := after.readings } : Journal) = _
    rw [noted.gate, noted.readings, noted.clock, ← clock]
  rw [goesOn, Journal.behind, List.append_nil]

theorem Noted.append {kept last : Notebook} {first second : List Note}
    {before between after : Session} (earlier : notebook.Noted first before kept between)
    (later : kept.Noted second between last after) :
    notebook.Noted (first ++ second) before last after := by
  have goesOn : (notebook.journal before).sayAll (first ++ second) =
      ((kept.journal between).sayAll second).behind
        ((notebook.journal before).sayAll first).lines := by
    rw [Journal.sayAll_append, earlier.journal_eq, Journal.sayAll_behind]
    rw [← earlier.journal_eq]
  constructor
  · rw [goesOn, later.gate]
    rfl
  · rw [later.file, earlier.file]
  · rw [later.clock, earlier.clock]
  · rw [goesOn, later.readings]
    rfl
  · intro stream
    rw [later.files (earlier.file.trans stream), earlier.files stream]
  · intro stream
    rw [goesOn, later.complained (earlier.file.trans stream), earlier.complained stream,
      Journal.behind, List.map_append, List.reverse_append, List.append_assoc]

/-- Lines are complained, unless there is a file for them; nothing else is touched. -/
theorem run_put (notebook : Notebook) (lines : List Line) (session : Session) :
    ∃ files complained, (lines.forM notebook.put : Task (StateM Session) Unit).run session =
        (.ok (), { session with files, complained }) ∧
      (notebook.file = none → files = session.files ∧
        complained = (lines.map Line.text).reverse ++ session.complained) := by
  induction lines generalizing session with
  | nil => exact ⟨_, _, rfl, fun _ => ⟨rfl, rfl⟩⟩
  | cons line lines ih =>
      obtain ⟨files, complained, first, stream⟩ : ∃ files complained,
          (notebook.put line : Task (StateM Session) Unit).run session =
            (.ok (), { session with files, complained }) ∧
          (notebook.file = none → files = session.files ∧
            complained = line.text :: session.complained) := by
        unfold put
        cases file : notebook.file with
        | none => exact ⟨_, _, rfl, fun _ => ⟨rfl, rfl⟩⟩
        | some path =>
            change ∃ files complained, (_, (Session.update path _ session).2) = _ ∧ _
            unfold Session.update
            split
            · exact ⟨_, _, rfl, nofun⟩
            · exact ⟨_, _, rfl, nofun⟩
      obtain ⟨files', complained', rest, stream'⟩ := ih { session with files, complained }
      refine ⟨files', complained', ?_, fun none => ?_⟩
      · change (notebook.put line >>= fun _ => lines.forM notebook.put :
          Task (StateM Session) Unit).run session = _
        rw [run_bind_of_ok first, rest]
      · obtain ⟨here, said⟩ := stream none
        obtain ⟨there, told⟩ := stream' none
        refine ⟨there.trans here, ?_⟩
        rw [told, said, List.map_cons, List.reverse_cons, List.append_assoc]
        rfl

/-- A note is judged as a journal judges it. -/
theorem run_note (notebook : Notebook) (note : Note) (session : Session) :
    ∃ kept after, (notebook.note note : Task (StateM Session) Notebook).run session =
        (.ok kept, after) ∧ after.printed = session.printed ∧
      notebook.Noted [note] session kept after := by
  by_cases shown : notebook.gate.shows note = true
  · have said : (notebook.journal session).sayAll [note] = _ := Journal.say_of_shown shown
    let judged := notebook.gate.judge note (session.clock session.readings)
    let read : Session := { session with readings := session.readings + 1 }
    obtain ⟨files, complained, put, stream⟩ := notebook.run_put judged.1 read
    have now : (Host.now : Task (StateM Session) Nat).run session =
        (.ok (session.clock session.readings), read) := rfl
    refine ⟨{ notebook with gate := judged.2 }, { read with files, complained }, ?_, rfl, ?_⟩
    · unfold Notebook.note
      rw [if_pos shown, run_bind_of_ok now]
      exact run_bind_of_ok put
    · refine ⟨?_, rfl, rfl, ?_, fun none => (stream none).1, fun none => ?_⟩
      · rw [said]
        rfl
      · rw [said]
        rfl
      · rw [said]
        exact (stream none).2
  · have hidden : (notebook.journal session).sayAll [note] = notebook.journal session :=
      Journal.say_of_hidden shown
    refine ⟨notebook, session, ?_, rfl, ?_⟩
    · unfold Notebook.note
      rw [if_neg shown]
      rfl
    · exact ⟨by rw [hidden]; rfl, rfl, rfl, by rw [hidden]; rfl, fun _ => rfl,
        fun _ => by rw [hidden]; rfl⟩

/-- By induction on the notes: each is judged behind those before it. -/
theorem run_write (notebook : Notebook) (notes : List Note) (session : Session) :
    ∃ kept after, (notebook.write notes : Task (StateM Session) Notebook).run session =
        (.ok kept, after) ∧ after.printed = session.printed ∧
      notebook.Noted notes session kept after := by
  induction notes generalizing notebook session with
  | nil => exact ⟨notebook, session, rfl, rfl, notebook.noted_nothing session⟩
  | cons note notes ih =>
      obtain ⟨kept, between, first, unprinted, earlier⟩ := notebook.run_note note session
      obtain ⟨last, after, rest, unprinted', later⟩ := ih kept between
      refine ⟨last, after, ?_, unprinted'.trans unprinted, earlier.append later⟩
      unfold write
      rw [List.foldlM_cons, run_bind_of_ok first]
      exact rest

end Notebook

/-! ## Frames -/

/-- What an array that listens holds in the end. -/
theorem toList_heard (notes : List Note) (heard : Array Note) :
    (notes.foldl Listener.hear heard).toList = heard.toList ++ notes := by
  induction notes generalizing heard with
  | nil => exact (List.append_nil _).symm
  | cons note notes ih =>
      have next : (Listener.hear heard note).toList = heard.toList ++ [note] :=
        Array.toList_push
      rw [List.foldl_cons, ih, next, List.append_assoc]
      rfl

/-- The lines about a frame that came to its end, if frames are reported. -/
def reportLines (verbose : Bool) (number : Nat) (board : Board) : List String :=
  if verbose then frameLines number board.advance.picture board.advance else []

/-- The lines about frames behind `finished` ones, up to one that ends in a panic. -/
def reportsOver (verbose : Bool) (board : Board) (finished : Nat) : Nat → List String
  | 0 => []
  | count + 1 =>
      if board.fault?.isNone then
        reportLines verbose (finished + 1) board ++
          reportsOver verbose board.advance (finished + 1) count
      else []

/-- One frame writes its notes, whatever it comes to. -/
theorem run_runFrame (notebook : Notebook) (board : Board) (session : Session) :
    ∃ kept after, (runFrame notebook board : Task (StateM Session) _).run session =
        ((unlessFault board.fault? (kept, board.advance.picture, board.advance)).mapError
          .panicked, after) ∧ after.printed = session.printed ∧
      notebook.Noted board.frameNotes session kept after := by
  obtain ⟨kept, after, wrote, unprinted, noted⟩ :=
    notebook.run_write board.frameNotes session
  refine ⟨kept, after, ?_, unprinted, noted⟩
  have heard : (board.runFrameM : Telling (Array Note) (Frame × Board)) #[] = _ :=
    board.runFrameM_speaks #[]
  unfold runFrame
  rw [heard]
  dsimp only
  rw [toList_heard, List.nil_append, run_bind_of_ok wrote]
  cases board.fault? with
  | none => rfl
  | some panic => rfl

theorem runFrames_succ (notebook : Notebook) (verbose : Bool) (board : Board)
    (finished count : Nat) :
    (runFrames notebook verbose board finished (count + 1) : Task (StateM Session) _) =
      runFrame notebook board >>= fun result =>
        (if verbose then frameLines (finished + 1) result.2.1 result.2.2 else []).forM Host.print
          >>= fun _ => runFrames result.1 verbose result.2.2 (finished + 1) count := by
  cases verbose with
  | false => rfl
  | true => rfl

/-- Frames are run to their end, and the notebook decides only what is noted. -/
theorem run_runFrames (notebook : Notebook) (verbose : Bool) (board : Board)
    (finished count : Nat) (session : Session) :
    ∃ kept after, (runFrames notebook verbose board finished count :
        Task (StateM Session) _).run session =
        (((board.runFrames count).map (kept, ·)).mapError .panicked, after) ∧
      after.printed = (reportsOver verbose board finished count).reverse ++ session.printed ∧
      notebook.Noted (board.notesOver count) session kept after := by
  induction count generalizing notebook board finished session with
  | zero => exact ⟨notebook, session, rfl, rfl, notebook.noted_nothing session⟩
  | succ count ih =>
      obtain ⟨kept, noted, ran, unprinted, before⟩ := run_runFrame notebook board session
      rw [runFrames_succ, Board.runFrames, Board.runFrame_eq, reportsOver, Board.notesOver]
      cases sound : board.fault? with
      | some panic =>
          rw [sound] at ran
          rw [run_bind_of_error ran]
          refine ⟨kept, noted, rfl, unprinted, ?_⟩
          rw [Option.isNone_some, if_neg Bool.false_ne_true, List.append_nil]
          exact before
      | none =>
          -- The lines about the frame come behind its notes.
          rw [sound] at ran
          have told := run_print (reportLines verbose (finished + 1) board) noted
          obtain ⟨last, after, rest, printed, later⟩ := ih kept board.advance (finished + 1) _
          rw [run_bind_of_ok ran]
          refine ⟨last, after, (run_bind_of_ok told).trans rest, ?_, before.append ⟨later.gate, later.file, later.clock,
            later.readings, later.files, later.complained⟩⟩
          rw [Option.isNone_none, if_pos rfl, printed, unprinted, List.reverse_append,
            List.append_assoc]

end Cabinet.CommandLine
