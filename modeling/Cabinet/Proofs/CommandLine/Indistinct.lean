import Cabinet.Proofs.CommandLine.Noting

/-!
# Commands that differ in their notes

Two tasks are indistinct if they end in the same way, with related results, and leave the
same files and the same lines in the output stream. Commands are put together from such
tasks, so which notes are asked for decides nothing but what the error stream holds.
-/

namespace Cabinet.CommandLine

open Outcome (Matches)

/-- Two sessions that differ at most in what was complained and in their clocks. -/
structure Session.Alike (first second : Session) : Prop where
  files : first.files = second.files
  printed : first.printed = second.printed

/-- Two tasks that end alike wherever they begin alike. -/
def Indistinct {α α' : Type} (Related : α → α' → Prop) (first : Task (StateM Session) α)
    (second : Task (StateM Session) α') : Prop :=
  ∀ ⦃session session' : Session⦄, session.Alike session' →
    Matches Related (first.run session).1 (second.run session').1 ∧
      Session.Alike (first.run session).2 (second.run session').2

/-- Two notebooks that write to the error stream. -/
def Unfiled (first second : Notebook) : Prop :=
  first.file = none ∧ second.file = none

/-- The same board, with notebooks that write to the error stream. -/
def SameBoard (first second : Notebook × Board) : Prop :=
  Unfiled first.1 second.1 ∧ first.2 = second.2

namespace Indistinct

variable {α α' β β' : Type} {Related : α → α' → Prop} {After : β → β' → Prop}

theorem pure {value : α} {value' : α'} (related : Related value value') :
    Indistinct Related (Pure.pure value) (Pure.pure value') :=
  fun _ _ alike => ⟨.ok related, alike⟩

theorem throw (failure : Failure) :
    Indistinct Related (throw failure : Task (StateM Session) α) (MonadExcept.throw failure) :=
  fun _ _ alike => ⟨.error failure, alike⟩

theorem bind {first : Task (StateM Session) α} {second : Task (StateM Session) α'}
    {next : α → Task (StateM Session) β} {next' : α' → Task (StateM Session) β'}
    (here : Indistinct Related first second)
    (later : ∀ {value value'}, Related value value' →
      Indistinct After (next value) (next' value')) :
    Indistinct After (first >>= next) (second >>= next') := by
  intro session session' alike
  obtain ⟨same, alike⟩ := here alike
  rw [run_bind, run_bind]
  generalize (first.run session).1 = outcome at same
  generalize (second.run session').1 = outcome' at same
  cases same with
  | ok related => exact later related alike
  | error failure => exact ⟨.error failure, alike⟩

/-- What follows equal results. -/
theorem bind_same {first second : Task (StateM Session) α} {next : α → Task (StateM Session) β}
    {next' : α → Task (StateM Session) β'} (here : Indistinct Eq first second)
    (later : ∀ value, Indistinct After (next value) (next' value)) :
    Indistinct After (first >>= next) (second >>= next') := by
  refine here.bind ?_
  rintro value _ rfl
  exact later value

theorem orFail {ε : Type} (failure : ε → Failure) (result : Except ε α) :
    Indistinct Eq (orFail failure result) (CommandLine.orFail failure result) := by
  cases result with
  | ok value => exact pure rfl
  | error error => exact throw (failure error)

/-- What is found out about files only is the same. -/
theorem ofFiles {look : StateM Session α} (found : FileTree → α)
    (reads : ∀ session, look.run session = (found session.files, session)) :
    Indistinct Eq (liftM look) (liftM look) := by
  intro session session' alike
  have run (session : Session) : (liftM look : Task (StateM Session) α).run session =
      (.ok (found session.files), session) := by
    change (Except.ok (look.run session).1, (look.run session).2) = _
    rw [reads]
  rw [run, run, alike.files]
  exact ⟨.ok rfl, alike⟩

theorem print (lines : List String) :
    Indistinct Eq (lines.forM Host.print) (lines.forM Host.print) := by
  intro session session' alike
  rw [run_print, run_print]
  exact ⟨.ok rfl, alike.files, congrArg (lines.reverse ++ ·) alike.printed⟩

theorem findGame (name : String) : Indistinct Eq (findGame name) (findGame name) := by
  unfold CommandLine.findGame
  split
  · exact pure rfl
  · refine bind_same (ofFiles (fun files => files.isFile name) fun _ => rfl) fun isFile => ?_
    split
    · refine bind_same (ofFiles (fun files => files.readText name) fun _ => rfl) fun read => ?_
      refine bind_same (orFail _ _) fun text => ?_
      exact bind_same (orFail _ _) fun config => pure rfl
    · exact throw _

theorem loadState (board : Board) (path : String) :
    Indistinct Eq (loadState board path) (loadState board path) := by
  unfold CommandLine.loadState
  refine bind_same (ofFiles (fun files => files.readText path) fun _ => rfl) fun read => ?_
  refine bind_same (orFail _ _) fun text => ?_
  exact bind_same (orFail _ _) fun value => orFail _ _

theorem write {first second : Notebook} (unfiled : Unfiled first second)
    (notes notes' : List Log.Note) :
    Indistinct Unfiled (first.write notes) (second.write notes') := by
  intro session session' alike
  obtain ⟨kept, after, wrote, printed, noted⟩ := first.run_write notes session
  obtain ⟨kept', after', wrote', printed', noted'⟩ := second.run_write notes' session'
  rw [wrote, wrote']
  refine ⟨.ok ⟨noted.file.trans unfiled.1, noted'.file.trans unfiled.2⟩, ?_, ?_⟩
  · rw [noted.files unfiled.1, noted'.files unfiled.2, alike.files]
  · rw [printed, printed', alike.printed]

theorem runFrames {first second : Notebook} (unfiled : Unfiled first second) (verbose : Bool)
    (board : Board) (finished count : Nat) :
    Indistinct SameBoard (runFrames first verbose board finished count)
      (runFrames second verbose board finished count) := by
  intro session session' alike
  obtain ⟨kept, after, ran, printed, noted⟩ :=
    run_runFrames first verbose board finished count session
  obtain ⟨kept', after', ran', printed', noted'⟩ :=
    run_runFrames second verbose board finished count session'
  rw [ran, ran']
  refine ⟨?_, ?_, ?_⟩
  · cases board.runFrames count with
    | ok next => exact .ok ⟨⟨noted.file.trans unfiled.1, noted'.file.trans unfiled.2⟩, rfl⟩
    | error panic => exact .error _
  · rw [noted.files unfiled.1, noted'.files unfiled.2, alike.files]
  · rw [printed, printed', alike.printed]

theorem loadFolder {first second : Notebook} (unfiled : Unfiled first second) (board : Board)
    (path : String) :
    Indistinct SameBoard (loadFolder first board path) (loadFolder second board path) := by
  unfold CommandLine.loadFolder
  refine bind_same (ofFiles (fun files => files.romFiles path) fun _ => rfl) fun read => ?_
  refine bind_same (orFail _ _) fun files => ?_
  exact bind (write unfiled _ _) fun unfiled => pure ⟨unfiled, rfl⟩

theorem writeText (path text : String) :
    Indistinct Eq (Host.writeText path text) (Host.writeText path text) := by
  intro session session' alike
  let change : Content → Content := fun _ => Content.empty.add text.toUTF8
  change Matches Eq (Except.ok (Session.update path change session).1)
      (Except.ok (Session.update path change session').1) ∧
    Session.Alike (Session.update path change session).2 (Session.update path change session').2
  unfold Session.update
  rw [alike.files]
  cases session'.files.update path change with
  | ok files => exact ⟨.ok rfl, rfl, alike.printed⟩
  | error error => exact ⟨.ok rfl, alike⟩

/-- Tasks that leave the session as it is may be left out, whatever they find. -/
theorem skip {first : Task (StateM Session) α} {second : Task (StateM Session) α'}
    {value : α} {value' : α'} {next : α → Task (StateM Session) β}
    {next' : α' → Task (StateM Session) β'}
    (finds : ∀ session, first.run session = (.ok value, session))
    (finds' : ∀ session, second.run session = (.ok value', session))
    (later : Indistinct After (next value) (next' value')) :
    Indistinct After (first >>= next) (second >>= next') := by
  intro session session' alike
  rw [run_bind_of_ok (finds session), run_bind_of_ok (finds' session')]
  exact later alike

end Indistinct

theorem run_openNotebook {arguments : Arguments} {levels : Log.Levels}
    (stream : arguments.logFile = none) (readable : readLevels arguments = .ok levels)
    (session : Session) :
    (openNotebook arguments : Task (StateM Session) Notebook).run session =
      (.ok ⟨{ levels }, none⟩, session) := by
  unfold openNotebook
  rw [readable, stream]
  rfl

/-! ## Games -/

/-- The board of a game with its program images. -/
def loadedBoard (notebook : Notebook) (arguments : Arguments) (game : Game) :
    Task (StateM Session) (Notebook × Board) :=
  match arguments.roms with
  | some path => loadFolder notebook (Board.new game) path
  | none => pure (notebook, Board.new game)

/-- A board with its saved state. -/
def restoredBoard (arguments : Arguments) (board : Board) : Task (StateM Session) Board :=
  match arguments.load with
  | some path => loadState board path
  | none => pure board

/-- Run the frames that are asked for and save the state. -/
def finishGame (arguments : Arguments) (notebook : Notebook) (board : Board) :
    Task (StateM Session) Unit := do
  let board := board.setInput (.ofList (arguments.press.map (·, true)))
  let verbose := arguments.debug && !arguments.quiet
  let result ← runFrames notebook verbose board 0 arguments.frames.toNat
  unless arguments.quiet do Host.print (runLine result.2)
  orFail (fun error => .refused error.message)
    (← Host.writeText arguments.save result.2.save.indented)

theorem runGame_eq (arguments : Arguments) (name : String) :
    (runGame arguments name : Task (StateM Session) Unit) = (do
      let notebook ← openNotebook arguments
      let game ← findGame name
      let notebook ← notebook.write game.powerOnNotes
      let loaded ← loadedBoard notebook arguments game
      let board ← restoredBoard arguments loaded.2
      finishGame arguments loaded.1 board) := by
  unfold runGame loadedBoard restoredBoard
  congr 1
  funext notebook
  congr 1
  funext game
  congr 1
  funext notebook
  cases arguments.roms with
  | none =>
      cases arguments.load with
      | none => rfl
      | some path => rfl
  | some folder =>
      cases arguments.load with
      | none => rfl
      | some path => rfl

theorem loadedBoard_indistinct {first second : Notebook} (unfiled : Unfiled first second)
    (arguments : Arguments) (game : Game) :
    Indistinct SameBoard (loadedBoard first arguments game)
      (loadedBoard second arguments game) := by
  unfold loadedBoard
  cases arguments.roms with
  | none => exact .pure ⟨unfiled, rfl⟩
  | some folder => exact .loadFolder unfiled _ folder

theorem restoredBoard_indistinct (arguments : Arguments) (board : Board) :
    Indistinct Eq (restoredBoard arguments board) (restoredBoard arguments board) := by
  unfold restoredBoard
  cases arguments.load with
  | none => exact .pure rfl
  | some path => exact .loadState board path

theorem finishGame_indistinct {first second : Notebook} (unfiled : Unfiled first second)
    (arguments : Arguments) (board : Board) :
    Indistinct Eq (finishGame arguments first board) (finishGame arguments second board) := by
  unfold finishGame
  refine .bind (.runFrames unfiled _ _ _ _) ?_
  rintro ⟨notebook, board⟩ ⟨notebook', _⟩ ⟨-, rfl⟩
  have save : Indistinct Eq
      (Host.writeText arguments.save board.save.indented >>=
        orFail fun error => .refused error.message)
      (Host.writeText arguments.save board.save.indented >>=
        orFail fun error => .refused error.message) :=
    .bind_same (.writeText _ _) fun result => .orFail _ result
  dsimp only
  split
  · exact save
  · exact .bind_same (.print [runLine board]) fun _ => save

/-- Without a file for notes, games that differ in them only are run in the same way. -/
theorem runGame_indistinct {arguments : Arguments} {level : String} {choices : List String}
    {levels levels' : Log.Levels} (stream : arguments.logFile = none)
    (readable : readLevels arguments = .ok levels)
    (readable' : readLevels { arguments with logLevel := level, log := choices } = .ok levels')
    (name : String) :
    Indistinct Eq (runGame arguments name)
      (runGame { arguments with logLevel := level, log := choices } name) := by
  rw [runGame_eq, runGame_eq]
  refine .skip (run_openNotebook stream readable) (run_openNotebook stream readable') ?_
  -- From here on the notebooks are the only difference.
  refine .bind_same (.findGame name) fun game => ?_
  refine .bind (.write ⟨rfl, rfl⟩ _ _) fun unfiled => ?_
  refine .bind (loadedBoard_indistinct unfiled arguments game) ?_
  rintro ⟨notebook, board⟩ ⟨notebook', _⟩ ⟨unfiled, rfl⟩
  exact .bind_same (restoredBoard_indistinct arguments board)
    (finishGame_indistinct unfiled arguments)

theorem perform_indistinct {arguments : Arguments} {level : String} {choices : List String}
    {levels levels' : Log.Levels} (stream : arguments.logFile = none)
    (readable : readLevels arguments = .ok levels)
    (readable' : readLevels { arguments with logLevel := level, log := choices } = .ok levels') :
    Indistinct Eq (perform arguments)
      (perform { arguments with logLevel := level, log := choices }) := by
  unfold perform
  dsimp only
  split
  · exact .print _
  · cases arguments.game with
    | none => exact .throw _
    | some name => exact runGame_indistinct stream readable readable' name

end Cabinet.CommandLine
