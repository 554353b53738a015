import Cabinet.Proofs.Board.Resume

/-!
# The life of a board

A board that changes its game keeps the machine and has every part of it set
anew. A reset keeps the memory, the mounted images and the waiting controls, and
relies on the port table being the game's own, as it is on every board that can
be reached. So neither lets anything through of what the board did before, and
boards with the same game, memory and controls go on alike once they are reset.
-/

namespace Cabinet

namespace Board

theorem switch_eq_new (board : Board) (game : Game) : board.switch game = new game := by
  rw [switch, Game.bind_eq_powerOn]
  rfl

/-- A new board of this game, but for its memory, its mounted images and its waiting controls. -/
def renewed (board : Board) : Board :=
  { (new board.game).mapMemory fun _ => board.memory with
    input := board.input
    mounted := board.mounted }

/--
A reset leaves the ports and the pace alone. They are those of a new board, because
no port was ever rebound and a board keeps the pace of its own game.
-/
theorem WellFormed.reset_eq {board : Board} (sound : board.WellFormed) :
    board.reset = board.renewed := by
  obtain ⟨game, ⟨cpu, ⟨memory, ports, devices⟩⟩, input, frameIndex, cyclesPerFrame,
    lastFrameCycles, mounted, paced⟩ := board
  have bound : ports = game.portTable := sound.ports
  subst paced
  rw [renewed, new, Game.powerOn, Game.bind_eq, bound]
  rfl

theorem reset_reset (board : Board) : board.reset.reset = board.reset := rfl

/-- After a reset nothing is left of what the boards did before. -/
theorem WellFormed.alike_reset {board other : Board} (sound : board.WellFormed)
    (otherSound : other.WellFormed) (game : other.game = board.game)
    (memory : other.memory = board.memory) (input : other.input.Alike board.input) :
    Alike other.reset board.reset := by
  rw [sound.reset_eq, otherSound.reset_eq, renewed, renewed, game, memory]
  exact
    { game := rfl
      cpu := rfl
      memory := rfl
      ports := rfl
      devices := rfl
      frameIndex := rfl
      input := input }

/--
What a change of games and a reset leave of a board's history. Under another game the board
is a new one, and a reset makes it a new one but for the memory, the controls and the list
of images; a second reset changes nothing. Boards that have these three things in common are
the same board after a reset, and memory and controls alone decide what is shown and saved
later.
-/
structure Forgets (board : Board) : Prop where
  switch : ∀ game, board.switch game = new game
  reset : board.reset =
    { (new board.game).mapMemory fun _ => board.memory with
      input := board.input
      mounted := board.mounted }
  again : board.reset.reset = board.reset
  same : ∀ other, Reachable other → other.game = board.game → other.memory = board.memory →
    other.input = board.input → other.mounted = board.mounted → other.reset = board.reset
  later : ∀ other, Reachable other → other.game = board.game → other.memory = board.memory →
    other.input.same board.input = true →
      ∀ plays, other.reset.observe plays = board.reset.observe plays

/-- No board carries anything of its history over to another game or past a reset. -/
theorem reachable_forgets {board : Board} (reachable : Reachable board) : board.Forgets where
  switch := board.switch_eq_new
  reset := reachable.wellFormed.reset_eq
  again := board.reset_reset
  same := by
    intro other otherReachable game memory input mounted
    rw [reachable.wellFormed.reset_eq, otherReachable.wellFormed.reset_eq]
    rw [renewed, renewed, game, memory, input, mounted]
  later := by
    intro other otherReachable game memory input
    have alike := reachable.wellFormed.alike_reset otherReachable.wellFormed game memory
      (Buttons.alike_of_same input)
    exact alike.observe

/-- A board that ran a program for two frames. -/
theorem reachable_forgets_running :
    let loaded := (new ⟨Preset.spaceInvaders, {}⟩).perform
      (.loadRoms [⟨"invaders.h", [0xFB, 0x76]⟩])
    let running := (loaded.perform .runFrame).perform .runFrame
    Reachable running ∧ running.Forgets := by
  intro loaded running
  have reachable : Reachable running :=
    (((Reachable.new _).perform _).perform .runFrame).perform .runFrame
  exact ⟨reachable, reachable_forgets reachable⟩

end Board

end Cabinet
