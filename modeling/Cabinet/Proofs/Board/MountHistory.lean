import Mathlib.Data.List.Induction
import Cabinet.Preset
import Cabinet.Proofs.Board.Mounting
import Cabinet.Proofs.Board.Reachable

/-!
# What the list of mounted images tells

Images are put into regions by files that are loaded and by mounting, and taken
away by unmounting. A file finds its region by a token that occurs in its name, an
identifier by the token itself, and the list of mounted images keeps the tokens of
the regions that were found. The three rules agree on the region that an identifier
names: it counts as mounted exactly if the last thing that happened to its image
since the board began with its game was that one was put there.
-/

namespace Cabinet

namespace Board

/--
What happens to the image of a region: one is put there or taken away, or the board begins
with another game, without images.
-/
inductive ImageEvent where
  | filled
  | emptied
  | renewed
deriving DecidableEq

/-- What an operation on a board does to the image of a region. -/
def Operation.imageEvent? (board : Board) (region : RomRegion) : Operation → Option ImageEvent
  | .switch _ => some .renewed
  | .loadRoms files =>
      if files.any fun file => file.region? board.romRegions = some region then some .filled
      else none
  | .mount id bytes =>
      if region.isNamed id && (board.mount id bytes).isOk then some .filled else none
  | .unmount id => if region.isNamed id && (board.unmount id).isOk then some .emptied else none
  | .setInput _ | .runFrame | .reset | .restore _ => none

/-- What happens to the image of a region during operations, in order. -/
def imageEvents (board : Board) (region : RomRegion) : List Operation → List ImageEvent
  | [] => []
  | operation :: later =>
      (operation.imageEvent? board region).toList ++
        (board.perform operation).imageEvents region later

theorem performAll_concat (board : Board) (past : List Operation) (operation : Operation) :
    board.performAll (past ++ [operation]) = (board.performAll past).perform operation := by
  rw [performAll, List.foldl_append]
  rfl

theorem imageEvents_concat (board : Board) (region : RomRegion) (past : List Operation)
    (operation : Operation) :
    board.imageEvents region (past ++ [operation]) =
      board.imageEvents region past ++
        (operation.imageEvent? (board.performAll past) region).toList := by
  induction past generalizing board with
  | nil => exact List.append_nil _
  | cons first past ih =>
      rw [List.cons_append, imageEvents, ih (board.perform first), imageEvents, List.append_assoc]
      rfl

/-! ## The region that an identifier names -/

variable {board : Board}

theorem isMounted_iff {id : String} :
    board.isMounted id = true ↔
      ∃ region, board.region? id = some region ∧ region.fileMatch ∈ board.mounted := by
  unfold isMounted
  cases named : board.region? id with
  | none => simp
  | some region => simp

/-- Only another game brings other regions. -/
theorem game_perform {operation : Operation} (stays : ∀ game, operation ≠ .switch game) :
    (board.perform operation).game = board.game := by
  have ofImages {next : Board} (images : board.DiffersInImages next) : next.game = board.game := by
    obtain ⟨change, mounted, rfl⟩ := images
    rfl
  have ofOutcome {outcome : Except BoardError Board}
      (succeeds : ∀ next, outcome = .ok next → next.game = board.game) :
      (board.orStay outcome).game = board.game :=
    @orStay_cases (fun next => next.game = board.game) board outcome rfl succeeds
  cases operation with
  | switch game => exact absurd rfl (stays game)
  | loadRoms files => rfl
  | mount id bytes => exact ofOutcome fun next mounted => ofImages (differs_mount mounted)
  | unmount id => exact ofOutcome fun next unmounted => ofImages (differs_unmount unmounted)
  | setInput input => rfl
  | runFrame => rfl
  | reset => rfl
  | restore value =>
      refine ofOutcome fun next restored => ?_
      obtain ⟨state, -, -, rfl⟩ := restore_eq_ok_iff.mp restored
      rfl

theorem region?_perform {operation : Operation} (stays : ∀ game, operation ≠ .switch game)
    (id : String) : (board.perform operation).region? id = board.region? id := by
  rw [region?, romRegions, config, game_perform stays]
  rfl

/-! ## One operation -/

theorem mem_mounted_loadRoms {files : List RomFile} {token : String} :
    token ∈ (board.loadRoms files).mounted ↔
      (∃ file ∈ files, ∃ region, file.region? board.romRegions = some region ∧
        region.fileMatch = token) ∨ token ∈ board.mounted := by
  have folded (loaded : List LoadedRom) (mounted : List String) :
      token ∈ loaded.foldl (fun mounted rom => insertToken rom.token mounted) mounted ↔
        (∃ rom ∈ loaded, token = rom.token) ∨ token ∈ mounted := by
    induction loaded generalizing mounted with
    | nil => simp
    | cons rom loaded ih =>
        rw [List.foldl_cons, ih, mem_insertToken, or_left_comm, ← or_assoc]
        simp only [List.mem_cons, exists_eq_or_imp]
  refine (folded (board.romReport files).loaded board.mounted).trans (or_congr_left ?_)
  change (∃ rom ∈ files.filterMap (RomFile.loaded? board.romRegions), token = rom.token) ↔ _
  constructor
  · rintro ⟨rom, loaded, same⟩
    obtain ⟨file, given, belongs⟩ := List.mem_filterMap.mp loaded
    obtain ⟨region, found, rfl⟩ := Option.map_eq_some_iff.mp belongs
    exact ⟨file, given, region, found, same.symm⟩
  · rintro ⟨file, given, region, found, same⟩
    have belongs : file.loaded? board.romRegions = some _ :=
      Option.map_eq_some_iff.mpr ⟨region, found, rfl⟩
    exact ⟨_, List.mem_filterMap.mpr ⟨file, given, belongs⟩, same.symm⟩

/-- The token of the region that an identifier names is there if the last event left it there. -/
def Keeps (board : Board) (region : RomRegion) (event : Option ImageEvent) (next : Board) : Prop :=
  region.fileMatch ∈ next.mounted ↔
    event = some .filled ∨ event = none ∧ region.fileMatch ∈ board.mounted

variable {id : String} {region : RomRegion}

theorem keeps_of_mounted_eq {next : Board} (same : next.mounted = board.mounted) :
    board.Keeps region none next := by
  rw [Keeps, same]
  simp

theorem keeps_loadRoms (named : board.region? id = some region) (files : List RomFile) :
    board.Keeps region ((Operation.loadRoms files).imageEvent? board region)
      (board.loadRoms files) := by
  have belongs : (∃ file ∈ files, ∃ other, file.region? board.romRegions = some other ∧
      other.fileMatch = region.fileMatch) ↔
      (files.any fun file => file.region? board.romRegions = some region) = true := by
    rw [List.any_eq_true]
    refine exists_congr fun file => and_congr_right fun _ => ?_
    rw [decide_eq_true_eq]
    constructor
    · rintro ⟨other, found, token⟩
      have same : other = region :=
        @RomRegion.eq_of_token _ _ _ _ (fun token => Text.occursIn (Text.lower token)
          (Text.lower file.name)) named found token
      rwa [same] at found
    · exact fun found => ⟨region, found, rfl⟩
  rw [Keeps, mem_mounted_loadRoms, belongs, Operation.imageEvent?]
  split
  · rename_i filled
    simp [filled]
  · rename_i left
    simp [left]

/-- A name that stands for a region stands for the one with the token of a first region
exactly if that region has the name. -/
theorem token_eq_iff (named : board.region? id = some region) {name : String} {other : RomRegion}
    (found : board.region? name = some other) :
    region.fileMatch = other.fileMatch ↔ region.isNamed name = true := by
  constructor
  · intro same
    have isNamed := List.find?_some found
    rwa [RomRegion.isNamed, ← same] at isNamed
  · intro renamed
    rw [region?_eq_of_isNamed named renamed] at found
    cases found
    rfl

/-- A name that stands for no region is not one of a region that an identifier names. -/
theorem not_isNamed_of_none (named : board.region? id = some region) {name : String}
    (unnamed : board.region? name = none) : region.isNamed name = false := by
  cases renamed : region.isNamed name with
  | false => rfl
  | true =>
      rw [region?_eq_of_isNamed named renamed] at unnamed
      cases unnamed

theorem keeps_mount (named : board.region? id = some region) (name : String)
    (bytes : List UInt8) :
    board.Keeps region ((Operation.mount name bytes).imageEvent? board region)
      (board.orStay (board.mount name bytes)) := by
  cases found : board.region? name with
  | none =>
      rw [Operation.imageEvent?, not_isNamed_of_none named found, mount_of_none found]
      exact keeps_of_mounted_eq rfl
  | some other =>
      rw [Operation.imageEvent?, mount_of_some found, Keeps]
      change region.fileMatch ∈ insertToken other.fileMatch board.mounted ↔ _
      rw [mem_insertToken, token_eq_iff named found]
      cases region.isNamed name <;> simp [Except.isOk, Except.toBool]

theorem keeps_unmount (named : board.region? id = some region) (name : String) :
    board.Keeps region ((Operation.unmount name).imageEvent? board region)
      (board.orStay (board.unmount name)) := by
  cases found : board.region? name with
  | none =>
      rw [Operation.imageEvent?, not_isNamed_of_none named found, unmount_of_none found]
      exact keeps_of_mounted_eq rfl
  | some other =>
      rw [Operation.imageEvent?, unmount_of_some found, Keeps]
      change region.fileMatch ∈ board.mounted.filter (fun token => token != other.fileMatch) ↔ _
      rw [List.mem_filter, bne_iff_ne, ne_eq, token_eq_iff named found]
      cases region.isNamed name <;> simp [Except.isOk, Except.toBool]

/-- Of the region that an identifier names, the list of mounted images keeps what happens last. -/
theorem keeps_perform {operation : Operation}
    (named : (board.perform operation).region? id = some region) :
    board.Keeps region (operation.imageEvent? board region) (board.perform operation) := by
  by_cases switches : ∃ game, operation = .switch game
  · obtain ⟨game, rfl⟩ := switches
    simp [Keeps, Operation.imageEvent?, perform, switch]
  · rw [region?_perform (not_exists.mp switches)] at named
    cases operation with
    | switch game => exact absurd ⟨game, rfl⟩ switches
    | loadRoms files => exact keeps_loadRoms named files
    | mount name bytes => exact keeps_mount named name bytes
    | unmount name => exact keeps_unmount named name
    | setInput input => exact keeps_of_mounted_eq rfl
    | runFrame => exact keeps_of_mounted_eq rfl
    | reset => exact keeps_of_mounted_eq rfl
    | restore value =>
        refine keeps_of_mounted_eq ?_
        exact @orStay_cases (fun next => next.mounted = board.mounted) board _ rfl
          fun next restored => by
            obtain ⟨state, -, -, rfl⟩ := restore_eq_ok_iff.mp restored
            rfl

/-! ## All operations -/

/-- The region that an identifier names has its token in the list if an image came last. -/
theorem mem_mounted_performAll (game : Game) (operations : List Operation)
    (named : ((new game).performAll operations).region? id = some region) :
    region.fileMatch ∈ ((new game).performAll operations).mounted ↔
      ((new game).imageEvents region operations).getLast? = some .filled := by
  -- The last operation decides, so the list is taken apart from its end.
  induction operations using List.reverseRecOn with
  | nil => exact iff_of_false List.not_mem_nil nofun
  | append_singleton past operation ih =>
      rw [performAll_concat] at named ⊢
      rw [imageEvents_concat, List.getLast?_append]
      refine (keeps_perform named).trans ?_
      cases event : operation.imageEvent? ((new game).performAll past) region with
      | some event => simp
      | none =>
          have stays (other : Game) : operation ≠ .switch other := by
            rintro rfl
            cases event
          rw [region?_perform stays] at named
          rw [ih named]
          simp

/--
An identifier counts as mounted exactly if it names a region and the last thing that
happened to the image of the first such region was that one was put there. An
identifier that names no region is refused before anything changes, so the result is an
error and no board, and the old board stays.
-/
theorem mounted_tells_history (game : Game) (operations : List Operation) (id : String) :
    let board := (new game).performAll operations
    (board.isMounted id = true ↔ ∃ region, board.region? id = some region ∧
      ((new game).imageEvents region operations).getLast? = some .filled) ∧
    (∀ bytes, (board.mount id bytes).isOk = (board.region? id).isSome) ∧
    (board.unmount id).isOk = (board.region? id).isSome ∧
    (board.region? id = none → ∀ bytes,
      board.perform (.mount id bytes) = board ∧ board.perform (.unmount id) = board) := by
  intro board
  refine ⟨?_, ?_, ?_, ?_⟩
  · rw [isMounted_iff]
    exact exists_congr fun region => and_congr_right (mem_mounted_performAll game operations)
  · intro bytes
    cases found : board.region? id with
    | none => rw [mount_of_none found]; rfl
    | some region => rw [mount_of_some found]; rfl
  · cases found : board.region? id with
    | none => rw [unmount_of_none found]; rfl
    | some region => rw [unmount_of_some found]; rfl
  · intro unnamed bytes
    rw [perform, perform, mount_of_none unnamed, unmount_of_none unnamed]
    exact ⟨rfl, rfl⟩

/-- An image that is taken away and one that is mounted, the identifier spelled differently. -/
theorem mounted_tells_history_respelled :
    let operations : List Operation :=
      [.loadRoms [⟨"invaders.h", [0xC3]⟩], .unmount "INVADERS.H", .mount "Invaders.h" [0x76]]
    let board := (new ⟨Preset.spaceInvaders, {}⟩).performAll operations
    board.isMounted "invaders.H" = true ∧ board.region? "invaders" = none ∧
      board.perform (.mount "invaders" []) = board := by
  intro operations board
  have named : board.region? "invaders.H" = some (Preset.romAt 0x0000 2048 "invaders.h") := rfl
  have unnamed : board.region? "invaders" = none := rfl
  obtain ⟨mounted, -⟩ :=
    mounted_tells_history ⟨Preset.spaceInvaders, {}⟩ operations "invaders.H"
  obtain ⟨-, -, -, stays⟩ :=
    mounted_tells_history ⟨Preset.spaceInvaders, {}⟩ operations "invaders"
  exact ⟨mounted.mpr ⟨_, named, rfl⟩, unnamed, (stays unnamed []).1⟩

end Board

end Cabinet
