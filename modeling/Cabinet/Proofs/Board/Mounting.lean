import Mathlib.Data.String.Basic
import Cabinet.Board.Mount
import Cabinet.Proofs.Outcome
import Cabinet.Proofs.Rom

/-!
# Mounting

An image can be mounted and taken away under every identifier that names a region,
and under no other one. The tokens of what is mounted are listed once each, in an
order that does not depend on what came first.
-/

namespace Cabinet

/-! ## The list of tokens -/

section Tokens

variable {token other : String} {tokens : List String}

theorem insertToken_nil (token : String) : insertToken token [] = [token] := rfl

theorem insertToken_same (token : String) (tokens : List String) :
    insertToken token (token :: tokens) = token :: tokens :=
  if_pos rfl

theorem insertToken_of_lt (before : token < other) (tokens : List String) :
    insertToken token (other :: tokens) = token :: other :: tokens := by
  rw [insertToken, if_neg before.ne, if_pos before]

theorem insertToken_of_gt (behind : other < token) (tokens : List String) :
    insertToken token (other :: tokens) = other :: insertToken token tokens := by
  rw [insertToken, if_neg behind.ne', if_neg behind.not_gt]

theorem mem_insertToken :
    other ∈ insertToken token tokens ↔ other = token ∨ other ∈ tokens := by
  induction tokens with
  | nil => exact List.mem_cons
  | cons first tokens ih =>
      rcases lt_trichotomy token first with before | rfl | behind
      · rw [insertToken_of_lt before]
        exact List.mem_cons
      · rw [insertToken_same, List.mem_cons, ← or_assoc, or_self]
      · rw [insertToken_of_gt behind, List.mem_cons, List.mem_cons, ih]
        exact or_left_comm

/-- A token is listed once. -/
theorem insertToken_insertToken (token : String) (tokens : List String) :
    insertToken token (insertToken token tokens) = insertToken token tokens := by
  induction tokens with
  | nil => exact insertToken_same token []
  | cons first tokens ih =>
      rcases lt_trichotomy token first with before | rfl | behind
      · rw [insertToken_of_lt before, insertToken_same]
      · rw [insertToken_same, insertToken_same]
      · rw [insertToken_of_gt behind, insertToken_of_gt behind, ih]

/-- Taking a token away undoes that it was put there. -/
theorem filter_insertToken (token : String) (tokens : List String) :
    (insertToken token tokens).filter (fun other => other != token) =
      tokens.filter fun other => other != token := by
  have itself : ¬ (token != token) = true := by simp
  induction tokens with
  | nil => exact List.filter_cons_of_neg itself
  | cons first tokens ih =>
      rcases lt_trichotomy token first with before | rfl | behind
      · rw [insertToken_of_lt before]
        exact List.filter_cons_of_neg itself
      · rw [insertToken_same]
      · rw [insertToken_of_gt behind, List.filter_cons, List.filter_cons, ih]

/-- The smaller of two tokens may be put there first or last. -/
theorem insertToken_comm_of_lt (less : token < other) (tokens : List String) :
    insertToken token (insertToken other tokens) =
      insertToken other (insertToken token tokens) := by
  induction tokens with
  | nil =>
      rw [insertToken_nil, insertToken_nil, insertToken_of_lt less, insertToken_of_gt less,
        insertToken_nil]
  | cons first tokens ih =>
      rcases lt_trichotomy token first with before | rfl | behind
      · rw [insertToken_of_lt before, insertToken_of_gt less]
        rcases lt_trichotomy other first with sooner | rfl | later
        · rw [insertToken_of_lt sooner, insertToken_of_lt less]
        · rw [insertToken_same, insertToken_of_lt before]
        · rw [insertToken_of_gt later, insertToken_of_lt before]
      · rw [insertToken_same, insertToken_of_gt less, insertToken_same]
      · rw [insertToken_of_gt behind, insertToken_of_gt (behind.trans less),
          insertToken_of_gt behind, insertToken_of_gt (behind.trans less), ih]

/-- The order in which tokens are put there does not matter. -/
theorem insertToken_comm (token other : String) (tokens : List String) :
    insertToken token (insertToken other tokens) =
      insertToken other (insertToken token tokens) := by
  rcases lt_trichotomy token other with less | rfl | greater
  · exact insertToken_comm_of_lt less tokens
  · rfl
  · exact (insertToken_comm_of_lt greater tokens).symm

end Tokens

namespace Board

/-! ## Mounting and unmounting -/

variable {board : Board} {id : String} {region : RomRegion}

/-- The board with other images. -/
def withImages (board : Board) (memory : Memory) (mounted : List String) : Board :=
  { board.mapMemory fun _ => memory with mounted }

/-- The board with an image in a region and nothing behind it. -/
def filled (board : Board) (region : RomRegion) (bytes : List UInt8) : Board :=
  { board.mapMemory fun memory => region.place (region.wipe memory) bytes with
    mounted := insertToken region.fileMatch board.mounted }

/-- The board with nothing in a region. -/
def emptied (board : Board) (region : RomRegion) : Board :=
  { board.mapMemory region.wipe with
    mounted := board.mounted.filter fun token => token != region.fileMatch }

theorem region_of_some (named : board.region? id = some region) : board.region id = .ok region := by
  rw [Board.region, named]

theorem region_of_none (unnamed : board.region? id = none) :
    board.region id = .error (.invalidMountPoint id) := by
  rw [Board.region, unnamed]

theorem mount_of_some (named : board.region? id = some region) (bytes : List UInt8) :
    board.mount id bytes = .ok (board.filled region bytes) := by
  rw [mount, region_of_some named]
  rfl

theorem mount_of_none (unnamed : board.region? id = none) (bytes : List UInt8) :
    board.mount id bytes = .error (.invalidMountPoint id) := by
  rw [mount, region_of_none unnamed]
  rfl

theorem unmount_of_some (named : board.region? id = some region) :
    board.unmount id = .ok (board.emptied region) := by
  rw [unmount, region_of_some named]
  rfl

theorem unmount_of_none (unnamed : board.region? id = none) :
    board.unmount id = .error (.invalidMountPoint id) := by
  rw [unmount, region_of_none unnamed]
  rfl

/-- An identifier of the first region that another identifier names stands for it as well. -/
theorem region?_eq_of_isNamed (named : board.region? id = some region) {name : String}
    (renamed : region.isNamed name = true) : board.region? name = some region := by
  have isNamed := List.find?_some named
  have same : (fun region : RomRegion => region.isNamed name) = fun region => region.isNamed id :=
    funext (RomRegion.isNamed_congr isNamed renamed)
  rw [region?, same]
  exact named

end Board

end Cabinet
