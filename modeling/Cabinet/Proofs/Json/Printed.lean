import Cabinet.Proofs.Json.Written

/-!
# Printed texts

The compact and the indented text of a value are among its texts, if its numbers are
naturals that fit 64 bits.
-/

namespace Cabinet.Json

/-- All numbers are naturals that fit 64 bits. -/
inductive Plain : Json → Prop where
  | null : Plain .null
  | bool (value : Bool) : Plain (.bool value)
  | number {size : Nat} (fits : size < NumberText.wordBound) : Plain (.ofNat size)
  | string (value : String) : Plain (.string value)
  | array {items : List Json} (plain : ∀ item ∈ items, Plain item) : Plain (.array items)
  | object {members : List (String × Json)} (plain : ∀ member ∈ members, Plain member.2) :
      Plain (.object members)

theorem blank_nil : Blank [] :=
  nofun

/-- Parts with commas between them are written if the last one and each of the others can be. -/
theorem written_separate {α : Type} {listed : List α → Part} {part : α → List Char}
    {space closing : List Char} {all : List α} (blank : Blank space)
    (last : ∀ first ∈ all, ∀ before, Blank before →
      Written (listed [first]) (before ++ part first ++ closing))
    (next : ∀ first ∈ all, ∀ later before others, Blank before → Written (listed later) others →
      Written (listed (first :: later)) (before ++ part first ++ ',' :: others))
    (some : all ≠ []) {before : List Char} (blankBefore : Blank before) :
    Written (listed all) (before ++ separate (',' :: space) (all.map part) ++ closing) := by
  induction all generalizing before with
  | nil => exact absurd rfl some
  | cons first later ih =>
      cases later with
      | nil => exact last first List.mem_cons_self before blankBefore
      | cons second later =>
          have others := ih (fun other inside => last other (List.mem_cons_of_mem _ inside))
            (fun other inside => next other (List.mem_cons_of_mem _ inside))
            (List.cons_ne_nil _ _) blank
          have written := next first List.mem_cons_self _ before _ blankBefore others
          rw [List.map_cons, List.map_cons, separate]
          · simp only [List.append_assoc, List.cons_append] at written ⊢
            exact written
          · exact nofun

variable {items : List Json} {members : List (String × Json)} {text : Json → List Char}
  {space gap after before : List Char}

theorem written_items (written : ∀ item ∈ items, Written (.value item) (text item))
    (some : items ≠ []) (blank : Blank space) (blankAfter : Blank after)
    (blankBefore : Blank before) :
    Written (.items items)
      (before ++ separate (',' :: space) (items.map text) ++ (after ++ [']'])) := by
  refine written_separate blank ?_ ?_ some blankBefore
  · intro item inside before blankBefore
    have last := Written.lastItem (.spaced blankBefore blankAfter (written item inside))
    rwa [List.append_assoc] at last
  · intro item inside later before others blankBefore writtenLater
    have next := Written.item (.spaced blankBefore blank_nil (written item inside)) writtenLater
    rwa [List.append_nil] at next

theorem written_members
    (written : ∀ member ∈ members, Written (.value member.2) (text member.2))
    (some : members ≠ []) (blank : Blank space) (blankGap : Blank gap) (blankAfter : Blank after)
    (blankBefore : Blank before) :
    Written (.members members)
      (before ++ separate (',' :: space)
        (members.map fun member => quoted member.1 ++ ':' :: (gap ++ text member.2)) ++
        (after ++ ['\x7d'])) := by
  refine written_separate blank ?_ ?_ some blankBefore
  · rintro ⟨name, value⟩ inside before blankBefore
    have last := @Written.lastMember name value before [] _ blankBefore blank_nil
      (.spaced blankGap blankAfter (written (name, value) inside))
    simp only [List.append_assoc, List.cons_append, List.nil_append] at last ⊢
    exact last
  · rintro ⟨name, value⟩ inside later before others blankBefore writtenLater
    have next := @Written.member name value later before [] _ _ blankBefore blank_nil
      (.spaced blankGap blank_nil (written (name, value) inside)) writtenLater
    simp only [List.append_assoc, List.cons_append, List.nil_append] at next ⊢
    exact next

/-! ## The compact text -/

theorem compactItems_eq (items : List Json) : compactItems items = items.map compactChars := by
  induction items with
  | nil => rfl
  | cons item items ih => rw [compactItems, ih, List.map_cons]

theorem compactMembers_eq (members : List (String × Json)) :
    compactMembers members =
      members.map fun member => quoted member.1 ++ ':' :: ([] ++ member.2.compactChars) := by
  induction members with
  | nil => rfl
  | cons member members ih => rw [compactMembers, ih, List.map_cons]; rfl

theorem Plain.written_compact {json : Json} (plain : Plain json) :
    Written (.value json) json.compactChars := by
  induction plain with
  | null => exact .null
  | bool value =>
      cases value with
      | false => exact .no
      | true => exact .yes
  | @number size fits =>
      have digits : (Number.text (.integer size)).toList = Nat.toDigits 10 size :=
        Nat.toList_repr
      rw [ofNat, compactChars, digits]
      exact .number fits
  | string value => exact .string value
  | @array items _ ih =>
      rw [compactChars, compactItems_eq]
      cases items with
      | nil => exact .emptyArray blank_nil
      | cons item items =>
          exact .array (written_items ih (List.cons_ne_nil _ _) blank_nil blank_nil blank_nil)
  | @object members _ ih =>
      rw [compactChars, compactMembers_eq]
      cases members with
      | nil => exact .emptyObject blank_nil
      | cons member members =>
          exact .object (.refl _)
            (written_members ih (List.cons_ne_nil _ _) blank_nil blank_nil blank_nil blank_nil)

/-! ## The indented text -/

theorem blank_lineBreak (depth : Nat) : Blank (lineBreak depth) := by
  intro c inside
  rw [lineBreak, List.mem_cons, List.mem_replicate] at inside
  obtain rfl | ⟨-, rfl⟩ := inside <;> rfl

theorem indentedItems_eq (depth : Nat) (items : List Json) :
    indentedItems depth items = items.map (indentedChars depth) := by
  induction items with
  | nil => rfl
  | cons item items ih => rw [indentedItems, ih, List.map_cons]

theorem indentedMembers_eq (depth : Nat) (members : List (String × Json)) :
    indentedMembers depth members =
      members.map fun member =>
        quoted member.1 ++ ':' :: ([' '] ++ member.2.indentedChars depth) := by
  induction members with
  | nil => rfl
  | cons member members ih => rw [indentedMembers, ih, List.map_cons]; rfl

theorem blank_space : Blank [' '] := by
  rintro c inside
  cases List.mem_singleton.mp inside
  rfl

theorem block_eq {parts : List (List Char)} (some : parts ≠ []) (depth : Nat)
    (opening closing : Char) :
    block depth opening closing parts =
      opening :: (lineBreak (depth + 1) ++ separate (',' :: lineBreak (depth + 1)) parts ++
        (lineBreak depth ++ [closing])) := by
  cases parts with
  | nil => exact absurd rfl some
  | cons part parts => simp only [block, List.append_assoc, List.cons_append]

theorem Plain.written_indented {json : Json} (plain : Plain json) (depth : Nat) :
    Written (.value json) (json.indentedChars depth) := by
  induction plain generalizing depth with
  | null => exact .null
  | bool value =>
      rw [indentedChars]
      · exact Plain.written_compact (.bool value)
      · exact nofun
      · exact nofun
  | @number size fits =>
      rw [ofNat, indentedChars]
      · exact Plain.written_compact (.number fits)
      · exact nofun
      · exact nofun
  | string value => exact .string value
  | @array items _ ih =>
      rw [indentedChars, indentedItems_eq]
      cases items with
      | nil => exact .emptyArray blank_nil
      | cons item items =>
          have some : (item :: items).map (indentedChars (depth + 1)) ≠ [] := List.cons_ne_nil _ _
          rw [block_eq some]
          exact .array (written_items (fun item inside => ih item inside (depth + 1))
            (List.cons_ne_nil _ _) (blank_lineBreak _) (blank_lineBreak _) (blank_lineBreak _))
  | @object members _ ih =>
      rw [indentedChars, indentedMembers_eq]
      cases members with
      | nil => exact .emptyObject blank_nil
      | cons member members =>
          rw [block_eq (by simp)]
          exact .object (.refl _) (written_members
            (fun member inside => ih member inside (depth + 1)) (List.cons_ne_nil _ _)
            (blank_lineBreak _) blank_space (blank_lineBreak _) (blank_lineBreak _))

/-! ## Whole texts -/

theorem writes_ofList {json : Json} {text : List Char} (written : Written (.value json) text) :
    Writes json (String.ofList text) := by
  have spaced := Written.spaced blank_nil blank_nil written
  rwa [List.nil_append, List.append_nil, ← String.toList_ofList (l := text)] at spaced

theorem Plain.writes_compact {json : Json} (plain : Plain json) : Writes json json.compact :=
  writes_ofList plain.written_compact

theorem Plain.writes_indented {json : Json} (plain : Plain json) : Writes json json.indented :=
  writes_ofList (plain.written_indented 0)

end Cabinet.Json
