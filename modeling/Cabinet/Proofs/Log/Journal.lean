import Cabinet.Effect

/-!
# Journals

A journal is a listener that writes down the lines which a gate lets through; the gate
looks at a clock for every note that is shown. As long as a category does not reach
the limit, the journal holds exactly those of its notes that are shown.
-/

namespace Cabinet.Log

/-- The notes that a table of levels shows. -/
def Levels.shown (levels : Levels) (notes : List Note) : List Note :=
  notes.filter fun note => levels.shows note.category note.level

theorem Levels.shown_cons (levels : Levels) (note : Note) (notes : List Note) :
    levels.shown (note :: notes) =
      if levels.shows note.category note.level = true then note :: levels.shown notes
      else levels.shown notes :=
  List.filter_cons

theorem Levels.shown_append (levels : Levels) (first second : List Note) :
    levels.shown (first ++ second) = levels.shown first ++ levels.shown second :=
  List.filter_append ..

/-! ## Windows -/

namespace Window

/-- One more line is within the limit. -/
def HasRoom (window : Window) (limit now : Nat) : Prop :=
  (window.recent now).times.length < limit

theorem ask_of_room {window : Window} {limit now : Nat} (room : window.HasRoom limit now) :
    (window.ask limit now).1.passes = true ∧
      (window.ask limit now).2.times = (window.recent now).times ++ [now] := by
  have few : (window.recent now).times.length < limit := room
  unfold ask
  dsimp only
  rw [if_pos few]
  split
  · exact ⟨rfl, rfl⟩
  · exact ⟨rfl, rfl⟩

theorem length_recent_le (window : Window) (now : Nat) :
    (window.recent now).times.length ≤ window.times.length :=
  (List.dropWhile_sublist _).length_le

end Window

/-! ## Lines -/

namespace Line

/-- The text of a note of a certain category and level. -/
def textOf? (category : Category) (level : Level) : Line → Option String
  | .note other level' text => if other = category ∧ level' = level then some text else none
  | .heldBack _ _ => none

end Line

/-- The texts of a category and level among notes. -/
def textsOf (category : Category) (level : Level) (notes : List Note) : List String :=
  notes.filterMap fun note => (Line.ofNote note).textOf? category level

theorem textsOf_cons (category : Category) (level : Level) (note : Note) (notes : List Note) :
    textsOf category level (note :: notes) =
      ((Line.ofNote note).textOf? category level).toList ++ textsOf category level notes := by
  rw [textsOf, List.filterMap_cons]
  cases (Line.ofNote note).textOf? category level with
  | none => rfl
  | some text => rfl

theorem textsOf_append (category : Category) (level : Level) (first second : List Note) :
    textsOf category level (first ++ second) =
      textsOf category level first ++ textsOf category level second :=
  List.filterMap_append

theorem textsOf_eq_nil {category : Category} {level : Level} {notes : List Note}
    (others : ∀ note ∈ notes, ¬ (note.category = category ∧ note.level = level)) :
    textsOf category level notes = [] := by
  rw [textsOf, List.filterMap_eq_nil_iff]
  intro note member
  exact if_neg (others note member)

/-- A table that shows a category up to a level hides none of these texts. -/
theorem textsOf_shown {levels : Levels} {category : Category} {level : Level}
    (shows : levels.shows category level = true) (notes : List Note) :
    textsOf category level (levels.shown notes) = textsOf category level notes := by
  induction notes with
  | nil => rfl
  | cons note notes ih =>
      rw [Levels.shown_cons]
      split
      · rw [textsOf_cons, textsOf_cons, ih]
      · rename_i hidden
        have other : ¬ (note.category = category ∧ note.level = level) := by
          rintro ⟨rfl, rfl⟩
          exact hidden shows
        have none : (Line.ofNote note).textOf? category level = Option.none := if_neg other
        rw [textsOf_cons, none, ih]
        rfl

/-! ## Gates -/

namespace Gate

variable {gate : Gate} {note : Note} {category : Category} {now : Nat}

theorem place_inj {first second : Category} : first.place = second.place ↔ first = second := by
  cases first <;> cases second <;> decide

@[simp] theorem limit_judge : (gate.judge note now).2.limit = gate.limit := rfl

theorem window_judge : (gate.judge note now).2.window category =
    if note.category = category then ((gate.window note.category).ask gate.limit now).2
    else gate.window category := by
  have places : note.category.place.val = category.place.val ↔ note.category = category :=
    Fin.val_inj.trans place_inj
  change (gate.windows.set note.category.place _)[category.place.val] = _
  rw [Vector.getElem_set]
  simp only [places]
  rfl

end Gate

/-! ## Journals -/

/-- A gate, a clock that shows something at every reading, and what is written, in order. -/
structure Journal where
  gate : Gate
  clock : Nat → Nat
  readings : Nat := 0
  lines : List Line := []

namespace Journal

/-- What the clock shows next. -/
def now (journal : Journal) : Nat :=
  journal.clock journal.readings

/-- Write down what comes of a note. -/
def say (journal : Journal) (note : Note) : Journal :=
  if journal.gate.shows note then
    let (lines, gate) := journal.gate.judge note journal.now
    { journal with gate, readings := journal.readings + 1, lines := journal.lines ++ lines }
  else journal

instance : Listener Journal where
  hear := say

/-- Write down one note after the other. -/
def sayAll (journal : Journal) (notes : List Note) : Journal :=
  notes.foldl say journal

/-- The texts of a category and level that are written. -/
def texts (journal : Journal) (category : Category) (level : Level) : List String :=
  journal.lines.filterMap (Line.textOf? category level)

/-- None of these notes reaches the limit of a category. -/
def InLimit (journal : Journal) (category : Category) : List Note → Prop
  | [] => True
  | note :: notes =>
      (note.category = category → journal.gate.shows note = true →
        (journal.gate.window category).HasRoom journal.gate.limit journal.now) ∧
      (journal.say note).InLimit category notes

/-- A journal hears notes by writing them down. -/
theorem sayAll_eq (journal : Journal) (notes : List Note) :
    journal.sayAll notes = notes.foldl Listener.hear journal := rfl

theorem sayAll_append (journal : Journal) (first second : List Note) :
    journal.sayAll (first ++ second) = (journal.sayAll first).sayAll second :=
  List.foldl_append

theorem say_of_hidden {journal : Journal} {note : Note}
    (hidden : ¬ journal.gate.shows note = true) : journal.say note = journal :=
  if_neg hidden

theorem say_of_shown {journal : Journal} {note : Note} (shown : journal.gate.shows note = true) :
    journal.say note =
      let judged := journal.gate.judge note journal.now
      { journal with
        gate := judged.2
        readings := journal.readings + 1
        lines := journal.lines ++ judged.1 } :=
  if_pos shown

@[simp] theorem levels_say (journal : Journal) (note : Note) :
    (journal.say note).gate.levels = journal.gate.levels := by
  unfold say
  split <;> rfl

/-- A count of lines that were held back is no text of a note. -/
theorem textOf?_heldBack (category : Category) (level : Level) (other : Category)
    (counts : List Nat) :
    (counts.map (.heldBack other)).filterMap (Line.textOf? category level) = [] := by
  rw [List.filterMap_map, List.filterMap_eq_nil_iff]
  intro count _
  rfl

theorem texts_say {journal : Journal} {category : Category} {level : Level} {note : Note}
    (room : note.category = category → journal.gate.shows note = true →
      (journal.gate.window category).HasRoom journal.gate.limit journal.now) :
    (journal.say note).texts category level =
      journal.texts category level ++
        textsOf category level (journal.gate.levels.shown [note]) := by
  have one : journal.gate.levels.shown [note] =
      if journal.gate.shows note = true then [note] else [] := Levels.shown_cons ..
  by_cases shown : journal.gate.shows note = true
  · rw [one, if_pos shown, say_of_shown shown]
    unfold texts Gate.judge
    dsimp only
    rw [List.filterMap_append, List.filterMap_append, textOf?_heldBack, List.nil_append]
    congr 1
    by_cases same : note.category = category
    · have passes := (Window.ask_of_room (room same shown)).1
      rw [← same] at passes
      rw [if_pos passes]
      rfl
    · -- Whether the line is held back makes no difference to another category.
      have none : textsOf category level [note] = [] := by
        apply textsOf_eq_nil
        intro other member both
        rw [List.mem_singleton.mp member] at both
        exact same both.1
      split
      · rfl
      · exact none.symm
  · rw [one, if_neg shown, say_of_hidden shown]
    exact (List.append_nil _).symm

/-- Below the limit no text of a category that is shown is missing, and there is no other. -/
theorem texts_sayAll {journal : Journal} {category : Category} {level : Level}
    {notes : List Note} (within : journal.InLimit category notes) :
    (journal.sayAll notes).texts category level =
      journal.texts category level ++
        textsOf category level (journal.gate.levels.shown notes) := by
  induction notes generalizing journal with
  | nil => exact (List.append_nil _).symm
  | cons note notes ih =>
      obtain ⟨room, rest⟩ := within
      have later := ih rest
      rw [levels_say, texts_say room, List.append_assoc, ← textsOf_append,
        ← Levels.shown_append] at later
      exact later

/-! ## Journals that go on -/

theorem clock_sayAll (journal : Journal) (notes : List Note) :
    (journal.sayAll notes).clock = journal.clock := by
  induction notes generalizing journal with
  | nil => rfl
  | cons note notes ih =>
      have first : (journal.say note).clock = journal.clock := by
        unfold say
        split <;> rfl
      exact (ih (journal.say note)).trans first

/-- A journal with other lines in front of its own. -/
def behind (journal : Journal) (earlier : List Line) : Journal :=
  { journal with lines := earlier ++ journal.lines }

theorem say_behind (journal : Journal) (earlier : List Line) (note : Note) :
    (journal.behind earlier).say note = (journal.say note).behind earlier := by
  by_cases shown : journal.gate.shows note = true
  · rw [say_of_shown shown, say_of_shown (show (journal.behind earlier).gate.shows note = true
      from shown)]
    exact congrArg (fun lines : List Line => ({ journal with
      gate := (journal.gate.judge note journal.now).2
      readings := journal.readings + 1
      lines } : Journal)) (List.append_assoc _ _ _)
  · rw [say_of_hidden shown]
    exact say_of_hidden shown

/-- What is written does not depend on what was written before. -/
theorem sayAll_behind (journal : Journal) (earlier : List Line) (notes : List Note) :
    (journal.behind earlier).sayAll notes = (journal.sayAll notes).behind earlier := by
  induction notes generalizing journal with
  | nil => rfl
  | cons note notes ih =>
      change ((journal.behind earlier).say note).sayAll notes = _
      rw [say_behind]
      exact ih (journal.say note)

/-- There is room for as many notes as the limit leaves. -/
theorem inLimit_of_few {journal : Journal} {category : Category} {notes : List Note}
    (few : (journal.gate.window category).times.length + notes.length ≤ journal.gate.limit) :
    journal.InLimit category notes := by
  induction notes generalizing journal with
  | nil => trivial
  | cons note notes ih =>
      -- A note takes at most one place in the window of its category.
      rw [List.length_cons] at few
      have recent := (journal.gate.window category).length_recent_le journal.now
      have room : (journal.gate.window category).HasRoom journal.gate.limit journal.now := by
        unfold Window.HasRoom
        omega
      refine ⟨fun _ _ => room, ih ?_⟩
      by_cases shown : journal.gate.shows note = true
      · rw [say_of_shown shown]
        dsimp only
        rw [Gate.window_judge, Gate.limit_judge]
        split
        · rename_i same
          subst same
          rw [(Window.ask_of_room room).2, List.length_append, List.length_singleton]
          omega
        · omega
      · rw [say_of_hidden shown]
        omega

end Journal

end Cabinet.Log
