import Cabinet.Proofs.Json.Shown

/-!
# Texts of values

A value has many texts: space may stand between the parts, and the members of an object
may come in any order. This is the grammar of the texts whose numbers are naturals that
fit 64 bits and whose strings escape what has to be escaped. Scanning such a text gives
a node that shows the value, and leaves what follows the text.
-/

namespace Cabinet.Json

/-- Nothing but space. -/
def Blank (space : List Char) : Prop :=
  ∀ c ∈ space, Node.isSpace c = true

/--
A part of a text: a value, a value with space around it, or what stands behind the opening
bracket of an array or of an object that is not empty.
-/
inductive Part where
  | value (json : Json)
  | spaced (json : Json)
  | items (items : List Json)
  | members (members : List (String × Json))

inductive Written : Part → List Char → Prop where
  | null : Written (.value .null) ['n', 'u', 'l', 'l']
  | yes : Written (.value (.bool true)) ['t', 'r', 'u', 'e']
  | no : Written (.value (.bool false)) ['f', 'a', 'l', 's', 'e']
  | number {size : Nat} (fits : size < NumberText.wordBound) :
      Written (.value (.number (.integer size))) (Nat.toDigits 10 size)
  | string (value : String) : Written (.value (.string value)) (quoted value)
  | emptyArray {space : List Char} (blank : Blank space) :
      Written (.value (.array [])) ('[' :: space ++ [']'])
  | emptyObject {space : List Char} (blank : Blank space) :
      Written (.value (.object [])) ('\x7b' :: space ++ ['\x7d'])
  | array {items : List Json} {text : List Char} (written : Written (.items items) text) :
      Written (.value (.array items)) ('[' :: text)
  | object {members ordered : List (String × Json)} {text : List Char}
      (order : ordered.Perm members) (written : Written (.members ordered) text) :
      Written (.value (.object members)) ('\x7b' :: text)
  | spaced {json : Json} {before text after : List Char} (blank : Blank before)
      (blankAfter : Blank after) (written : Written (.value json) text) :
      Written (.spaced json) (before ++ text ++ after)
  | lastItem {item : Json} {text : List Char} (written : Written (.spaced item) text) :
      Written (.items [item]) (text ++ [']'])
  | item {item : Json} {items : List Json} {text others : List Char}
      (written : Written (.spaced item) text) (later : Written (.items items) others) :
      Written (.items (item :: items)) (text ++ ',' :: others)
  | lastMember {name : String} {value : Json} {before gap text : List Char}
      (blank : Blank before) (blankGap : Blank gap) (written : Written (.spaced value) text) :
      Written (.members [(name, value)]) (before ++ quoted name ++ gap ++ ':' :: text ++ ['\x7d'])
  | member {name : String} {value : Json} {members : List (String × Json)}
      {before gap text others : List Char} (blank : Blank before) (blankGap : Blank gap)
      (written : Written (.spaced value) text) (later : Written (.members members) others) :
      Written (.members ((name, value) :: members))
        (before ++ quoted name ++ gap ++ ':' :: text ++ ',' :: others)

/-- A text is one of the texts of a value. -/
def Writes (json : Json) (text : String) : Prop :=
  Written (.spaced json) text.toList

/-! ## Space -/

open Node
open NumberText (Stops)

theorem isSpace_iff {c : Char} :
    isSpace c = true ↔ ((c = ' ' ∨ c = '\n') ∨ c = '\t') ∨ c = '\r' := by
  simp only [isSpace, Bool.or_eq_true, beq_iff_eq]

theorem isSpace_of_isDigit {c : Char} (digit : c.isDigit = true) : isSpace c = false := by
  cases white : isSpace c with
  | false => rfl
  | true => obtain ((rfl | rfl) | rfl) | rfl := isSpace_iff.mp white <;> cases digit

theorem skipSpace_append {space : List Char} (blank : Blank space) (text : List Char) :
    skipSpace (space ++ text) = skipSpace text :=
  List.dropWhile_append_of_pos blank

theorem skipSpace_cons {c : Char} (shown : isSpace c = false) (text : List Char) :
    skipSpace (c :: text) = c :: text := by
  rw [skipSpace, List.dropWhile_cons, shown]
  rfl

/-- Behind the space in front of a name there is the name. -/
theorem skipSpace_quoted {space : List Char} (blank : Blank space) (name : String)
    (rest : List Char) :
    skipSpace (space ++ (quoted name ++ rest)) = '\x22' :: StringText.body name rest := by
  rw [skipSpace_append blank, StringText.quoted_append, skipSpace_cons (by decide)]

theorem skipSpace_colon {space : List Char} (blank : Blank space) (rest : List Char) :
    skipSpace (space ++ ':' :: rest) = ':' :: rest := by
  rw [skipSpace_append blank, skipSpace_cons (by decide)]

theorem stops_nil : Stops [] :=
  nofun

theorem stops_cons {c : Char}
    (other : c.isDigit = false ∧ c ≠ '.' ∧ c ≠ 'e' ∧ c ≠ 'E') (rest : List Char) :
    Stops (c :: rest) := by
  rintro _ ⟨⟩
  exact other

theorem stops_append {space rest : List Char} (blank : Blank space) (stops : Stops rest) :
    Stops (space ++ rest) := by
  cases space with
  | nil => exact stops
  | cons c space =>
      refine stops_cons ?_ (space ++ rest)
      obtain ((rfl | rfl) | rfl) | rfl := isSpace_iff.mp (blank c List.mem_cons_self) <;> decide

/-! ## How a part begins -/

/-- What begins an element. -/
def Begins (text : List Char) : Prop :=
  ∃ c others, skipSpace text = c :: others ∧ c ≠ ']'

theorem begins_cons {c : Char} (shown : isSpace c = false) (other : c ≠ ']')
    (rest : List Char) : Begins (c :: rest) :=
  ⟨c, rest, skipSpace_cons shown rest, other⟩

theorem Written.begins_value {json : Json} {text : List Char}
    (written : Written (.value json) text) (rest : List Char) : Begins (text ++ rest) := by
  cases written with
  | @number size fits =>
      obtain ⟨digit, others, digits, isDigit⟩ := NumberText.exists_digit size
      rw [digits]
      refine begins_cons (isSpace_of_isDigit isDigit) ?_ _
      rintro rfl
      cases isDigit
  | null | yes | no | string | emptyArray | emptyObject | array | object =>
      exact begins_cons (by decide) (by decide) _

theorem Written.begins_spaced {json : Json} {text : List Char}
    (written : Written (.spaced json) text) (rest : List Char) : Begins (text ++ rest) := by
  cases written with
  | @spaced json before text after blank _ written =>
      obtain ⟨c, others, skipped, other⟩ := written.begins_value (after ++ rest)
      refine ⟨c, others, ?_, other⟩
      rw [List.append_assoc, List.append_assoc, skipSpace_append blank, skipped]

theorem Written.begins_items {items : List Json} {text : List Char}
    (written : Written (.items items) text) (rest : List Char) : Begins (text ++ rest) := by
  cases written with
  | lastItem written =>
      rw [List.append_assoc]
      exact written.begins_spaced _
  | item written later =>
      rw [List.append_assoc]
      exact written.begins_spaced _

/-! ## Scanning -/

/--
What scanning a part of a text comes to. Fuel of twice its length is enough: a bracket
costs two units and every element one. A value that stands alone may be a number, so
what follows it must not continue one.
-/
def Part.Scans (text : List Char) : Part → Prop
  | .value json => ∀ fuel rest, 2 * text.length ≤ fuel → Stops rest →
      ∃ node, scan fuel (text ++ rest) = (node, some rest) ∧ Shows json node
  | .spaced json => ∀ fuel rest, 2 * text.length ≤ fuel → Stops rest →
      ∃ node left, scan fuel (text ++ rest) = (node, some left) ∧
        skipSpace left = skipSpace rest ∧ Shows json node
  | .items all => ∀ fuel rest done, 2 * text.length < fuel →
      ∃ nodes, scanItems fuel (text ++ rest) done =
          (.array (done.reverse ++ nodes) .closed, some rest) ∧
        List.Forall₂ Shows all nodes
  | .members all => ∀ fuel rest done, 2 * text.length < fuel →
      ∃ body nodes, skipSpace (text ++ rest) = '\x22' :: body ∧
        scanMembers fuel body done = (.object (done.reverse ++ nodes) .closed, some rest) ∧
        List.Forall₂ ShowsMember all nodes

/-- A text that a value begins with needs fuel. -/
theorem exists_fuel {text : List Char} {fuel : Nat} (some : text ≠ [])
    (enough : 2 * text.length ≤ fuel) : ∃ less, fuel = less + 1 := by
  have length : 0 < text.length := List.length_pos_iff.mpr some
  exact Nat.exists_eq_add_one_of_ne_zero (by omega)

/-- Space in front of a value does not count. -/
theorem scan_append {space : List Char} (blank : Blank space) (fuel : Nat) (text : List Char) :
    scan fuel (space ++ text) = scan fuel text := by
  cases fuel with
  | zero => rfl
  | succ fuel => rw [scan, scan, skipSpace_append blank]

theorem scan_digits {size : Nat} (fits : size < NumberText.wordBound) (fuel : Nat)
    {rest : List Char} (stops : Stops rest) :
    scan (fuel + 1) (Nat.toDigits 10 size ++ rest) =
      (.number (.ok (.integer size)), some rest) := by
  have scanned : Node.scanNumber (Nat.toDigits 10 size ++ rest) =
      (.number (.ok (.integer size)), some rest) := by
    rw [Node.scanNumber, NumberText.scan_toDigits size stops]
    simp only [NumberText.value_digits fits]
  obtain ⟨digit, others, digits, isDigit⟩ := NumberText.exists_digit size
  rw [digits, List.cons_append] at scanned
  rw [← scanned, digits, List.cons_append, scan, skipSpace_cons (isSpace_of_isDigit isDigit)]
  -- No literal name, string or bracket begins with a digit.
  split <;> rename_i same <;> cases same
  all_goals first
    | cases isDigit
    | exact if_pos (Or.inl isDigit)

theorem scan_quoted (value : String) (fuel : Nat) (rest : List Char) :
    scan (fuel + 1) (quoted value ++ rest) = (.string (.ok value), some rest) := by
  rw [StringText.quoted_append]
  change scanString _ = _
  rw [scanString, StringText.skip_body, StringText.value_body]

/-! Brackets -/

theorem scan_emptyArray {text rest : List Char} (fuel : Nat)
    (skipped : skipSpace text = ']' :: rest) :
    scan (fuel + 1) ('[' :: text) = (.array [] .closed, some rest) := by
  rw [scan, skipSpace_cons (by decide)]
  simp only [skipped]

theorem scan_array {text : List Char} (fuel : Nat) (begins : Begins text) :
    scan (fuel + 1) ('[' :: text) = scanItems fuel text [] := by
  obtain ⟨c, others, skipped, other⟩ := begins
  rw [scan, skipSpace_cons (by decide)]
  simp only [skipped]
  split
  · rename_i same
    cases same
  · rename_i same
    cases same
    exact absurd rfl other
  · rfl

theorem scan_emptyObject {text rest : List Char} (fuel : Nat)
    (skipped : skipSpace text = '\x7d' :: rest) :
    scan (fuel + 1) ('\x7b' :: text) = (.object [] .closed, some rest) := by
  rw [scan, skipSpace_cons (by decide)]
  simp only [skipped]

theorem scan_object {text body : List Char} (fuel : Nat)
    (skipped : skipSpace text = '\x22' :: body) :
    scan (fuel + 1) ('\x7b' :: text) = scanMembers fuel body [] := by
  rw [scan, skipSpace_cons (by decide)]
  simp only [skipped]

theorem scanSeparator_comma {text rest : List Char} (bracket : Char)
    (skipped : skipSpace text = ',' :: rest) : scanSeparator bracket text = .comma rest := by
  rw [scanSeparator, skipped]
  rfl

theorem scanSeparator_close {text rest : List Char} {bracket : Char} (other : bracket ≠ ',')
    (skipped : skipSpace text = bracket :: rest) : scanSeparator bracket text = .close rest := by
  rw [scanSeparator, skipped]
  simp only [if_neg other, if_pos]

section

variable {fuel : Nat} {text left rest : List Char} {node : Node}

theorem scanItems_last (done : List Node) (scanned : scan fuel text = (node, some left))
    (skipped : skipSpace left = ']' :: rest) :
    scanItems (fuel + 1) text done = (.array (done.reverse ++ [node]) .closed, some rest) := by
  rw [scanItems, scanned]
  simp only [scanSeparator_close (by decide) skipped, List.reverse_cons]

theorem scanItems_item (done : List Node) (scanned : scan fuel text = (node, some left))
    (skipped : skipSpace left = ',' :: rest) (begins : Begins rest) :
    scanItems (fuel + 1) text done = scanItems fuel rest (node :: done) := by
  obtain ⟨c, others, later, other⟩ := begins
  rw [scanItems, scanned]
  simp only [scanSeparator_comma _ skipped, later]
  split
  · rename_i same
    cases same
  · rename_i same
    cases same
    exact absurd rfl other
  · rfl

theorem scanMembers_last (done : List (Key × Node)) (name : String) {gap inner : List Char}
    (blank : Blank gap) (scanned : scan fuel inner = (node, some left))
    (skipped : skipSpace left = '\x7d' :: rest) :
    scanMembers (fuel + 1) (StringText.body name (gap ++ ':' :: inner)) done =
      (.object (done.reverse ++ [(Key.ofText (StringText.body name (gap ++ ':' :: inner)), node)])
        .closed, some rest) := by
  rw [scanMembers]
  simp only [StringText.skip_body, skipSpace_colon blank, scanned,
    scanSeparator_close (by decide) skipped, List.reverse_cons]

theorem scanMembers_member (done : List (Key × Node)) (name : String)
    {gap inner next : List Char} (blank : Blank gap) (scanned : scan fuel inner = (node, some left))
    (skipped : skipSpace left = ',' :: rest) (quote : skipSpace rest = '\x22' :: next) :
    scanMembers (fuel + 1) (StringText.body name (gap ++ ':' :: inner)) done =
      scanMembers fuel next
        ((Key.ofText (StringText.body name (gap ++ ':' :: inner)), node) :: done) := by
  rw [scanMembers]
  simp only [StringText.skip_body, skipSpace_colon blank, scanned, scanSeparator_comma _ skipped,
    quote]

end

/-- Every part of a text is scanned as what it was written for. -/
theorem Written.scans {part : Part} {text : List Char} (written : Written part text) :
    part.Scans text := by
  induction written with
  | null =>
      intro fuel rest enough _
      obtain ⟨fuel, rfl⟩ := exists_fuel (List.cons_ne_nil _ _) enough
      exact ⟨_, rfl, .null⟩
  | yes => 
      intro fuel rest enough _
      obtain ⟨fuel, rfl⟩ := exists_fuel (List.cons_ne_nil _ _) enough
      exact ⟨_, rfl, .bool _⟩
  | no =>
      intro fuel rest enough _
      obtain ⟨fuel, rfl⟩ := exists_fuel (List.cons_ne_nil _ _) enough
      exact ⟨_, rfl, .bool _⟩
  | number fits =>
      intro fuel rest enough stops
      obtain ⟨fuel, rfl⟩ := exists_fuel Nat.toDigits_ne_nil enough
      exact ⟨_, scan_digits fits fuel stops, .number _⟩
  | string value =>
      intro fuel rest enough _
      obtain ⟨fuel, rfl⟩ := exists_fuel (List.cons_ne_nil _ _) enough
      exact ⟨_, scan_quoted value fuel rest, .string value⟩
  | emptyArray blank =>
      intro fuel rest enough _
      obtain ⟨fuel, rfl⟩ := exists_fuel (List.cons_ne_nil _ _) enough
      rw [List.cons_append, List.cons_append, List.append_assoc]
      refine ⟨_, scan_emptyArray fuel ?_, .array .nil trivial⟩
      rw [skipSpace_append blank]
      exact skipSpace_cons (by decide) rest
  | emptyObject blank =>
      intro fuel rest enough _
      obtain ⟨fuel, rfl⟩ := exists_fuel (List.cons_ne_nil _ _) enough
      rw [List.cons_append, List.cons_append, List.append_assoc]
      refine ⟨_, scan_emptyObject fuel ?_, shows_object (.refl _) .nil trivial⟩
      rw [skipSpace_append blank]
      exact skipSpace_cons (by decide) rest
  | array written ih =>
      intro fuel rest enough _
      obtain ⟨fuel, rfl⟩ := exists_fuel (List.cons_ne_nil _ _) enough
      rw [List.length_cons] at enough
      obtain ⟨nodes, scanned, shown⟩ := ih fuel rest [] (by omega)
      refine ⟨_, (scan_array fuel (written.begins_items rest)).trans scanned, ?_⟩
      exact .array shown trivial
  | object order written ih =>
      intro fuel rest enough _
      obtain ⟨fuel, rfl⟩ := exists_fuel (List.cons_ne_nil _ _) enough
      rw [List.length_cons] at enough
      obtain ⟨body, nodes, skipped, scanned, shown⟩ := ih fuel rest [] (by omega)
      exact ⟨_, (scan_object fuel skipped).trans scanned, shows_object order shown trivial⟩
  | @spaced json before text after blank blankAfter written ih =>
      intro fuel rest enough stops
      rw [List.length_append, List.length_append] at enough
      obtain ⟨node, scanned, shows⟩ :=
        ih fuel (after ++ rest) (by omega) (stops_append blankAfter stops)
      refine ⟨node, after ++ rest, ?_, skipSpace_append blankAfter rest, shows⟩
      rw [List.append_assoc, List.append_assoc, scan_append blank, scanned]
  | @lastItem item text written ih =>
      intro fuel rest done enough
      obtain ⟨fuel, rfl⟩ := Nat.exists_eq_add_one_of_ne_zero (Nat.ne_zero_of_lt enough)
      rw [List.length_append, List.length_singleton] at enough
      obtain ⟨node, left, scanned, skipped, shows⟩ :=
        ih fuel (']' :: rest) (by omega) (stops_cons (by decide) rest)
      rw [skipSpace_cons (by decide)] at skipped
      rw [List.append_assoc]
      exact ⟨[node], scanItems_last done scanned skipped, .cons shows .nil⟩
  | @item item items text others written later ih ihLater =>
      intro fuel rest done enough
      obtain ⟨fuel, rfl⟩ := Nat.exists_eq_add_one_of_ne_zero (Nat.ne_zero_of_lt enough)
      rw [List.length_append, List.length_cons] at enough
      obtain ⟨node, left, scanned, skipped, shows⟩ :=
        ih fuel (',' :: (others ++ rest)) (by omega) (stops_cons (by decide) _)
      rw [skipSpace_cons (by decide)] at skipped
      obtain ⟨nodes, scannedLater, shown⟩ := ihLater fuel rest (node :: done) (by omega)
      refine ⟨node :: nodes, ?_, .cons shows shown⟩
      rw [List.append_assoc, List.cons_append,
        scanItems_item done scanned skipped (later.begins_items rest), scannedLater,
        List.reverse_cons, List.append_assoc, List.singleton_append]
  | @lastMember name value before gap text blank blankGap written ih =>
      intro fuel rest done enough
      obtain ⟨fuel, rfl⟩ := Nat.exists_eq_add_one_of_ne_zero (Nat.ne_zero_of_lt enough)
      simp only [List.length_append, List.length_cons] at enough
      obtain ⟨node, left, scanned, skipped, shows⟩ :=
        ih fuel ('\x7d' :: rest) (by omega) (stops_cons (by decide) rest)
      rw [skipSpace_cons (by decide)] at skipped
      have last := scanMembers_last done name blankGap scanned skipped
      refine ⟨_, _, ?_, last, .cons ⟨Key.spells_body name _, shows⟩ .nil⟩
      simp only [List.append_assoc, List.cons_append, List.nil_append]
      exact skipSpace_quoted blank name _
  | @member name value members before gap text others blank blankGap written later ih ihLater =>
      intro fuel rest done enough
      obtain ⟨fuel, rfl⟩ := Nat.exists_eq_add_one_of_ne_zero (Nat.ne_zero_of_lt enough)
      simp only [List.length_append, List.length_cons] at enough
      obtain ⟨node, left, scanned, skipped, shows⟩ :=
        ih fuel (',' :: (others ++ rest)) (by omega) (stops_cons (by decide) _)
      rw [skipSpace_cons (by decide)] at skipped
      let key := Key.ofText (StringText.body name (gap ++ ':' :: (text ++ ',' :: (others ++ rest))))
      obtain ⟨body, nodes, quote, scannedLater, shown⟩ :=
        ihLater fuel rest ((key, node) :: done) (by omega)
      have run := (scanMembers_member done name blankGap scanned skipped quote).trans scannedLater
      rw [List.reverse_cons, List.append_assoc, List.singleton_append] at run
      refine ⟨_, (key, node) :: nodes, ?_, run, .cons ⟨Key.spells_body name _, shows⟩ shown⟩
      simp only [List.append_assoc, List.cons_append]
      exact skipSpace_quoted blank name _

/-- A whole text is scanned to its end, as a node that shows the value. -/
theorem scan_of_writes {json : Json} {text : String} (writes : Writes json text) :
    (Document.scan text).complete = true ∧ Shows json (Document.scan text).root := by
  obtain ⟨node, left, scanned, blank, shows⟩ :=
    Written.scans writes (2 * text.toList.length + 2) [] (by omega) stops_nil
  rw [List.append_nil] at scanned
  rw [Document.scan, scanned]
  dsimp only
  rw [blank]
  exact ⟨rfl, shows⟩

/-- A reader that takes back a value takes it back from each of its texts. -/
theorem Reads.readText {α : Type} {reader : Reader α} {json : Json} {result : α}
    (reads : Reads reader json result) {text : String} (writes : Writes json text) :
    readText reader text = .ok result := by
  obtain ⟨complete, shows⟩ := scan_of_writes writes
  rw [Json.readText, reads _ shows, complete]
  rfl

end Cabinet.Json
