import Cabinet.Config.Validate
import Cabinet.Proofs.Outcome
import Cabinet.Proofs.Rom

/-!
# What is required of a description

A description is accepted exactly if it is consistent. The requirements stand in the
order in which they are checked, each with the error that says it is not met. Of all
those that are not met the first one is reported.
-/

namespace Cabinet

/-- Something that is required, and the error for the case that it is not so. -/
structure Requirement where
  holds : Prop
  error : BoardError

namespace Requirement

/-- The first of the requirements that are not met. -/
def FirstUnmet (requirements : List Requirement) (requirement : Requirement) : Prop :=
  First (fun other : Requirement => ¬ other.holds) requirements requirement

/-- The outcome of checking requirements in order. -/
inductive Decided (requirements : List Requirement) : Except BoardError Unit → Prop
  | accepted (all : ∀ requirement ∈ requirements, requirement.holds) :
      Decided requirements (.ok ())
  | refused {requirement : Requirement} (unmet : FirstUnmet requirements requirement) :
      Decided requirements (.error requirement.error)

variable {requirement : Requirement} {requirements others : List Requirement}
  {outcome next : Except BoardError Unit} {α : Type}

/-! ## Checks in order -/

theorem decided_nil : Decided [] (.ok ()) :=
  .accepted nofun

/-- The requirements in front of the first one that is not met may be more. -/
theorem FirstUnmet.behind (unmet : FirstUnmet others requirement)
    (met : ∀ other ∈ requirements, other.holds) :
    FirstUnmet (requirements ++ others) requirement := by
  obtain ⟨fails, earlier, later, rfl, before⟩ := unmet
  refine ⟨fails, requirements ++ earlier, later, (List.append_assoc _ _ _).symm, ?_⟩
  intro other member
  rcases List.mem_append.mp member with added | early
  · exact not_not_intro (met other added)
  · exact before other early

/-- What comes behind it does not matter. -/
theorem FirstUnmet.before (unmet : FirstUnmet requirements requirement) :
    FirstUnmet (requirements ++ others) requirement := by
  obtain ⟨fails, earlier, later, rfl, before⟩ := unmet
  exact ⟨fails, earlier, later ++ others, List.append_assoc _ _ _, before⟩

/-- One check after another checks all the requirements of both. -/
theorem Decided.append (first : Decided requirements outcome) (second : Decided others next) :
    Decided (requirements ++ others) (outcome >>= fun _ => next) := by
  cases first with
  | refused unmet => exact .refused unmet.before
  | accepted met =>
      cases second with
      | refused unmet => exact .refused (unmet.behind met)
      | accepted rest =>
          refine .accepted fun requirement member => ?_
          rcases List.mem_append.mp member with early | late
          · exact met requirement early
          · exact rest requirement late

/-- A test in front of other checks. -/
theorem Decided.cons {fails : Prop} [Decidable fails] (requirement : Requirement)
    (tests : fails ↔ ¬ requirement.holds) (rest : Decided requirements outcome) :
    Decided (requirement :: requirements)
      (if fails then .error requirement.error else outcome) := by
  split
  · rename_i unmet
    exact .refused ⟨tests.mp unmet, [], requirements, rfl, nofun⟩
  · rename_i met
    have holds : requirement.holds := Classical.not_not.mp (mt tests.mpr met)
    have alone : Decided [requirement] (.ok ()) := .accepted (by simpa using holds)
    exact alone.append rest

theorem Decided.forM {check : α → Except BoardError Unit} {required : α → List Requirement}
    (each : ∀ value, Decided (required value) (check value)) (values : List α) :
    Decided (values.flatMap required) (values.forM check) := by
  induction values with
  | nil => exact decided_nil
  | cons value values ih => exact (each value).append ih

theorem Decided.forM_option {check : α → Except BoardError Unit} {required : α → List Requirement}
    (each : ∀ value, Decided (required value) (check value)) (value : Option α) :
    Decided (value.toList.flatMap required) (value.forM check) := by
  cases value with
  | none => exact decided_nil
  | some value =>
      change Decided (required value ++ []) (check value)
      rw [List.append_nil]
      exact each value

/-! ## What an outcome says -/

/-- There is one requirement that is the first not to be met. -/
theorem FirstUnmet.unique {other : Requirement} (unmet : FirstUnmet requirements requirement)
    (otherUnmet : FirstUnmet requirements other) : requirement = other := by
  obtain ⟨fails, earlier, later, rfl, before⟩ := unmet
  obtain ⟨otherFails, others, rest, same, otherBefore⟩ := otherUnmet
  induction earlier generalizing others with
  | nil =>
      cases others with
      | nil => exact (List.cons.inj same).1
      | cons head others =>
          obtain ⟨rfl, -⟩ := List.cons.inj same
          exact absurd fails (otherBefore requirement List.mem_cons_self)
  | cons head earlier ih =>
      cases others with
      | nil =>
          obtain ⟨rfl, -⟩ := List.cons.inj same
          exact absurd otherFails (before head List.mem_cons_self)
      | cons other others =>
          exact ih (fun other member => before other (List.mem_cons_of_mem _ member)) others
            (List.cons.inj same).2
            fun other member => otherBefore other (List.mem_cons_of_mem _ member)

theorem FirstUnmet.not_all (unmet : FirstUnmet requirements requirement) :
    ¬ ∀ other ∈ requirements, other.holds :=
  fun all => unmet.has (all requirement unmet.mem)

theorem Decided.ok_iff (decided : Decided requirements outcome) :
    outcome = .ok () ↔ ∀ requirement ∈ requirements, requirement.holds := by
  cases decided with
  | accepted all => exact iff_of_true rfl all
  | refused unmet => exact iff_of_false nofun unmet.not_all

theorem Decided.error_iff (decided : Decided requirements outcome) (error : BoardError) :
    outcome = .error error ↔
      ∃ requirement, FirstUnmet requirements requirement ∧ requirement.error = error := by
  cases decided with
  | accepted all => exact iff_of_false nofun fun ⟨_, unmet, _⟩ => unmet.not_all all
  | refused unmet =>
      constructor
      · rintro ⟨⟩
        exact ⟨_, unmet, rfl⟩
      · rintro ⟨other, otherUnmet, rfl⟩
        rw [unmet.unique otherUnmet]

end Requirement

namespace Config

open Requirement

/-! ## The requirements -/

/-- A region ends where it starts or later and holds between one byte and all of its span. -/
structure RegionConsistent (start stop : UInt16) (size : Nat) : Prop where
  forward : start ≤ stop
  some : 1 ≤ size
  within : size ≤ stop.toNat - start.toNat + 1

/--
What a description has to be like. A frame lasts one clock state at least, and no token is
blank.
-/
structure Consistent (config : Config) : Prop where
  width : config.display.width ≠ 0
  height : config.display.height ≠ 0
  clock : config.timing.clockHz ≠ 0
  refresh : config.timing.refreshHz ≠ 0
  pace : config.timing.refreshHz ≤ config.timing.clockHz
  rom : ∀ region ∈ config.memory.rom, RegionConsistent region.start region.stop region.size
  ram : ∀ region ∈ config.memory.ram, RegionConsistent region.start region.stop region.size
  token : ∀ region ∈ config.memory.rom,
    ∃ c ∈ region.fileMatch.toList, Text.isBlankChar c = false
  video : ∀ region, config.memory.video = some region → ∀ stop, region.stop = some stop →
    region.start ≤ stop
  period : ∀ interrupt ∈ config.interrupts, interrupt.period ≠ 0

def screenRequirement (display : Display) : Requirement where
  holds := display.width ≠ 0 ∧ display.height ≠ 0
  error := .invalidDisplay display.width display.height

def timingRequirement (timing : FrameTiming) : Requirement where
  holds := timing.clockHz ≠ 0 ∧ timing.refreshHz ≠ 0 ∧ timing.refreshHz ≤ timing.clockHz
  error := .invalidTiming timing.clockHz timing.refreshHz

def forwardRequirement (kind : RegionKind) (start stop : UInt16) : Requirement where
  holds := start ≤ stop
  error := .invalidRegion kind start stop .endBeforeStart

def sizeRequirement (kind : RegionKind) (start stop : UInt16) (size : Nat) : Requirement where
  holds := 1 ≤ size ∧ size ≤ stop.toNat - start.toNat + 1
  error := .invalidRegion kind start stop (.sizeMisfit size (stop.toNat - start.toNat + 1))

def tokenRequirement (region : RomRegion) : Requirement where
  holds := ∃ c ∈ region.fileMatch.toList, Text.isBlankChar c = false
  error := .invalidRegion .rom region.start region.stop .emptyToken

def periodRequirement (interrupt : Interrupt) : Requirement where
  holds := interrupt.period ≠ 0
  error := .invalidInterruptPeriod interrupt.vector

def regionRequirements (kind : RegionKind) (start stop : UInt16) (size : Nat) :
    List Requirement :=
  [forwardRequirement kind start stop, sizeRequirement kind start stop size]

/-- The bounds of a program region come before its token. -/
def romRequirements (region : RomRegion) : List Requirement :=
  regionRequirements .rom region.start region.stop region.size ++ [tokenRequirement region]

def ramRequirements (region : RamRegion) : List Requirement :=
  regionRequirements .ram region.start region.stop region.size

def videoRequirements (region : VideoRegion) : List Requirement :=
  region.stop.toList.map fun stop => forwardRequirement .video region.start stop

/-- Everything that is required, in the order in which it is checked. -/
def requirements (config : Config) : List Requirement :=
  [screenRequirement config.display] ++ [timingRequirement config.timing] ++
    config.memory.rom.flatMap romRequirements ++ config.memory.ram.flatMap ramRequirements ++
    config.memory.video.toList.flatMap videoRequirements ++
    config.interrupts.flatMap fun interrupt => [periodRequirement interrupt]

/-! ## The checks -/

theorem decided_display (display : Display) :
    Decided [screenRequirement display] (checkDisplay display) := by
  refine decided_nil.cons (screenRequirement display) ?_
  rw [screenRequirement, Classical.not_and_iff_not_or_not, Classical.not_not, Classical.not_not]

/-- A frame lasts at least one clock state if the clock is no slower than the frame rate. -/
theorem cyclesPerFrame_eq_zero_iff {timing : FrameTiming} (refresh : timing.refreshHz ≠ 0) :
    timing.cyclesPerFrame = 0 ↔ ¬ timing.refreshHz ≤ timing.clockHz := by
  have some : 0 < timing.refreshHz.toNat :=
    UInt32.lt_iff_toNat_lt.mp (UInt32.pos_iff_ne_zero.mpr refresh)
  rw [FrameTiming.cyclesPerFrame, Nat.max_eq_left some, Nat.div_eq_zero_iff_lt some,
    UInt32.le_iff_toNat_le, Nat.not_le]

theorem decided_timing (timing : FrameTiming) :
    Decided [timingRequirement timing] (checkTiming timing) := by
  refine decided_nil.cons (timingRequirement timing) ?_
  rw [timingRequirement]
  by_cases clock : timing.clockHz = 0
  · simp [clock]
  · by_cases refresh : timing.refreshHz = 0
    · simp [refresh]
    · simp [clock, refresh, cyclesPerFrame_eq_zero_iff refresh]

theorem decided_region (kind : RegionKind) (start stop : UInt16) (size : Nat) :
    Decided (regionRequirements kind start stop size) (checkRegion kind start stop size) := by
  refine (decided_nil.cons (sizeRequirement kind start stop size) ?_).cons
    (forwardRequirement kind start stop) ?_
  · rw [sizeRequirement]
    omega
  · rw [forwardRequirement, UInt16.not_le]

theorem isBlank_iff (region : RomRegion) :
    Text.isBlank region.fileMatch = true ↔ ¬ (tokenRequirement region).holds := by
  simp [Text.isBlank, tokenRequirement]

theorem decided_rom (region : RomRegion) : Decided (romRequirements region) (checkRom region) := by
  refine (decided_region .rom region.start region.stop region.size).append ?_
  exact decided_nil.cons (tokenRequirement region) (isBlank_iff region)

theorem decided_video (region : VideoRegion) :
    Decided (videoRequirements region) (checkVideo region) := by
  unfold videoRequirements checkVideo
  cases region.stop with
  | none => exact decided_nil
  | some stop =>
      refine decided_nil.cons (forwardRequirement .video region.start stop) ?_
      rw [forwardRequirement, UInt16.not_le]

theorem decided_interrupt (interrupt : Interrupt) :
    Decided [periodRequirement interrupt] (checkInterrupt interrupt) := by
  refine decided_nil.cons (periodRequirement interrupt) ?_
  rw [periodRequirement, Classical.not_not]

/-- A description is checked as is required. -/
theorem decided_validate (config : Config) : Decided config.requirements config.validate := by
  unfold requirements validate
  simp only [List.append_assoc]
  refine (decided_display config.display).append ?_
  refine (decided_timing config.timing).append ?_
  refine (Decided.forM decided_rom config.memory.rom).append ?_
  refine (Decided.forM (fun region => decided_region .ram _ _ _) config.memory.ram).append ?_
  refine (Decided.forM_option decided_video config.memory.video).append ?_
  exact Decided.forM decided_interrupt config.interrupts

/-! ## Consistency -/

/-- A description is consistent if everything is as required. -/
theorem consistent_iff {config : Config} :
    config.Consistent ↔ ∀ requirement ∈ config.requirements, requirement.holds := by
  simp only [requirements, screenRequirement, timingRequirement, romRequirements, ramRequirements,
    regionRequirements, forwardRequirement, sizeRequirement, tokenRequirement, videoRequirements,
    periodRequirement, List.forall_mem_append, List.forall_mem_flatMap, List.forall_mem_map,
    List.forall_mem_cons, List.not_mem_nil, false_implies, implies_true, and_true,
    Option.mem_toList]
  constructor
  · intro consistent
    refine ⟨⟨⟨⟨⟨⟨consistent.width, consistent.height⟩, consistent.clock, consistent.refresh,
      consistent.pace⟩, ?_⟩, ?_⟩, consistent.video⟩, consistent.period⟩
    · intro region declared
      obtain ⟨forward, some, within⟩ := consistent.rom region declared
      exact ⟨⟨forward, some, within⟩, consistent.token region declared⟩
    · intro region declared
      obtain ⟨forward, some, within⟩ := consistent.ram region declared
      exact ⟨forward, some, within⟩
  · rintro ⟨⟨⟨⟨⟨⟨width, height⟩, clock, refresh, pace⟩, rom⟩, ram⟩, video⟩, period⟩
    refine { width, height, clock, refresh, pace, video, period, rom := ?_, ram := ?_, token := ?_ }
    · intro region declared
      obtain ⟨⟨forward, some, within⟩, -⟩ := rom region declared
      exact ⟨forward, some, within⟩
    · intro region declared
      obtain ⟨forward, some, within⟩ := ram region declared
      exact ⟨forward, some, within⟩
    · intro region declared
      exact (rom region declared).2

end Config

end Cabinet
