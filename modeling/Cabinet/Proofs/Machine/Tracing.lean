import Cabinet.Proofs.Cpu.Listing
import Cabinet.Proofs.Cpu.Word
import Cabinet.Proofs.Log.Journal
import Cabinet.Proofs.Machine.Execution
import Cabinet.Proofs.Machine.FlagDiscipline

/-!
# The trace of a machine

Each step that fetches an opcode has one line of its own among the notes of the
processor, and no other step has any. The line shows where the opcode was fetched,
the opcode, what it stands for and the registers before it is executed, and each of
these can be read from it. A run with its notes erased is the plain run: whoever
listens, it comes to the same machine.
-/

namespace Cabinet

open Cpu Log Outcome

/-! ## Digits -/

namespace Hex

theorem readDigits?_byte (value : UInt8) : readDigits? (byte value).toList = some [value] := by
  rw [byte, String.toList_ofList]
  exact readDigits?_flatMap [value]

theorem readDigits?_word (value : UInt16) :
    readDigits? (word value).toList = some [highByte value, lowByte value] := by
  rw [word, String.toList_ofList, ← readDigits?_flatMap]
  rfl

/-- A byte and what follows it can be told apart. -/
theorem byte_append_inj {first second : UInt8} {rest other : List Char}
    (same : (byte first).toList ++ rest = (byte second).toList ++ other) :
    first = second ∧ rest = other := by
  have length (value : UInt8) : (byte value).toList.length = 2 := by
    rw [byte, String.toList_ofList]
    rfl
  obtain ⟨digits, rests⟩ := List.append_inj same ((length first).trans (length second).symm)
  have values := readDigits?_byte first
  rw [digits, readDigits?_byte] at values
  exact ⟨(List.singleton_inj.mp (Option.some_inj.mp values)).symm, rests⟩

/-- A word and what follows it can be told apart. -/
theorem word_append_inj {first second : UInt16} {rest other : List Char}
    (same : (word first).toList ++ rest = (word second).toList ++ other) :
    first = second ∧ rest = other := by
  have length (value : UInt16) : (word value).toList.length = 4 := by
    rw [word, String.toList_ofList]
    rfl
  obtain ⟨digits, rests⟩ := List.append_inj same ((length first).trans (length second).symm)
  have values := readDigits?_word first
  rw [digits, readDigits?_word, Option.some_inj, List.cons.injEq, List.singleton_inj] at values
  refine ⟨?_, rests⟩
  rw [← joinBytes_highByte_lowByte first, ← values.1, ← values.2, joinBytes_highByte_lowByte]

end Hex

/-! ## Fetched opcodes -/

/-- An opcode with its address and the registers before it is executed. -/
@[ext] structure Fetch where
  address : UInt16
  opcode : UInt8
  a : UInt8
  flags : UInt8
  bc : UInt16
  de : UInt16
  hl : UInt16
  sp : UInt16
deriving DecidableEq

namespace Fetch

/-- The line about a fetched opcode. -/
def line (fetch : Fetch) : String :=
  let instruction := (Instruction.ofOpcode fetch.opcode).listing
  s!"8080: {Hex.word fetch.address}  {Hex.byte fetch.opcode}  {instruction}" ++
    s!"  A={Hex.byte fetch.a} F={Hex.byte fetch.flags} BC={Hex.word fetch.bc}" ++
    s!" DE={Hex.word fetch.de} HL={Hex.word fetch.hl} SP={Hex.word fetch.sp}"

/-- The line of a processor that is about to execute an opcode. -/
theorem traceLine_eq (cpu : Cpu) (opcode : UInt8) :
    cpu.traceLine opcode = line {
      address := cpu.pc, opcode, a := cpu.a, flags := cpu.flags
      bc := cpu.bc, de := cpu.de, hl := cpu.hl, sp := cpu.sp } := by
  delta line traceLine
  dsimp only [toString]
  simp only [String.append_assoc]

theorem toList_line (fetch : Fetch) :
    fetch.line.toList =
      "8080: ".toList ++ ((Hex.word fetch.address).toList ++ ("  ".toList ++
      ((Hex.byte fetch.opcode).toList ++ ("  ".toList ++
      ((Instruction.ofOpcode fetch.opcode).listing.toList ++ ("  A=".toList ++
      ((Hex.byte fetch.a).toList ++ (" F=".toList ++ ((Hex.byte fetch.flags).toList ++
      (" BC=".toList ++ ((Hex.word fetch.bc).toList ++ (" DE=".toList ++
      ((Hex.word fetch.de).toList ++ (" HL=".toList ++ ((Hex.word fetch.hl).toList ++
      (" SP=".toList ++ (Hex.word fetch.sp).toList)))))))))))))))) := by
  delta line
  dsimp only [toString]
  simp only [String.toList_append, List.append_assoc]

/-- All that the line shows can be read from it. -/
theorem line_injective {first second : Fetch} (same : first.line = second.line) :
    first = second := by
  have texts : first.line.toList ++ [] = second.line.toList ++ [] := by rw [same]
  rw [toList_line, toList_line] at texts
  simp only [List.append_assoc] at texts
  obtain ⟨address, texts⟩ := Hex.word_append_inj (List.append_cancel_left texts)
  obtain ⟨opcode, texts⟩ := Hex.byte_append_inj (List.append_cancel_left texts)
  -- The same opcode is shown by the same text, whose length does not matter then.
  rw [opcode] at texts
  have texts := List.append_cancel_left (List.append_cancel_left texts)
  obtain ⟨a, texts⟩ := Hex.byte_append_inj (List.append_cancel_left texts)
  obtain ⟨flags, texts⟩ := Hex.byte_append_inj (List.append_cancel_left texts)
  obtain ⟨bc, texts⟩ := Hex.word_append_inj (List.append_cancel_left texts)
  obtain ⟨de, texts⟩ := Hex.word_append_inj (List.append_cancel_left texts)
  obtain ⟨hl, texts⟩ := Hex.word_append_inj (List.append_cancel_left texts)
  obtain ⟨sp, -⟩ := Hex.word_append_inj (List.append_cancel_left texts)
  exact Fetch.ext address opcode a flags bc de hl sp

end Fetch

namespace Machine

variable {β : Type} [Bus β]

/-- What the next step fetches, if it neither accepts a vector nor idles. -/
def fetch? (machine : Machine β) : Option Fetch :=
  machine.executed?.map fun opcode => {
    address := machine.cpu.pc
    opcode
    a := machine.cpu.a
    flags := machine.cpu.flags
    bc := machine.cpu.bc
    de := machine.cpu.de
    hl := machine.cpu.hl
    sp := machine.cpu.sp }

theorem fetch?_of_serviceable {machine : Machine β} {vector : UInt8}
    (waits : machine.cpu.serviceable = some vector) : machine.fetch? = none := by
  rw [fetch?, executed?, waits]
  rfl

theorem fetch?_of_halted {machine : Machine β} (halted : machine.cpu.halted = true) :
    machine.fetch? = none := by
  rw [fetch?, executed?, halted]
  simp

theorem fetch?_of_running {machine : Machine β} (quiet : machine.cpu.serviceable = none)
    (running : machine.cpu.halted = false) :
    machine.fetch? = some {
      address := machine.cpu.pc
      opcode := machine.read machine.cpu.pc
      a := machine.cpu.a
      flags := machine.cpu.flags
      bc := machine.cpu.bc
      de := machine.cpu.de
      hl := machine.cpu.hl
      sp := machine.cpu.sp } := by
  rw [fetch?, executed?, if_pos ⟨quiet, running⟩]
  rfl

/-- What the steps of a run fetch, in order. -/
def fetches (machine : Machine β) : List Event → List Fetch
  | [] => []
  | .raise vector :: events => (machine.raise vector).fetches events
  | .step :: events => machine.fetch?.toList ++ machine.step.2.fetches events

variable [TellingBus β] [LawfulPorts β]

/-! ## Trace notes -/

theorem textsOf_raiseNotes (cpu : Cpu) (vector : UInt8) :
    textsOf .cpu .trace (raiseNotes cpu vector) = [] := by
  unfold raiseNotes
  cases cpu.pending <;> rfl

/-- Ports do not speak for the processor. -/
theorem textsOf_portNotes (machine : Machine β) (instruction : Instruction) :
    textsOf .cpu .trace (machine.portNotes instruction) = [] := by
  apply textsOf_eq_nil
  rintro note member ⟨category, -⟩
  unfold portNotes at member
  split at member
  · exact LawfulPorts.output_apart _ _ _ note member category
  · exact LawfulPorts.input_apart _ _ note member category
  · exact absurd member List.not_mem_nil

/-- What an instruction has to say beside its line is not a trace. -/
theorem textsOf_instructionNotes (machine : Machine β) (opcode : UInt8) :
    textsOf .cpu .trace (machine.instructionNotes opcode) = [] := by
  unfold instructionNotes
  split
  · -- The warning about an unknown opcode is of the category, but of another level.
    rfl
  · exact machine.textsOf_portNotes _

/-- A step has one line if it fetches an opcode and none otherwise. -/
theorem textsOf_stepNotes (machine : Machine β) :
    textsOf .cpu .trace machine.stepNotes = machine.fetch?.toList.map Fetch.line := by
  cases quiet : machine.cpu.serviceable with
  | some vector =>
      rw [stepNotes_of_serviceable quiet, fetch?_of_serviceable quiet]
      rfl
  | none =>
      cases halted : machine.cpu.halted with
      | true =>
          rw [stepNotes_of_halted quiet halted, fetch?_of_halted halted]
          rfl
      | false =>
          rw [stepNotes_of_running quiet halted, fetch?_of_running quiet halted, textsOf_cons,
            textsOf_instructionNotes]
          change [machine.cpu.traceLine (machine.read machine.cpu.pc)] ++ [] = [Fetch.line _]
          rw [Fetch.traceLine_eq]
          rfl

/-- By induction on the run: each event adds the lines of its own. -/
theorem textsOf_runNotes (machine : Machine β) (events : List Event) :
    textsOf .cpu .trace (machine.runNotes events) = (machine.fetches events).map Fetch.line := by
  induction events generalizing machine with
  | nil => rfl
  | cons event events ih =>
      rw [runNotes, textsOf_append, ih]
      cases event with
      | raise vector =>
          rw [eventNotes, textsOf_raiseNotes]
          rfl
      | step =>
          rw [eventNotes, textsOf_stepNotes, ← List.map_append]
          rfl

/-! ## Faithful traces -/

/--
What the trace of machines tells, and that it leaves them alone. Nothing is fetched by a
step that accepts a vector and by one of a halted machine; any other step executes what is
at the program counter, wherever that is. No two fetched opcodes have the same line unless
they agree in all that is shown, and the decoded form in a line is that of one instruction
only. Below the limit a run writes one line for each fetched opcode, in order, and no other;
a step that goes wrong ends the run, behind its own line. With its notes erased, a step is
the plain one unless something goes wrong in it. So whoever listens, a run ends with the
plain machine or with its first fault, and without a fault it takes all its events.
-/
structure Traced (β : Type) [Bus β] [TellingBus β] [LawfulPorts β] : Prop where
  serviced : ∀ (machine : Machine β) (vector : UInt8), machine.cpu.serviceable = some vector →
    machine.step = (interruptCost, (machine.service vector).tick interruptCost) ∧
      machine.fetch? = none
  idle : ∀ machine : Machine β, machine.cpu.serviceable = none → machine.cpu.halted = true →
    machine.step = (idleCost, machine.tick idleCost) ∧ machine.fetch? = none
  executed : ∀ machine : Machine β, machine.cpu.serviceable = none →
    machine.cpu.halted = false →
      machine.step.2 = (machine.perform machine.current).tick
        (machine.current.cost machine.cpu) ∧
      ∃ fetch, machine.fetch? = some fetch ∧ fetch.address = machine.cpu.pc ∧
        fetch.opcode = machine.read machine.cpu.pc ∧
        Instruction.ofOpcode fetch.opcode = machine.current ∧
        fetch.a = machine.cpu.a ∧ fetch.flags = machine.cpu.flags ∧
        fetch.bc = machine.cpu.bc ∧ fetch.de = machine.cpu.de ∧
        fetch.hl = machine.cpu.hl ∧ fetch.sp = machine.cpu.sp
  readable : ∀ first second : Fetch, first.line = second.line → first = second
  decoded : ∀ first second : Instruction, first.listing = second.listing → first = second
  lines : ∀ (machine : Machine β) (events : List Event) (journal : Journal),
    journal.gate.levels.shows .cpu .trace = true →
    journal.InLimit .cpu (machine.runNotes (machine.untilFault events)) →
      (machine.followM events journal).2.texts .cpu .trace =
        journal.texts .cpu .trace ++
          (machine.fetches (machine.untilFault events)).map Fetch.line
  erased : ∀ (machine : Machine β) (σ : Type) [Listener σ] (listener : σ),
    (machine.stepM listener).1 = unlessFault machine.stepFault? machine.taken
  unmoved : ∀ (machine : Machine β) (events : List Event) (σ : Type) [Listener σ] (listener : σ),
    (machine.followM events listener).1 =
      unlessFault (machine.runFault? events) (machine.follow events)
  complete : ∀ (machine : Machine β) (events : List Event), machine.runFault? events = none →
    machine.untilFault events = events

theorem traced : Traced β where
  serviced _ _ waits := ⟨step_of_serviceable waits, fetch?_of_serviceable waits⟩
  idle _ quiet halted := ⟨step_of_halted quiet halted, fetch?_of_halted halted⟩
  executed machine quiet running := by
    refine ⟨by rw [step_of_running quiet running], _, fetch?_of_running quiet running, rfl, rfl,
      rfl, rfl, rfl, rfl, rfl, rfl, rfl⟩
  readable _ _ := Fetch.line_injective
  decoded _ _ same := Instruction.listing_injective same
  lines machine events journal shows within := by
    rw [machine.followM_speaks events journal, ← Journal.sayAll_eq, Journal.texts_sayAll within,
      textsOf_shown shows, textsOf_runNotes]
  erased machine σ _ listener := machine.stepM_speaks.outcome_eq listener
  unmoved machine events σ _ listener := (machine.followM_speaks events).outcome_eq listener
  complete _ _ := untilFault_of_runFault?

end Machine

end Cabinet
