import Datapath.Proofs.DueFaults
import Datapath.Proofs.RegisterContents
import Datapath.Proofs.RelativeBranches

/-!
# Footprints of operations

A machine consists of places, each of which can change by itself: the slots of its
registers, the words of its memory, its flags, its counters and so on. The footprint of an
operation says for each place what a success does to it: nothing, or a new content is put
there, or it is counted up by one. What stands in no footprint keeps its content, whatever
else the operation does.

Footprints are put together as operations are, part by part. Parts may be joined in this
way as long as no two of them change one place.

A word of memory is therefore safe from all that happens in a run, but for the few
operations that have its address in their footprint. However many operations and ends of
steps lie in between, a load finds what the last store under its address left there.
-/

namespace Datapath

/-! ## Places -/

/-- A counter of the statistics. -/
inductive Counter where
  | cycles
  | stepsRetired
  | aluOperations
  | flagSettings
  | loads
  | stores
  | discardedWrites
  | faults
deriving DecidableEq

/-- What a counter shows. -/
def Statistics.get (statistics : Statistics) : Counter → Nat
  | .cycles => statistics.cycles
  | .stepsRetired => statistics.stepsRetired
  | .aluOperations => statistics.aluOperations
  | .flagSettings => statistics.flagSettings
  | .loads => statistics.loads
  | .stores => statistics.stores
  | .discardedWrites => statistics.discardedWrites
  | .faults => statistics.faults

/-- The statistics with a counter raised by one. -/
def Statistics.raised (statistics : Statistics) : Counter → Statistics
  | .cycles => { statistics with cycles := statistics.cycles + 1 }
  | .stepsRetired => { statistics with stepsRetired := statistics.stepsRetired + 1 }
  | .aluOperations => { statistics with aluOperations := statistics.aluOperations + 1 }
  | .flagSettings => { statistics with flagSettings := statistics.flagSettings + 1 }
  | .loads => { statistics with loads := statistics.loads + 1 }
  | .stores => { statistics with stores := statistics.stores + 1 }
  | .discardedWrites => { statistics with discardedWrites := statistics.discardedWrites + 1 }
  | .faults => { statistics with faults := statistics.faults + 1 }

/-- A counter that is raised leaves the others alone. -/
theorem Statistics.get_raised (statistics : Statistics) (counter other : Counter) :
    (statistics.raised counter).get other =
      if other = counter then statistics.get other + 1 else statistics.get other := by
  cases counter <;> cases other <;> rfl

/-- A part of a machine that can change by itself. -/
inductive Place where
  /-- The slot of a register, the hidden one of the zero register included. -/
  | slot (register : RegisterIndex)
  | word (address : Word)
  | flags
  | counter (counter : Counter)
  | pc
  | cycle
  | config
deriving DecidableEq

/-- What a place can hold. -/
inductive Content where
  | value (value : Word)
  /-- The word stored under an address, if one is. -/
  | stored (value : Option Word)
  | flags (flags : Flags)
  | number (count : Nat)
  | config (config : Config)

/-- What a place of the machine holds. -/
def Machine.content (machine : Machine) : Place → Content
  | .slot register => .value (machine.registers.slots.get register)
  | .word address => .stored (machine.memory.find? address)
  | .flags => .flags machine.flags
  | .counter counter => .number (machine.statistics.get counter)
  | .pc => .value machine.pc
  | .cycle => .number machine.cycle
  | .config => .config machine.config

/-- The counters are all there is to statistics. -/
theorem Statistics.ext_get {left right : Statistics}
    (same : ∀ counter, left.get counter = right.get counter) : left = right := by
  obtain ⟨⟩ := left
  obtain ⟨⟩ := right
  simp only [mk.injEq]
  exact ⟨same .cycles, same .stepsRetired, same .aluOperations, same .flagSettings, same .loads,
    same .stores, same .discardedWrites, same .faults⟩

/-- The places are all there is to a machine. -/
theorem Machine.ext_content {left right : Machine}
    (same : ∀ place, left.content place = right.content place) : left = right := by
  have registers : left.registers = right.registers := by
    refine congrArg RegisterFile.mk (Vector.ext fun number inside => ?_)
    exact Content.value.inj (same (.slot ⟨number, inside⟩))
  have memory : left.memory = right.memory :=
    Memory.ext_words (Std.ExtTreeMap.ext_getElem? fun address =>
      Content.stored.inj (same (.word address)))
  have statistics : left.statistics = right.statistics :=
    Statistics.ext_get fun counter => Content.number.inj (same (.counter counter))
  have flags : left.flags = right.flags := Content.flags.inj (same .flags)
  have pc : left.pc = right.pc := Content.value.inj (same .pc)
  have cycle : left.cycle = right.cycle := Content.number.inj (same .cycle)
  have config : left.config = right.config := Content.config.inj (same .config)
  obtain ⟨⟩ := left
  obtain ⟨⟩ := right
  simp only [mk.injEq]
  exact ⟨registers, memory, flags, statistics, pc, cycle, config⟩

/-- A write stores a word under its own address and under no other. -/
theorem Memory.find?_of_write {memory written : Memory} {address value : Word}
    (success : memory.write address value = .ok written) (other : Word) :
    written.find? other = if address = other then some value else memory.find? other := by
  unfold write at success
  split at success <;> cases success
  simp [find?, Std.ExtTreeMap.getElem?_insert]

/-! ## Footprints -/

/-- What happens to one place. -/
inductive Change where
  | put (content : Content)
  | countUp

/-- What a place holds after a change, or still if there is none. -/
def Content.changed (content : Content) : Option Change → Content
  | none => content
  | some (.put new) => new
  | some .countUp =>
    match content with
    | .number count => .number (count + 1)
    | other => other

/-- The change of each place, if it has one. -/
abbrev Footprint := Place → Option Change

namespace Footprint

/-- Nothing changes. -/
def nothing : Footprint := fun _ => none

/-- One place gets a new content. -/
def put (target : Place) (content : Content) : Footprint := fun place =>
  if place = target then some (.put content) else none

/-- One place is counted up. -/
def count (target : Place) : Footprint := fun place =>
  if place = target then some .countUp else none

/-- Every place gets what it holds in another machine. -/
def putAll (machine : Machine) : Footprint := fun place => some (.put (machine.content place))

/-- All register slots get a zero. -/
def clearSlots : Footprint
  | .slot _ => some (.put (.value 0))
  | _ => none

/-- Under all addresses nothing is stored any more. -/
def clearWords : Footprint
  | .word _ => some (.put (.stored none))
  | _ => none

/-- The changes of two parts that have no place in common. -/
def and (first second : Footprint) : Footprint := fun place => (first place).or (second place)

/-- The footprint that depends on what was found, if anything was. -/
def given {α : Type} (found : Except Fault α) (next : α → Footprint) : Footprint :=
  match found with
  | .ok value => next value
  | .error _ => nothing

/-- The machine after differs from the one before by the changes of the footprint and by nothing
else. -/
def Fits (footprint : Footprint) (before after : Machine) : Prop :=
  ∀ place, after.content place = (before.content place).changed (footprint place)

/-- The write path of results puts a word into the register of a given number, unless it is
the zero register: then the word is dropped and this is counted. -/
def result (index : Int) (value : Word) : Footprint :=
  given (RegisterFile.slotOf index .write) fun register =>
    if register = zeroRegister then count (.counter .discardedWrites)
    else put (.slot register) (.value value)

/-- An evaluation is counted. If its operation was understood, its outcome goes to a register,
and to the flags if asked for, which is counted too. -/
def evaluation (operation : Alu.Operation) (destination : Int) (a b : Word) (setFlags : Bool) :
    Footprint :=
  given (Alu.compute operation a b) fun outcome =>
    if operation.signalsDecodeDefect then count (.counter .aluOperations)
    else
      (result destination outcome.result).and <| (count (.counter .aluOperations)).and <|
        if setFlags then (put .flags (.flags outcome.flags)).and (count (.counter .flagSettings))
        else nothing

/-- A step that begins. -/
def stepBegins : Footprint := (count .cycle).and (count (.counter .cycles))

/-- A step that ends. -/
def stepEnds (failed : Bool) : Footprint :=
  count (.counter (if failed then .faults else .stepsRetired))

end Footprint

/-- What a success of an operation changes. To replace the machine by the copy set aside is no
operation on the machine, and has no footprint. -/
def Operation.footprint (machine : Machine) : Operation → Footprint
  | writeBack index value => .result index value
  | execute operation destination a b setFlags => .evaluation operation destination a b setFlags
  | executeRegisters operation destination first second setFlags =>
    .given (machine.registers.read first) fun a =>
      .given (machine.registers.read second) fun b =>
        .evaluation operation destination a b setFlags
  | load destination address =>
    .given (machine.memory.read address) fun value =>
      (Footprint.result destination value).and (.count (.counter .loads))
  | store source address =>
    .given (machine.registers.read source) fun value =>
      (Footprint.put (.word address) (.stored (some value))).and (.count (.counter .stores))
  | branchTo target => .put .pc (.value target)
  | branchRelative offset => .put .pc (.value (machine.pc + offset * Machine.stride))
  | branchIf condition offset =>
    if condition.holds machine.flags then
      .put .pc (.value (machine.pc + offset * Machine.stride))
    else .put .pc (.value (machine.pc + Machine.stride))
  | advance => .put .pc (.value (machine.pc + Machine.stride))
  | reset => .given (Machine.ofConfig machine.config) .putAll
  | pokeRegister index value =>
    .given (RegisterFile.slotOf index .write) fun register => .put (.slot register) (.value value)
  | clearRegisters => .clearSlots
  | writeMemory address value => .put (.word address) (.stored (some value))
  | clearMemory => .clearWords
  | assignFlags flags => .put .flags (.flags flags)
  | readRegister _ | registerSnapshot | readMemory _ | memorySnapshot | readConfig | listRegisters
  | listMemory | reportStatistics | save | restore | fail _ => .nothing

namespace Footprint

variable {before between after : Machine}

/-! ### What fits -/

/-- Where nothing changes everything keeps its content. -/
theorem fits_nothing (machine : Machine) : nothing.Fits machine machine := fun _ => rfl

/-- Two changes in sequence fit the two footprints together, if no place is changed twice. -/
theorem Fits.and {first second : Footprint} (early : first.Fits before between)
    (late : second.Fits between after)
    (apart : ∀ place, first place = none ∨ second place = none) :
    (first.and second).Fits before after := by
  intro place
  rw [late place, early place]
  unfold Footprint.and
  obtain absent | absent := apart place
  · rw [absent, Option.none_or]
    rfl
  · rw [absent, Option.or_none]
    rfl

/-- A machine in which one place holds a new content, and every other one what it held, differs by
the footprint of that change. -/
theorem fits_put {target : Place} {content : Content} (there : after.content target = content)
    (elsewhere : ∀ place, place ≠ target → after.content place = before.content place) :
    (put target content).Fits before after := by
  intro place
  unfold put
  split
  case isTrue same =>
    rw [same, there]
    rfl
  case isFalse other => exact elsewhere place other

/-- A new content of one place and a count of another one are apart. -/
theorem put_apart_count {target other : Place} (different : target ≠ other) (content : Content)
    (place : Place) : put target content place = none ∨ count other place = none := by
  by_cases there : place = target
  · exact .inr (if_neg (there ▸ different))
  · exact .inl (if_neg there)

/-- A machine with a register slot set differs by the new content of the slot. -/
theorem fits_set (machine : Machine) (register : RegisterIndex) (value : Word) :
    (put (.slot register) (.value value)).Fits machine
      { machine with registers := machine.registers.set register value } := by
  apply fits_put
  case there => simp [Machine.content, RegisterFile.get_slots_set]
  case elsewhere =>
    intro place other
    cases place with
    | slot apart =>
      have different : register ≠ apart := fun same => other (by rw [same])
      simp [Machine.content, RegisterFile.get_slots_set, different]
    | _ => rfl

/-- A machine with a word stored differs by the new content of its address. -/
theorem fits_write {machine : Machine} {address value : Word} {memory : Memory}
    (written : machine.memory.write address value = .ok memory) :
    (put (.word address) (.stored (some value))).Fits machine { machine with memory } := by
  apply fits_put
  case there => simp [Machine.content, Memory.find?_of_write written]
  case elsewhere =>
    intro place other
    cases place with
    | word apart =>
      have different : address ≠ apart := fun same => other (by rw [same])
      simp [Machine.content, Memory.find?_of_write written, different]
    | _ => rfl

/-- A machine with other flags differs by the new content of the flags. -/
theorem fits_setFlags (machine : Machine) (flags : Flags) :
    (put .flags (.flags flags)).Fits machine { machine with flags } := by
  refine fits_put rfl fun place other => ?_
  cases place with
  | flags => exact absurd rfl other
  | _ => rfl

/-- A machine whose program counter has moved differs by the new content of the program counter. -/
theorem fits_setPc (machine : Machine) (pc : Word) :
    (put .pc (.value pc)).Fits machine { machine with pc } := by
  refine fits_put rfl fun place other => ?_
  cases place with
  | pc => exact absurd rfl other
  | _ => rfl

/-- A machine with one counter raised differs by the count of it. -/
theorem fits_count (machine : Machine) (counter : Counter) :
    (count (.counter counter)).Fits machine
      { machine with statistics := machine.statistics.raised counter } := by
  intro place
  unfold count
  cases place with
  | counter other =>
    simp only [Machine.content, Statistics.get_raised]
    by_cases same : other = counter <;> simp [same, Content.changed]
  | _ => rfl

/-- The machine at the beginning of a step differs from the one before by the footprint of
beginnings. -/
theorem fits_stepBegins (session : Session) :
    stepBegins.Fits session.machine session.beginStep.machine := by
  intro place
  cases place with
  | counter counter => cases counter <;> rfl
  | _ => rfl

/-- The machine at the end of a step differs from the one before by the count of its outcome. -/
theorem fits_stepEnds (session : Session) (context : StepContext) (failed : Bool) :
    (stepEnds failed).Fits session.machine (session.endStep context failed).machine := by
  cases failed with
  | true => exact fits_count session.machine .faults
  | false => exact fits_count session.machine .stepsRetired

/-- A result changes the slot of the register that it is meant for, or counts as discarded. -/
theorem result_cases (index : Int) (value : Word) (place : Place) :
    result index value place = none ∨
      (∃ register, place = .slot register ∧ index = register.val ∧ register ≠ zeroRegister) ∨
      place = .counter .discardedWrites ∧ result index value place = some .countUp := by
  cases named : RegisterFile.slotOf index .write with
  | error fault =>
    left
    rw [result, named]
    rfl
  | ok register =>
    simp only [result, named, given]
    by_cases hidden : register = zeroRegister
    · by_cases discarded : place = .counter .discardedWrites
      · exact .inr (.inr ⟨discarded, by simp [hidden, count, discarded]⟩)
      · exact .inl (by simp [hidden, count, discarded])
    · by_cases slot : place = .slot register
      · exact .inr (.inl ⟨register, slot, RegisterFile.slotOf_eq_ok_iff.1 named, hidden⟩)
      · exact .inl (by simp [hidden, put, slot])

/-- What a result changes is apart from what changes neither a slot nor the counter of discarded
writes. -/
theorem result_apart (index : Int) (value : Word) {other : Footprint}
    (slots : ∀ register, other (.slot register) = none)
    (discarded : other (.counter .discardedWrites) = none) (place : Place) :
    result index value place = none ∨ other place = none := by
  obtain untouched | ⟨register, rfl, _⟩ | ⟨rfl, _⟩ := result_cases index value place
  · exact .inl untouched
  · exact .inr (slots register)
  · exact .inr discarded

/-- A machine that took a word for a register differs by the footprint of a result. -/
theorem fits_accept (machine : Machine) (register : RegisterIndex) (value : Word) :
    (result register.val value).Fits machine (machine.accept register value) := by
  have checked : RegisterFile.slotOf register.val .write = .ok register :=
    RegisterFile.slotOf_eq_ok_iff.2 rfl
  unfold result
  rw [checked]
  unfold given Machine.accept
  by_cases hidden : register = zeroRegister
  · simp only [if_pos hidden]
    exact fits_count machine .discardedWrites
  · simp only [if_neg hidden]
    exact fits_set machine register value

/-- A machine in which an evaluation was concluded differs by its count, and by the flags and their
count if it was asked to set them. -/
theorem fits_conclude (machine : Machine) (outcome : Alu.Outcome) (setFlags : Bool) :
    ((count (.counter .aluOperations)).and <|
      if setFlags then (put .flags (.flags outcome.flags)).and (count (.counter .flagSettings))
      else nothing).Fits machine (machine.conclude outcome setFlags) := by
  have counted := fits_count machine .aluOperations
  cases setFlags with
  | false => exact counted.and (fits_nothing _) fun place => .inr rfl
  | true =>
    refine counted.and ((fits_setFlags _ outcome.flags).and (fits_count _ .flagSettings)
      (put_apart_count (by nofun) _)) fun place => ?_
    cases place with
    | counter counter => cases counter <;> simp [put, count, Footprint.and]
    | _ => exact .inl rfl

end Footprint

namespace Operation

/-- Looking changes nothing. -/
theorem footprint_of_observes {operation : Operation} (observes : operation.observes = true)
    (machine : Machine) : operation.footprint machine = .nothing := by
  cases operation, observes using Operation.observes_cases <;> rfl

open Footprint in
/-- An effect fits the footprint of its operation. -/
theorem Effect.fits {machine after : Machine} {operation : Operation} {value : Value}
    (effect : Effect machine operation value after)
    (stays : (Happening.performed operation (.ok value)).replaces = false) :
    (operation.footprint machine).Fits machine after := by
  induction effect with
  | observed observes =>
    rw [footprint_of_observes observes]
    exact fits_nothing machine
  | wroteBack register value => exact fits_accept machine register value
  | dropped computed defect =>
    simp only [footprint, evaluation, computed, given, defect, if_true]
    exact fits_count machine .aluOperations
  | executed register setFlags computed understood =>
    simp only [footprint, evaluation, computed, given, understood, Bool.false_eq_true, if_false]
    refine (fits_accept machine register _).and (fits_conclude _ _ setFlags) ?_
    apply result_apart <;> cases setFlags <;> simp [Footprint.and, count, put, nothing]
  | fetched first second executed same =>
    simp only [footprint, RegisterFile.read_register, given]
    exact same stays
  | loaded register found =>
    simp only [footprint, found, given]
    refine (fits_accept machine register _).and (fits_count _ .loads) ?_
    apply result_apart <;> simp [count]
  | stored register written =>
    simp only [footprint, RegisterFile.read_register, given]
    exact (fits_write written).and (fits_count _ .stores) (put_apart_count (by nofun) _)
  | branched checked =>
    obtain ⟨rfl, _⟩ := Machine.checkTarget_eq_ok_iff.1 checked
    exact fits_setPc machine _
  | branchedRelative checked =>
    obtain ⟨rfl, _⟩ := Machine.checkTarget_eq_ok_iff.1 checked
    exact fits_setPc machine _
  | taken holds checked =>
    obtain ⟨rfl, _⟩ := Machine.checkTarget_eq_ok_iff.1 checked
    simp only [footprint, holds, if_true]
    exact fits_setPc machine _
  | notTaken fails =>
    simp only [footprint, fails, Bool.false_eq_true, if_false]
    exact fits_setPc machine _
  | advanced => exact fits_setPc machine _
  | restarted built =>
    simp only [footprint, built, given]
    exact fun place => rfl
  | poked register value =>
    simp only [footprint, RegisterFile.slotOf_eq_ok_iff.2 rfl, given]
    exact fits_set machine register value
  | clearedRegisters =>
    intro place
    cases place with
    | slot register =>
      exact congrArg Content.value (Vector.getElem_replicate register.isLt)
    | _ => rfl
  | wroteMemory written => exact fits_write written
  | clearedMemory =>
    intro place
    cases place with
    | word address =>
      simp [Machine.content, Memory.find?, Memory.empty, footprint, clearWords, Content.changed]
    | _ => rfl
  | assignedFlags flags => exact fits_setFlags machine flags
  | notReplaced => exact fits_nothing machine
  | replaced copy => cases stays

end Operation

/-! ## Words that nothing disturbs -/

namespace Happening

/-- The happening writes the word under an address, or clears or replaces all of memory. -/
def disturbs (address : Word) : Happening → Bool
  | performed (.store _ target) (.ok _) | performed (.writeMemory target _) (.ok _) =>
    target = address
  | performed .clearMemory _ | performed .reset _
  | performed .restore (.ok (.truth true)) => true
  | _ => false

/-- What disturbs no word does not replace the machine. -/
theorem stays_of_undisturbed {happening : Happening} {address : Word}
    (undisturbed : happening.disturbs address = false) : happening.replaces = false := by
  unfold replaces
  split
  · cases undisturbed
  · rfl

end Happening

/-- What is left alone whatever was found is left alone. -/
theorem Footprint.given_apart {α : Type} (found : Except Fault α) {next : α → Footprint}
    {place : Place} (apart : ∀ value, next value place = none) :
    given found next place = none := by
  cases found with
  | error fault => rfl
  | ok value => exact apart value

/-- A result changes no word of memory. -/
theorem Footprint.result_word (index : Int) (value address : Word) :
    result index value (.word address) = none := by
  obtain untouched | ⟨_, slot, _⟩ | ⟨discarded, _⟩ := result_cases index value (.word address)
  · exact untouched
  · cases slot
  · cases discarded

/-- An evaluation changes no word of memory. -/
theorem Footprint.evaluation_word (operation : Alu.Operation) (destination : Int) (a b : Word)
    (setFlags : Bool) (address : Word) :
    evaluation operation destination a b setFlags (.word address) = none := by
  refine given_apart _ fun outcome => ?_
  by_cases defect : operation.signalsDecodeDefect <;> cases setFlags <;>
    simp [defect, count, put, Footprint.and, result_word, nothing]

/-- An operation that does not disturb a word has no place for it in its footprint. -/
theorem Operation.footprint_word {operation : Operation} {value : Value} {address : Word}
    (undisturbed : (Happening.performed operation (.ok value)).disturbs address = false)
    (machine : Machine) : operation.footprint machine (.word address) = none := by
  have apart {target : Word} (different : decide (target = address) = false) :
      Place.word address ≠ .word target := by
    rintro same
    cases same
    simp at different
  cases operation with
  | writeBack index value => exact Footprint.result_word index value address
  | execute operation destination a b setFlags =>
    exact Footprint.evaluation_word operation destination a b setFlags address
  | executeRegisters operation destination first second setFlags =>
    exact Footprint.given_apart _ fun a => Footprint.given_apart _ fun b =>
      Footprint.evaluation_word operation destination a b setFlags address
  | load destination target =>
    refine Footprint.given_apart _ fun value => ?_
    simp [Footprint.and, Footprint.result_word, Footprint.count]
  | store source target =>
    refine Footprint.given_apart _ fun value => ?_
    simp [Footprint.and, Footprint.put, Footprint.count, apart undisturbed]
  | writeMemory target value => exact if_neg (apart undisturbed)
  | pokeRegister index value => exact Footprint.given_apart _ fun register => rfl
  | branchIf condition offset =>
    simp only [footprint]
    split <;> rfl
  | reset | clearMemory => cases undisturbed
  | _ => rfl

/-- A happening keeps every word that it does not disturb. -/
theorem Happening.Leads.word_kept {happening : Happening} {session next : Session}
    {address : Word} (leads : happening.Leads session next)
    (undisturbed : happening.disturbs address = false) :
    next.machine.content (.word address) = session.machine.content (.word address) := by
  cases leads with
  | performed operation =>
    cases ran : operation.perform.run session with
    | ok value after =>
      rw [Operation.answer, ran] at undisturbed
      have fits := (Operation.effect_of_ok operation ran).fits
        (Happening.stays_of_undisturbed undisturbed) (.word address)
      rw [Operation.footprint_word undisturbed] at fits
      rw [Exec.final_of_ok ran]
      exact fits
    | error fault after =>
      rw [Operation.answer, ran] at undisturbed
      have other : operation ≠ .reset := by
        rintro rfl
        cases undisturbed
      rw [Exec.final_of_error ran, operation.atomic_perform other session fault after ran]
  | began => exact Footprint.fits_stepBegins session (.word address)
  | ended context fault => exact Footprint.fits_stepEnds session context _ (.word address)

/-- A walk keeps every word that none of its happenings disturbs. -/
theorem Walk.word_kept {session : Session} {history : List Happening} {moments : List Session}
    {address : Word} (walk : Walk session history moments)
    (undisturbed : ∀ happening ∈ history, happening.disturbs address = false) :
    (moments.getLastD session).machine.content (.word address) =
      session.machine.content (.word address) := by
  induction walk with
  | stay session => rfl
  | move leads onward kept =>
    obtain ⟨first, rest⟩ := List.forall_mem_cons.1 undisturbed
    rw [List.getLastD_cons, kept rest]
    exact leads.word_kept first

/-! ## Stores and loads -/

/-- A word that is stored can be loaded into any register, and then this register shows it,
unless it is the zero register. -/
theorem Exec.load_stored (destination : RegisterIndex) (visible : destination ≠ zeroRegister)
    {session : Session} {address value : Word}
    (found : session.machine.memory.find? address = some value) :
    ∃ loaded, (load destination.val address).run session = .ok value loaded ∧
      loaded.machine.registers.get destination = value := by
  have read : session.machine.memory.read address = .ok value := by
    have nonnegative := Memory.nonnegative_of_getElem? found
    rw [Memory.find?] at found
    rw [session.machine.memory.represents_words.reads address nonnegative, found]
    rfl
  obtain ⟨between, written⟩ :=
    (writeBack_succeeds_iff destination.val value session).2 (by omega)
  obtain ⟨register, named, taken⟩ := ok_of_writeBack written
  obtain rfl := RegisterFile.number_inj.1 named
  refine ⟨{ between with
    machine := between.machine.count fun counters => { counters with loads := counters.loads + 1 }
    log := between.log.push (.load address value) }, ?_, ?_⟩
  · simp only [load, readMemory, EStateM.run_bind, run_machine, run_require, read, written,
      run_count, run_emit]
    rfl
  · have shown : between.machine.registers.get destination = value := by
      rw [taken, Machine.get_accept _ _ _ _ visible, if_pos rfl]
    exact shown

/-- The places are all there is to a machine, and an operation that succeeds changes those in
its footprint and no others, each in the way that the footprint says. A step by itself, beyond
what its body does, counts its cycle when it begins and how it ended when it ends. So after a
store under an address that is not negative, whatever the operations and the ends of steps in
between, a load from this address gives its register what the stored one showed at the store,
if nothing in between wrote the word under just this address or cleared or replaced the
memory. -/
theorem operations_keep_to_their_footprints :
    (∀ left right : Machine, (∀ place, left.content place = right.content place) →
      left = right) ∧
    (∀ (operation : Operation) (value : Value) (session after : Session),
      operation.perform.run session = .ok value after →
      (Happening.performed operation (.ok value)).replaces = false →
      (operation.footprint session.machine).Fits session.machine after.machine) ∧
    (∀ (body : Program) (tolerated : Bool) (session : Session),
      let inner := body.run session.beginStep
      let outer := (Program.step body tolerated .done).run session
      Footprint.stepBegins.Fits session.machine session.beginStep.machine ∧
      (Footprint.stepEnds inner.fault.isSome).Fits inner.session.machine outer.session.machine) ∧
    ∀ (source destination : RegisterIndex) (address : Word) (session : Session),
      destination ≠ zeroRegister → 0 ≤ address.toInt →
      ∃ stored, (Exec.store source.val address).run session = .ok () stored ∧
        ∀ history moments, Walk stored history moments →
          (∀ happening ∈ history, happening.disturbs address = false) →
          ∃ loaded,
            (Exec.load destination.val address).run (moments.getLastD stored) =
              .ok (session.machine.registers.get source) loaded ∧
            (Exec.readRegister destination.val).run loaded =
              .ok (session.machine.registers.get source) loaded := by
  refine ⟨fun _ _ => Machine.ext_content, ?_, ?_, ?_⟩
  · intro operation value session after ran stays
    exact (operation.effect_of_ok ran).fits stays
  · intro body tolerated session inner outer
    have ended : outer.session = body.stepEnd session := by
      simp only [outer, Program.run_step]
      split <;> rfl
    have failed : (body.stepFault session).isSome = inner.fault.isSome := Option.isSome_map
    refine ⟨Footprint.fits_stepBegins session, ?_⟩
    rw [ended, Program.stepEnd, failed]
    exact Footprint.fits_stepEnds inner.session session.nextStep inner.fault.isSome
  · intro source destination address session visible nonnegative
    obtain ⟨stored, ran, written⟩ := Exec.store_register source session nonnegative
    refine ⟨stored, ran, fun history moments walk undisturbed => ?_⟩
    have kept : (moments.getLastD stored).machine.memory.find? address =
        some (session.machine.registers.get source) := by
      have word := Content.stored.inj (walk.word_kept undisturbed)
      rw [word, Memory.find?_of_write written, if_pos rfl]
    obtain ⟨loaded, found, shown⟩ := Exec.load_stored destination visible kept
    refine ⟨loaded, found, ?_⟩
    rw [Exec.run_readRegister, shown]

/-- A word is stored under an address off the grid of words. Then its neighbours are written
inside of a step, a store to the address itself fails for its register, and the registers are
cleared. The word is loaded all the same. -/
theorem neighbours_leave_a_word_alone :
    let session : Session := { machine := { registers := RegisterFile.cleared.set 3 (-5) } }
    let between : Program :=
      .step (.call (.store 31 12) false (.call (.writeMemory 14 9) false
        (.call (.store 32 13) false .done))) true (.call .clearRegisters false .done)
    ∃ stored loaded, (Exec.store 3 13).run session = .ok () stored ∧
      (Exec.load 5 13).run (between.run stored).session = .ok (-5) loaded ∧
      (Exec.readRegister 5).run loaded = .ok (-5) loaded := by
  intro session between
  obtain ⟨stored, ran, further⟩ :=
    operations_keep_to_their_footprints.2.2.2 3 5 13 session (by decide) (by decide)
  have undisturbed : ∀ happening ∈ between.history stored, happening.disturbs 13 = false := by
    cases ran
    decide +kernel
  obtain ⟨loaded, found, shown⟩ := further _ _ (between.walk stored) undisturbed
  rw [Program.getLast_moments] at found
  exact ⟨stored, loaded, ran, found, shown⟩

end Datapath
