import Datapath.Proofs.Atomicity

/-!
# The effects of operations

What a successful operation makes of the machine is said once, with a constructor
for each kind of operation and the guards that it passed. `Operation.Effect`
relates the machine before, the operation, its answer and the machine after. An
invariant or a count over runs is then a case analysis on the effect and need not
open the operations again.

A failed operation has no effect at all: on a machine that can be booted it leaves
the session as it found it.
-/

namespace Datapath

/-! ## Parts of effects -/

/-- Exactly the numbers of registers pass the check, each as itself. -/
theorem RegisterFile.slotOf_eq_ok_iff {index : Int} {access : Access}
    {register : RegisterIndex} : slotOf index access = .ok register ↔ index = register.val := by
  unfold slotOf
  split
  case isTrue inside =>
    simp only [Except.ok.injEq, Fin.ext_iff]
    omega
  case isFalse outside =>
    refine ⟨nofun, fun same => absurd ?_ outside⟩
    omega

/-- Registers are told apart by their numbers. -/
theorem RegisterFile.number_inj {left right : RegisterIndex} :
    (left.val : Int) = right.val ↔ left = right := by
  rw [Fin.ext_iff]
  omega

/-- What depends on a checked register number exists for the numbers of registers only. -/
theorem RegisterFile.map_slotOf_eq_ok_iff {α : Type} {index : Int} {access : Access}
    {next : RegisterIndex → α} {result : α} :
    (slotOf index access).map next = .ok result ↔
      ∃ register : RegisterIndex, index = register.val ∧ next register = result := by
  simp only [← @slotOf_eq_ok_iff index access]
  cases slotOf index access <;> simp [Except.map]

/-- What the registers hold after a boot. -/
def Config.registersAtBoot (config : Config) : RegisterFile :=
  match config.registers.initialSp with
  | some value => RegisterFile.cleared.set stackPointer value
  | none => RegisterFile.cleared

namespace Machine

/-- A new machine has its configured program counter and registers, and nothing else. -/
theorem eq_of_ofConfig {config : Config} {machine : Machine}
    (built : ofConfig config = .ok machine) :
    machine = { pc := config.general.startPc, registers := config.registersAtBoot, config } := by
  unfold ofConfig boot checkTarget at built
  by_cases refused : config.general.startPc.toInt < 0 ∨
      config.general.startPc.toNat % instructionBytes ≠ 0
  · rw [if_pos refused] at built
    cases built
  · rw [if_neg refused] at built
    exact (Except.ok.inj built).symm

/-- The machine after the write path of results took a word for a register. -/
def accept (machine : Machine) (register : RegisterIndex) (value : Word) : Machine :=
  if register = zeroRegister then
    machine.count fun counters => { counters with discardedWrites := counters.discardedWrites + 1 }
  else
    { machine with registers := machine.registers.set register value }

/-- The machine after an evaluation was counted, and its flags latched if asked to. -/
def conclude (machine : Machine) (outcome : Alu.Outcome) (setFlags : Bool) : Machine :=
  let counted := machine.count
    fun counters => { counters with aluOperations := counters.aluOperations + 1 }
  if setFlags then
    { counted with flags := outcome.flags }.count
      fun counters => { counters with flagSettings := counters.flagSettings + 1 }
  else counted

/-- Taking a word for a register leaves the configuration as it is. -/
@[simp] theorem config_accept (machine : Machine) (register : RegisterIndex) (value : Word) :
    (machine.accept register value).config = machine.config := by
  unfold accept
  split <;> rfl

/-- Taking a word for a register leaves the cycle as it is. -/
@[simp] theorem cycle_accept (machine : Machine) (register : RegisterIndex) (value : Word) :
    (machine.accept register value).cycle = machine.cycle := by
  unfold accept
  split <;> rfl

/-- Concluding an evaluation leaves the configuration as it is. -/
@[simp] theorem config_conclude (machine : Machine) (outcome : Alu.Outcome) (setFlags : Bool) :
    (machine.conclude outcome setFlags).config = machine.config := by
  cases setFlags <;> rfl

/-- Concluding an evaluation leaves the cycle as it is. -/
@[simp] theorem cycle_conclude (machine : Machine) (outcome : Alu.Outcome) (setFlags : Bool) :
    (machine.conclude outcome setFlags).cycle = machine.cycle := by
  cases setFlags <;> rfl

/-- Concluding an evaluation leaves the registers as they are. -/
@[simp] theorem registers_conclude (machine : Machine) (outcome : Alu.Outcome) (setFlags : Bool) :
    (machine.conclude outcome setFlags).registers = machine.registers := by
  cases setFlags <;> rfl

end Machine

namespace Operation

/-- Whether the operation can change nothing of the machine. -/
def observes : Operation → Bool
  | readRegister _ | registerSnapshot | readMemory _ | memorySnapshot | readConfig
  | listRegisters | listMemory | reportStatistics | save => true
  | _ => false

/-- What holds of the operations that only look holds of every operation that observes. -/
@[elab_as_elim]
theorem observes_cases {motive : (operation : Operation) → operation.observes = true → Prop}
    (readRegister : ∀ index, motive (.readRegister index) rfl)
    (registerSnapshot : motive .registerSnapshot rfl)
    (readMemory : ∀ address, motive (.readMemory address) rfl)
    (memorySnapshot : motive .memorySnapshot rfl) (readConfig : motive .readConfig rfl)
    (listRegisters : motive .listRegisters rfl) (listMemory : motive .listMemory rfl)
    (reportStatistics : motive .reportStatistics rfl) (save : motive .save rfl)
    (operation : Operation) (observes : operation.observes = true) :
    motive operation observes := by
  cases operation with
  | readRegister index => exact readRegister index
  | registerSnapshot => exact registerSnapshot
  | readMemory address => exact readMemory address
  | memorySnapshot => exact memorySnapshot
  | readConfig => exact readConfig
  | listRegisters => exact listRegisters
  | listMemory => exact listMemory
  | reportStatistics => exact reportStatistics
  | save => exact save
  | _ => cases observes

/-- What a successful operation with a given answer makes of a machine. -/
inductive Effect (machine : Machine) : Operation → Value → Machine → Prop where
  | observed {operation : Operation} {value : Value} (observes : operation.observes = true) :
      Effect machine operation value machine
  | wroteBack (register : RegisterIndex) (value : Word) :
      Effect machine (.writeBack register.val value) .done (machine.accept register value)
  /-- The operation of an evaluation was not understood, so the result went nowhere. -/
  | dropped {operation : Alu.Operation} {destination : Int} {a b : Word} {setFlags : Bool}
      {outcome : Alu.Outcome} (computed : Alu.compute operation a b = .ok outcome)
      (defect : operation.signalsDecodeDefect = true) :
      Effect machine (.execute operation destination a b setFlags) (.outcome outcome)
        (machine.count fun counters => { counters with aluOperations := counters.aluOperations + 1 })
  | executed {operation : Alu.Operation} (register : RegisterIndex) {a b : Word}
      (setFlags : Bool) {outcome : Alu.Outcome}
      (computed : Alu.compute operation a b = .ok outcome)
      (understood : operation.signalsDecodeDefect = false) :
      Effect machine (.execute operation register.val a b setFlags) (.outcome outcome)
        ((machine.accept register outcome.result).conclude outcome setFlags)
  /-- The operands of an evaluation came from registers. -/
  | fetched {operation : Alu.Operation} {destination : Int} {setFlags : Bool}
      {outcome : Alu.Outcome} {after : Machine} (first second : RegisterIndex)
      (executed : Effect machine (.execute operation destination (machine.registers.get first)
        (machine.registers.get second) setFlags) (.outcome outcome) after) :
      Effect machine (.executeRegisters operation destination first.val second.val setFlags)
        (.outcome outcome) after
  | loaded (register : RegisterIndex) {address value : Word}
      (found : machine.memory.read address = .ok value) :
      Effect machine (.load register.val address) (.word value)
        ((machine.accept register value).count
          fun counters => { counters with loads := counters.loads + 1 })
  | stored (register : RegisterIndex) {address : Word} {memory : Memory}
      (written : machine.memory.write address (machine.registers.get register) = .ok memory) :
      Effect machine (.store register.val address) .done
        ({ machine with memory }.count
          fun counters => { counters with stores := counters.stores + 1 })
  | branched {target pc : Word} (checked : Machine.checkTarget target = .ok pc) :
      Effect machine (.branchTo target) .done { machine with pc }
  | branchedRelative {offset pc : Word}
      (checked : Machine.checkTarget (machine.pc + offset * Machine.stride) = .ok pc) :
      Effect machine (.branchRelative offset) .done { machine with pc }
  | taken {condition : Condition} {offset pc : Word}
      (holds : condition.holds machine.flags = true)
      (checked : Machine.checkTarget (machine.pc + offset * Machine.stride) = .ok pc) :
      Effect machine (.branchIf condition offset) (.truth true) { machine with pc }
  | notTaken {condition : Condition} {offset : Word}
      (fails : condition.holds machine.flags = false) :
      Effect machine (.branchIf condition offset) (.truth false)
        { machine with pc := machine.pc + Machine.stride }
  | advanced : Effect machine .advance .done { machine with pc := machine.pc + Machine.stride }
  | restarted {fresh : Machine} (built : Machine.ofConfig machine.config = .ok fresh) :
      Effect machine .reset .done fresh
  | poked (register : RegisterIndex) (value : Word) :
      Effect machine (.pokeRegister register.val value) .done
        { machine with registers := machine.registers.set register value }
  | clearedRegisters :
      Effect machine .clearRegisters .done { machine with registers := RegisterFile.cleared }
  | wroteMemory {address value : Word} {memory : Memory}
      (written : machine.memory.write address value = .ok memory) :
      Effect machine (.writeMemory address value) .done { machine with memory }
  | clearedMemory : Effect machine .clearMemory .done { machine with memory := Memory.empty }
  | assignedFlags (flags : Flags) :
      Effect machine (.assignFlags flags) .done { machine with flags }
  /-- There was no copy that could replace the machine. -/
  | notReplaced : Effect machine .restore (.truth false) machine
  | replaced (copy : Machine) : Effect machine .restore (.truth true) copy

/-- No effect but a replacement brings another configuration. -/
theorem Effect.config_eq {machine after : Machine} {operation : Operation} {value : Value}
    (effect : Effect machine operation value after) :
    after.config = machine.config ∨ operation = .restore ∧ value = .truth true := by
  induction effect with
  | replaced copy => exact .inr ⟨rfl, rfl⟩
  | restarted built => exact .inl (Machine.config_of_ofConfig built)
  | wroteBack register value => exact .inl (Machine.config_accept ..)
  | executed register setFlags computed understood =>
    exact .inl ((Machine.config_conclude ..).trans (Machine.config_accept ..))
  | loaded register found => exact .inl (Machine.config_accept ..)
  | fetched first second executed same => exact same.imp_right nofun
  | _ => exact .inl rfl

end Operation

namespace Exec

variable {α β : Type} {session after : Session}

/-! ## What a success says -/

/-- A sequence succeeds in its second part, after its first part did. -/
theorem bind_eq_ok_iff {first : Exec α} {next : α → Exec β} {result : β} :
    (first >>= next).run session = .ok result after ↔
      ∃ value between, first.run session = .ok value between ∧
        (next value).run between = .ok result after := by
  rw [EStateM.run_bind]
  cases first.run session with
  | error fault stopped => simp
  | ok value between =>
    constructor
    · intro succeeded
      exact ⟨value, between, rfl, succeeded⟩
    · rintro ⟨_, _, same, succeeded⟩
      cases same
      exact succeeded

/-- What is only wrapped up for an answer has succeeded already. -/
theorem ok_of_answered {action : Exec α} {answer : α → β} {result : β}
    (succeeded : (action >>= fun value => pure (answer value)).run session = .ok result after) :
    ∃ value, action.run session = .ok value after ∧ answer value = result := by
  obtain ⟨value, _, ran, answered⟩ := bind_eq_ok_iff.1 succeeded
  cases answered
  exact ⟨value, ran, rfl⟩

/-- A requirement succeeds with the value that it was given, and in the same session. -/
theorem require_eq_ok_iff {result : Except Fault α} {value : α} :
    (require result).run session = .ok value after ↔ result = .ok value ∧ after = session := by
  cases result <;> simp [eq_comm]

/-- A register that was read exists, and was read as it shows. -/
theorem ok_of_readRegister {index : Int} {value : Word}
    (succeeded : (readRegister index).run session = .ok value after) :
    ∃ register : RegisterIndex, index = register.val ∧
      session.machine.registers.get register = value ∧ after = session := by
  obtain ⟨read, rfl⟩ := require_eq_ok_iff.1 succeeded
  obtain ⟨register, named, shown⟩ := RegisterFile.map_slotOf_eq_ok_iff.1 read
  exact ⟨register, named, shown, rfl⟩

/-- A raw write that succeeded named a register, and set that one alone. -/
theorem ok_of_pokeRegister {index : Int} {value : Word}
    (succeeded : (pokeRegister index value).run session = .ok () after) :
    ∃ register : RegisterIndex, index = register.val ∧
      after = { session with machine :=
        { session.machine with registers := session.machine.registers.set register value } } := by
  obtain ⟨_, _, looked, checkedAndUpdated⟩ := bind_eq_ok_iff.1 succeeded
  cases looked
  obtain ⟨registers, between, checked, updated⟩ := bind_eq_ok_iff.1 checkedAndUpdated
  obtain ⟨written, rfl⟩ := require_eq_ok_iff.1 checked
  obtain ⟨register, named, rfl⟩ := RegisterFile.map_slotOf_eq_ok_iff.1 written
  cases updated
  exact ⟨register, named, rfl⟩

/-- A result that was written back named a register, for which the machine took the word. -/
theorem ok_of_writeBack {index : Int} {value : Word}
    (succeeded : (writeBack index value).run session = .ok () after) :
    ∃ register : RegisterIndex, index = register.val ∧
      after.machine = session.machine.accept register value := by
  unfold writeBack at succeeded
  split at succeeded
  case isTrue hidden =>
    cases succeeded
    exact ⟨zeroRegister, hidden, rfl⟩
  case isFalse shown =>
    obtain ⟨_, between, poked, emitted⟩ := bind_eq_ok_iff.1 succeeded
    obtain ⟨register, named, rfl⟩ := ok_of_pokeRegister poked
    cases emitted
    refine ⟨register, named, ?_⟩
    have visible : register ≠ zeroRegister := by
      rintro rfl
      exact shown named
    rw [Machine.accept, if_neg visible]

/-- Memory that was read did not refuse the address, and gave the word in question. -/
theorem ok_of_readMemory {address value : Word}
    (succeeded : (readMemory address).run session = .ok value after) :
    session.machine.memory.read address = .ok value ∧ after = session :=
  require_eq_ok_iff.1 succeeded

/-- A write to memory that succeeded replaced the memory by the written one, and nothing else. -/
theorem ok_of_writeMemory {address value : Word}
    (succeeded : (writeMemory address value).run session = .ok () after) :
    ∃ memory, session.machine.memory.write address value = .ok memory ∧
      after = { session with machine := { session.machine with memory } } := by
  obtain ⟨_, _, looked, checkedAndUpdated⟩ := bind_eq_ok_iff.1 succeeded
  cases looked
  obtain ⟨memory, between, checked, updated⟩ := bind_eq_ok_iff.1 checkedAndUpdated
  obtain ⟨written, rfl⟩ := require_eq_ok_iff.1 checked
  cases updated
  exact ⟨memory, written, rfl⟩

/-- A branch that succeeded went to its target, which passed the check. -/
theorem ok_of_branchTo {target : Word}
    (succeeded : (branchTo target).run session = .ok () after) :
    ∃ pc, Machine.checkTarget target = .ok pc ∧ after.machine = { session.machine with pc } := by
  obtain ⟨pc, between, checked, updated⟩ := bind_eq_ok_iff.1 succeeded
  obtain ⟨accepted, rfl⟩ := require_eq_ok_iff.1 checked
  cases updated
  exact ⟨pc, accepted, rfl⟩

/-- A relative branch that succeeded went to the target at its offset, which passed the check. -/
theorem ok_of_branchRelative {offset : Word}
    (succeeded : (branchRelative offset).run session = .ok () after) :
    ∃ pc, Machine.checkTarget (session.machine.pc + offset * Machine.stride) = .ok pc ∧
      after.machine = { session.machine with pc } := by
  obtain ⟨_, _, looked, branched⟩ := bind_eq_ok_iff.1 succeeded
  cases looked
  exact ok_of_branchTo branched

/-- An evaluation has an outcome. If its operation was not understood it is only reported and
counted, otherwise the result is written and then the rest concluded. -/
theorem ok_of_execute {operation : Alu.Operation} {destination : Int} {a b : Word}
    {setFlags : Bool} {outcome : Alu.Outcome}
    (succeeded : (execute operation destination a b setFlags).run session = .ok outcome after) :
    Alu.compute operation a b = .ok outcome ∧
    (operation.signalsDecodeDefect = true ∧
        after = { session with
          machine := session.machine.count
            fun counters => { counters with aluOperations := counters.aluOperations + 1 }
          log := session.log.push
            (.unknownOperation session.machine.pc session.machine.cycle destination) } ∨
      operation.signalsDecodeDefect = false ∧
        ∃ between, (writeBack destination outcome.result).run session = .ok () between ∧
          after = { between with machine := between.machine.conclude outcome setFlags }) := by
  rw [run_execute] at succeeded
  split at succeeded
  case h_1 => cases succeeded
  case h_2 result computed =>
    cases defect : operation.signalsDecodeDefect with
    | true =>
      rw [defect, if_pos rfl] at succeeded
      cases succeeded
      exact ⟨computed, .inl ⟨rfl, rfl⟩⟩
    | false =>
      rw [defect, if_neg Bool.false_ne_true] at succeeded
      split at succeeded
      case h_1 => cases succeeded
      case h_2 between written =>
        cases setFlags with
        | true | false =>
          cases succeeded
          exact ⟨computed, .inr ⟨rfl, between, written, rfl⟩⟩

/-- An instruction on registers that succeeded is an evaluation of the words that its two operands
show. -/
theorem ok_of_executeRegisters {operation : Alu.Operation} {destination first second : Int}
    {setFlags : Bool} {outcome : Alu.Outcome}
    (succeeded : (executeRegisters operation destination first second setFlags).run session =
      .ok outcome after) :
    ∃ left right : RegisterIndex, first = left.val ∧ second = right.val ∧
      (execute operation destination (session.machine.registers.get left)
        (session.machine.registers.get right) setFlags).run session = .ok outcome after := by
  obtain ⟨_, _, readFirst, more⟩ := bind_eq_ok_iff.1 succeeded
  obtain ⟨left, firstNamed, rfl, rfl⟩ := ok_of_readRegister readFirst
  obtain ⟨_, _, readSecond, executed⟩ := bind_eq_ok_iff.1 more
  obtain ⟨right, secondNamed, rfl, rfl⟩ := ok_of_readRegister readSecond
  exact ⟨left, right, firstNamed, secondNamed, executed⟩

/-- A load that succeeded read the word, wrote it back, and then counted and logged the load. -/
theorem ok_of_load {destination : Int} {address value : Word}
    (succeeded : (load destination address).run session = .ok value after) :
    session.machine.memory.read address = .ok value ∧
      ∃ between, (writeBack destination value).run session = .ok () between ∧
        after = { between with
          machine := between.machine.count
            fun counters => { counters with loads := counters.loads + 1 }
          log := between.log.push (.load address value) } := by
  obtain ⟨_, _, read, more⟩ := bind_eq_ok_iff.1 succeeded
  obtain ⟨found, rfl⟩ := ok_of_readMemory read
  obtain ⟨_, between, written, counted⟩ := bind_eq_ok_iff.1 more
  cases counted
  exact ⟨found, between, written, rfl⟩

/-- A store that succeeded wrote the word that its source shows, and counted and logged the store.
-/
theorem ok_of_store {source : Int} {address : Word}
    (succeeded : (store source address).run session = .ok () after) :
    ∃ (register : RegisterIndex) (memory : Memory), source = register.val ∧
      session.machine.memory.write address (session.machine.registers.get register) =
        .ok memory ∧
      after = { session with
        machine := { session.machine with memory }.count
          fun counters => { counters with stores := counters.stores + 1 }
        log := session.log.push (.store address (session.machine.registers.get register)) } := by
  obtain ⟨_, _, read, more⟩ := bind_eq_ok_iff.1 succeeded
  obtain ⟨register, named, rfl, rfl⟩ := ok_of_readRegister read
  obtain ⟨_, _, wrote, counted⟩ := bind_eq_ok_iff.1 more
  obtain ⟨memory, written, rfl⟩ := ok_of_writeMemory wrote
  cases counted
  exact ⟨register, memory, named, written, rfl⟩

/-- A reset that succeeded put a new machine of the same configuration in place, and logged this. -/
theorem ok_of_reset (succeeded : reset.run session = .ok () after) :
    ∃ fresh, Machine.ofConfig session.machine.config = .ok fresh ∧
      after = { session with
        machine := fresh
        log := session.log.push (.machineReset fresh.pc) } := by
  rw [run_reset] at succeeded
  split at succeeded
  case h_1 fresh built =>
    cases succeeded
    exact ⟨fresh, built, rfl⟩
  case h_2 => cases succeeded

end Exec

namespace Operation

variable {session after : Session}

/-- An evaluation that succeeded has the effect of an evaluation: the count alone for an unknown
operation, and otherwise the result, the count and the flags. -/
theorem effect_of_execute {operation : Alu.Operation} {destination : Int} {a b : Word}
    {setFlags : Bool} {outcome : Alu.Outcome}
    (succeeded : (Exec.execute operation destination a b setFlags).run session =
      .ok outcome after) :
    Effect session.machine (.execute operation destination a b setFlags) (.outcome outcome)
      after.machine := by
  obtain ⟨computed, ⟨defect, rfl⟩ | ⟨understood, between, written, rfl⟩⟩ :=
    Exec.ok_of_execute succeeded
  · exact .dropped computed defect
  · obtain ⟨register, rfl, taken⟩ := Exec.ok_of_writeBack written
    rw [taken]
    exact .executed register setFlags computed understood

/-- A conditional branch is a relative branch if its condition holds, and an advance if not. -/
theorem effect_of_branchIf {condition : Condition} {offset : Word} {holds : Bool}
    (succeeded : (Exec.branchIf condition offset).run session = .ok holds after) :
    Effect session.machine (.branchIf condition offset) (.truth holds) after.machine := by
  obtain ⟨_, _, looked, more⟩ := Exec.bind_eq_ok_iff.1 succeeded
  cases looked
  cases decided : condition.holds session.machine.flags with
  | true =>
    simp only [decided, if_true] at more
    obtain ⟨_, _, branched, answered⟩ := Exec.bind_eq_ok_iff.1 more
    obtain ⟨pc, checked, moved⟩ := Exec.ok_of_branchRelative branched
    cases answered
    exact moved ▸ .taken decided checked
  | false =>
    simp only [decided, Bool.false_eq_true, if_false] at more
    cases more
    exact .notTaken decided

/-- An operation that succeeded had an effect of its kind. -/
theorem effect_of_ok (operation : Operation) {value : Value}
    (succeeded : operation.perform.run session = .ok value after) :
    Effect session.machine operation value after.machine := by
  cases operation with
  | readRegister index =>
    obtain ⟨_, read, rfl⟩ := Exec.ok_of_answered succeeded
    obtain ⟨_, _, _, rfl⟩ := Exec.ok_of_readRegister read
    exact .observed rfl
  | writeBack index value =>
    obtain ⟨_, written, rfl⟩ := Exec.ok_of_answered succeeded
    obtain ⟨register, rfl, taken⟩ := Exec.ok_of_writeBack written
    exact taken ▸ .wroteBack register value
  | execute operation destination a b setFlags =>
    obtain ⟨outcome, executed, rfl⟩ := Exec.ok_of_answered succeeded
    exact effect_of_execute executed
  | executeRegisters operation destination first second setFlags =>
    obtain ⟨outcome, ran, rfl⟩ := Exec.ok_of_answered succeeded
    obtain ⟨left, right, rfl, rfl, executed⟩ := Exec.ok_of_executeRegisters ran
    exact .fetched left right (effect_of_execute executed)
  | load destination address =>
    obtain ⟨value, ran, rfl⟩ := Exec.ok_of_answered succeeded
    obtain ⟨found, between, written, rfl⟩ := Exec.ok_of_load ran
    obtain ⟨register, rfl, taken⟩ := Exec.ok_of_writeBack written
    rw [taken]
    exact .loaded register found
  | store source address =>
    obtain ⟨_, ran, rfl⟩ := Exec.ok_of_answered succeeded
    obtain ⟨register, memory, rfl, written, rfl⟩ := Exec.ok_of_store ran
    exact .stored register written
  | branchTo target =>
    obtain ⟨_, ran, rfl⟩ := Exec.ok_of_answered succeeded
    obtain ⟨pc, checked, moved⟩ := Exec.ok_of_branchTo ran
    exact moved ▸ .branched checked
  | branchRelative offset =>
    obtain ⟨_, ran, rfl⟩ := Exec.ok_of_answered succeeded
    obtain ⟨pc, checked, moved⟩ := Exec.ok_of_branchRelative ran
    exact moved ▸ .branchedRelative checked
  | branchIf condition offset =>
    obtain ⟨holds, ran, rfl⟩ := Exec.ok_of_answered succeeded
    exact effect_of_branchIf ran
  | advance =>
    cases succeeded
    exact .advanced
  | reset =>
    obtain ⟨_, ran, rfl⟩ := Exec.ok_of_answered succeeded
    obtain ⟨fresh, built, rfl⟩ := Exec.ok_of_reset ran
    exact .restarted built
  | pokeRegister index value =>
    obtain ⟨_, poked, rfl⟩ := Exec.ok_of_answered succeeded
    obtain ⟨register, rfl, rfl⟩ := Exec.ok_of_pokeRegister poked
    exact .poked register value
  | clearRegisters =>
    cases succeeded
    exact .clearedRegisters
  | readMemory address =>
    obtain ⟨_, read, rfl⟩ := Exec.ok_of_answered succeeded
    obtain ⟨_, rfl⟩ := Exec.ok_of_readMemory read
    exact .observed rfl
  | writeMemory address value =>
    obtain ⟨_, wrote, rfl⟩ := Exec.ok_of_answered succeeded
    obtain ⟨memory, written, rfl⟩ := Exec.ok_of_writeMemory wrote
    exact .wroteMemory written
  | clearMemory =>
    cases succeeded
    exact .clearedMemory
  | assignFlags flags =>
    cases succeeded
    exact .assignedFlags flags
  | restore =>
    obtain ⟨_, ran, rfl⟩ := Exec.ok_of_answered succeeded
    rw [Exec.run_restore] at ran
    split at ran
    case h_1 copy saved =>
      cases ran
      exact .replaced copy
    case h_2 =>
      cases ran
      exact .notReplaced
  | fail fault => cases succeeded
  | registerSnapshot | memorySnapshot | readConfig | listRegisters | listMemory
  | reportStatistics | save =>
    cases succeeded
    exact .observed rfl

end Operation
end Datapath
