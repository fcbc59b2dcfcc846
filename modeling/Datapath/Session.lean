import Datapath.Event
import Datapath.Machine

/-!
# Sessions and the operations on their machine

A session is a machine, the events it logged, and a copy that was set aside. An
operation on a session can fail. What it changed before it failed stays changed,
so whether a failed operation leaves the machine as it was is a property of the
operation and not of the way operations are put together.
-/

namespace Datapath

/-- A machine with its log and the copy that was last set aside. -/
structure Session where
  machine : Machine := {}
  log : Array Event := #[]
  saved : Option Machine := none

/-- An action on a session that ends with a value or a fault, and keeps its changes either way. -/
abbrev Exec := EStateM Fault Session

namespace Exec

/-- The machine as it is now. -/
def machine : Exec Machine := do return (← get).machine

/-- Change the machine. -/
def update (change : Machine → Machine) : Exec Unit :=
  modify fun session => { session with machine := change session.machine }

/-- Change the counters. -/
def count (change : Statistics → Statistics) : Exec Unit :=
  update fun machine => machine.count change

/-- Log an event. -/
def emit (event : Event) : Exec Unit :=
  modify fun session => { session with log := session.log.push event }

/-- Go on with a value, or end with a fault. -/
def require {α : Type} : Except Fault α → Exec α
  | .ok value => pure value
  | .error fault => throw fault

/-- Looking at the machine changes nothing. -/
@[simp] theorem run_machine (session : Session) :
    machine.run session = .ok session.machine session := rfl

/-- A change of the machine never fails and leaves the rest of the session alone. -/
@[simp] theorem run_update (change : Machine → Machine) (session : Session) :
    (update change).run session = .ok () { session with machine := change session.machine } := rfl

/-- Counting never fails and changes nothing but the counters. -/
@[simp] theorem run_count (change : Statistics → Statistics) (session : Session) :
    (count change).run session =
      .ok () { session with machine := session.machine.count change } := rfl

/-- An event joins the end of the log. -/
@[simp] theorem run_emit (event : Event) (session : Session) :
    (emit event).run session = .ok () { session with log := session.log.push event } := rfl

/-- A value is passed on, and a fault ends the action; neither changes the session. -/
@[simp] theorem run_require {α : Type} (result : Except Fault α) (session : Session) :
    (require result).run session =
      match result with
      | .ok value => .ok value session
      | .error fault => .error fault session := by
  cases result <;> rfl

/-! ## Registers and memory -/

/-- Read a register. -/
def readRegister (index : Int) : Exec Word := do
  require ((← machine).registers.read index)

/-- Write a slot of the register file, the hidden one included. Nothing is counted or logged. -/
def pokeRegister (index : Int) (value : Word) : Exec Unit := do
  let registers ← require ((← machine).registers.write index value)
  update fun machine => { machine with registers }

/-- Read a word of memory. -/
def readMemory (address : Word) : Exec Word := do
  require ((← machine).memory.read address)

/-- Write a word of memory. Nothing is counted or logged. -/
def writeMemory (address value : Word) : Exec Unit := do
  let memory ← require ((← machine).memory.write address value)
  update fun machine => { machine with memory }

/-- Give a register its result. A result for the zero register is dropped and counted. -/
def writeBack (index : Int) (value : Word) : Exec Unit := do
  if index = zeroRegister.val then
    count fun counters => { counters with discardedWrites := counters.discardedWrites + 1 }
    emit (.writeDiscarded value)
  else
    pokeRegister index value
    emit (.writeBack index value)

/-! ## Instructions -/

/-- Evaluate an operation and give its result to a register, and its flags to the
machine if asked to. An operation that shows a decoding defect is evaluated and
counted, but changes neither registers nor flags. -/
def execute (operation : Alu.Operation) (destination : Int) (a b : Word) (setFlags : Bool) :
    Exec Alu.Outcome := do
  let outcome ← require (Alu.compute operation a b)
  if operation.signalsDecodeDefect then
    let before ← machine
    emit (.unknownOperation before.pc before.cycle destination)
    count fun counters => { counters with aluOperations := counters.aluOperations + 1 }
  else
    writeBack destination outcome.result
    count fun counters => { counters with aluOperations := counters.aluOperations + 1 }
    if setFlags then
      update fun machine => { machine with flags := outcome.flags }
      count fun counters => { counters with flagSettings := counters.flagSettings + 1 }
  return outcome

/-- Evaluate an operation on the contents of two registers. -/
def executeRegisters (operation : Alu.Operation) (destination first second : Int)
    (setFlags : Bool) : Exec Alu.Outcome := do
  let a ← readRegister first
  let b ← readRegister second
  execute operation destination a b setFlags

/-- Give a register the word stored under an address. -/
def load (destination : Int) (address : Word) : Exec Word := do
  let value ← readMemory address
  writeBack destination value
  count fun counters => { counters with loads := counters.loads + 1 }
  emit (.load address value)
  return value

/-- Store a register's content under an address. -/
def store (source : Int) (address : Word) : Exec Unit := do
  let value ← readRegister source
  writeMemory address value
  count fun counters => { counters with stores := counters.stores + 1 }
  emit (.store address value)

/-! ## The program counter -/

/-- Go on to the next instruction. -/
def advance : Exec Unit :=
  update fun machine => { machine with pc := machine.pc + Machine.stride }

/-- Go on at a given address. -/
def branchTo (target : Word) : Exec Unit := do
  let pc ← require (Machine.checkTarget target)
  update fun machine => { machine with pc }

/-- Go on a number of instructions ahead or back. -/
def branchRelative (offset : Word) : Exec Unit := do
  branchTo ((← machine).pc + offset * Machine.stride)

/-- Branch if the flags satisfy a condition, and go on to the next instruction
otherwise. The answer says whether they did. -/
def branchIf (condition : Condition) (offset : Word) : Exec Bool := do
  let holds := condition.holds (← machine).flags
  if holds then branchRelative offset else advance
  return holds

/-! ## The machine as a whole -/

/-- Put the machine back into its configured state. -/
def reset : Exec Unit := do
  update Machine.cleared
  let booted ← require (← machine).boot
  update fun _ => booted
  emit (.machineReset booted.pc)

/-- Set a copy of the machine aside. -/
def save : Exec Unit :=
  modify fun session => { session with saved := some session.machine }

/-- Replace the machine by the copy set aside. The answer says whether there is one. -/
def restore : Exec Bool := do
  match (← get).saved with
  | some copy =>
    update fun _ => copy
    return true
  | none => return false

end Exec

/-! ## Steps -/

/-- Where a step begins and its number among the cycles. -/
structure StepContext where
  pc : Word
  cycle : Nat
deriving DecidableEq, Repr

namespace Session

/-- The context of the step that would begin now. -/
def nextStep (session : Session) : StepContext :=
  ⟨session.machine.pc, session.machine.cycle + 1⟩

/-- Count the beginning of a step. -/
def beginStep (session : Session) : Session :=
  { session with
    machine :=
      { session.machine with cycle := session.machine.cycle + 1 }.count
        fun counters => { counters with cycles := counters.cycles + 1 } }

/-- Count the end of a step, and log it if it ended well and the configuration asks for it. -/
def endStep (session : Session) (context : StepContext) (failed : Bool) : Session :=
  if failed then
    { session with
      machine := session.machine.count
        fun counters => { counters with faults := counters.faults + 1 } }
  else
    { session with
      machine := session.machine.count
        fun counters => { counters with stepsRetired := counters.stepsRetired + 1 }
      log :=
        if session.machine.config.general.traceSteps then
          session.log.push (.stepRetired context.pc context.cycle session.machine.flags)
        else session.log }

end Session
end Datapath
