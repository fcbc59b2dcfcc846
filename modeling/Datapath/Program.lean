import Datapath.Session

/-!
# Programs

A program is a sequence of operations and steps, and a step has a program as its
body. The first failure ends a program, unless the operation or step that failed
is marked as tolerated; then the program goes on. A step surrounds the failure
that ends its body with the context in which the step began.

Running a program gives its transcript: every operation that was run with its
result, in order, and every step with the transcript of its body.
-/

namespace Datapath

/-- What a program can ask of the machine. -/
inductive Operation where
  | readRegister (index : Int)
  | writeBack (index : Int) (value : Word)
  | execute (operation : Alu.Operation) (destination : Int) (a b : Word) (setFlags : Bool)
  | executeRegisters (operation : Alu.Operation) (destination first second : Int)
      (setFlags : Bool)
  | load (destination : Int) (address : Word)
  | store (source : Int) (address : Word)
  | branchTo (target : Word)
  | branchRelative (offset : Word)
  | branchIf (condition : Condition) (offset : Word)
  | advance
  | reset
  /-- Write a register slot without counting it. -/
  | pokeRegister (index : Int) (value : Word)
  | clearRegisters
  | registerSnapshot
  | readMemory (address : Word)
  | writeMemory (address value : Word)
  | clearMemory
  | memorySnapshot
  | assignFlags (flags : Flags)
  | readConfig
  | listRegisters
  | listMemory
  | reportStatistics
  | save
  | restore
  /-- Fail for a given reason. -/
  | fail (fault : Fault)
deriving DecidableEq

/-- What an operation answers. -/
inductive Value where
  | done
  | truth (value : Bool)
  | word (value : Word)
  | outcome (outcome : Alu.Outcome)
  | registers (snapshot : Vector Word 32)
  | entries (stored : List (Word × Word))
  | config (config : Config)
  | text (text : String)
  | listing (entries : List (Word × Word)) (text : String)
deriving DecidableEq

/-- Carry out an operation. -/
def Operation.perform : Operation → Exec Value
  | readRegister index => return .word (← Exec.readRegister index)
  | writeBack index value => do
    Exec.writeBack index value
    return .done
  | execute operation destination a b setFlags =>
    return .outcome (← Exec.execute operation destination a b setFlags)
  | executeRegisters operation destination first second setFlags =>
    return .outcome (← Exec.executeRegisters operation destination first second setFlags)
  | load destination address => return .word (← Exec.load destination address)
  | store source address => do
    Exec.store source address
    return .done
  | branchTo target => do
    Exec.branchTo target
    return .done
  | branchRelative offset => do
    Exec.branchRelative offset
    return .done
  | branchIf condition offset => return .truth (← Exec.branchIf condition offset)
  | advance => do
    Exec.advance
    return .done
  | reset => do
    Exec.reset
    return .done
  | pokeRegister index value => do
    Exec.pokeRegister index value
    return .done
  | clearRegisters => do
    Exec.update fun machine => { machine with registers := RegisterFile.cleared }
    return .done
  | registerSnapshot => return .registers (← Exec.machine).registers.snapshot
  | readMemory address => return .word (← Exec.readMemory address)
  | writeMemory address value => do
    Exec.writeMemory address value
    return .done
  | clearMemory => do
    Exec.update fun machine => { machine with memory := Memory.empty }
    return .done
  | memorySnapshot => return .entries (← Exec.machine).memory.snapshot
  | assignFlags flags => do
    Exec.update fun machine => { machine with flags }
    return .done
  | readConfig => return .config (← Exec.machine).config
  | listRegisters => return .text (← Exec.machine).registerListing
  | listMemory => do
    let machine ← Exec.machine
    return .listing machine.memoryEntries machine.memoryListing
  | reportStatistics => return .text (← Exec.machine).statistics.fullReport
  | save => do
    Exec.save
    return .done
  | restore => return .truth (← Exec.restore)
  | fail fault => throw fault

/-- Operations and steps in sequence, each marked as tolerated or not. -/
inductive Program where
  | done
  | call (operation : Operation) (tolerated : Bool) (rest : Program)
  | step (body : Program) (tolerated : Bool) (rest : Program)
deriving DecidableEq

/-- What a program did, up to the operation or step that ended it. An operation
stands with its result; a step stands with its context, with what its body did,
and with its fault if it has one. -/
inductive Transcript where
  | done
  | call (operation : Operation) (result : Except Fault Value) (rest : Transcript)
  | step (context : StepContext) (body : Transcript) (fault : Option Fault) (rest : Transcript)

/-- What comes of running a program. -/
structure Run where
  transcript : Transcript
  /-- The failure that ended the program early. -/
  fault : Option Fault
  session : Session

/-- Put an entry in front of the transcript. -/
def Run.prepend (run : Run) (entry : Transcript → Transcript) : Run :=
  { run with transcript := entry run.transcript }

/-- Run a program in a session. -/
def Program.run : Program → Session → Run
  | done, session => ⟨.done, none, session⟩
  | call operation tolerated rest, session =>
    match operation.perform.run session with
    | .ok value after => (rest.run after).prepend (.call operation (.ok value))
    | .error fault after =>
      if tolerated then (rest.run after).prepend (.call operation (.error fault))
      else ⟨.call operation (.error fault) .done, some fault, after⟩
  | step body tolerated rest, session =>
    let context := session.nextStep
    let inner := body.run session.beginStep
    let fault := inner.fault.map (Fault.withContext context.pc context.cycle)
    let after := inner.session.endStep context fault.isSome
    if fault.isSome && !tolerated then
      ⟨.step context inner.transcript fault .done, fault, after⟩
    else
      (rest.run after).prepend (.step context inner.transcript fault)

end Datapath
