import Datapath.Alu.Outcome
import Datapath.Condition
import Datapath.Config
import Datapath.Statistics

/-!
# The machine

A machine is the state that instructions act on, together with its counters and
its configuration. Booting gives the program counter and the stack pointer their
configured values. It fails only for a start address that no branch could reach:
one with a negative signed reading, or one off the grid of instructions.
-/

namespace Datapath

/-- The architectural state, its counters and its configuration. -/
structure Machine where
  registers : RegisterFile := {}
  memory : Memory := Memory.empty
  flags : Flags := {}
  statistics : Statistics := {}
  /-- The address of the current instruction. -/
  pc : Word := 0
  /-- The number of steps begun since the last reset. -/
  cycle : Nat := 0
  config : Config := {}

namespace Machine

instance : Inhabited Machine := ⟨{}⟩

/-- The distance from one instruction to the next, as a word. -/
def stride : Word := BitVec.ofNat 64 instructionBytes

/-- The address of a branch, if it can be the address of an instruction. -/
def checkTarget (target : Word) : Except Fault Word :=
  if target.toInt < 0 ∨ target.toNat % instructionBytes ≠ 0 then
    .error (.invalidProgramCounter target)
  else
    .ok target

/-- The machine with its configured program counter and stack pointer. -/
def boot (machine : Machine) : Except Fault Machine :=
  (checkTarget machine.config.general.startPc).map fun pc =>
    { machine with
      pc
      registers :=
        match machine.config.registers.initialSp with
        | some value => machine.registers.set stackPointer value
        | none => machine.registers }

/-- The machine without anything that execution left behind. The program counter
keeps its place until the machine boots. -/
def cleared (machine : Machine) : Machine := { pc := machine.pc, config := machine.config }

/-- A new machine of a given configuration. -/
def ofConfig (config : Config) : Except Fault Machine := boot { config }

/-- Change the counters. -/
def count (machine : Machine) (change : Statistics → Statistics) : Machine :=
  { machine with statistics := change machine.statistics }

/-- The registers as text. -/
def registerListing (machine : Machine) : String := machine.registers.listing

/-- The stored words that the configuration lets through. -/
def memoryEntries (machine : Machine) : List (Word × Word) :=
  machine.memory.entries machine.config.listing

/-- The stored words that the configuration lets through, as text. -/
def memoryListing (machine : Machine) : String := machine.memory.listing machine.config.listing

end Machine
end Datapath
