import Datapath.Proofs.Atomicity
import Datapath.Proofs.Division
import Datapath.Proofs.StoredWords

/-!
# Faults are raised exactly when due

Whether an instruction fails, and for which reason, is decided by its arguments. Each fallible
part of it has a fault that is due for some arguments and for no others, whatever the machine
holds, and a sequence fails with the first fault that is due among its parts. So the order in
which an instruction makes its checks is the order of its parts: a load looks at the address
before the register and a store at the register before the address, and an operation that was
not understood never comes to the check of its destination.
-/

namespace Datapath

namespace Exec

variable {α β : Type}

/-- In every session the action fails exactly if a fault is due, and then with this fault. -/
def FailsWith (action : Exec α) (due : Option Fault) : Prop :=
  ∀ session fault, (∃ after, action.run session = .error fault after) ↔ due = some fault

/-! ## Sequences -/

/-- For an action that cannot fail, no fault is due. -/
theorem Total.failsWith {action : Exec α} (total : Total action) : FailsWith action none := by
  intro session fault
  obtain ⟨value, after, succeeded⟩ := total session
  simp [succeeded]

/-- An action for which no fault is due cannot fail. -/
theorem FailsWith.total {action : Exec α} (fails : FailsWith action none) : Total action := by
  intro session
  cases ran : action.run session with
  | ok value after => exact ⟨value, after, rfl⟩
  | error fault after => cases (fails session fault).1 ⟨after, ran⟩

/-- An action that did not fail in some session has no fault that is due. -/
theorem FailsWith.eq_none {action : Exec α} {due : Option Fault} (fails : FailsWith action due)
    {session after : Session} {value : α} (succeeded : action.run session = .ok value after) :
    due = none := by
  cases due with
  | none => rfl
  | some fault =>
    obtain ⟨stopped, failed⟩ := (fails session fault).2 rfl
    rw [succeeded] at failed
    cases failed

/-- A sequence fails with the first fault that is due. -/
theorem FailsWith.bind {first : Exec α} {next : α → Exec β} {firstDue nextDue : Option Fault}
    (fails : FailsWith first firstDue) (further : ∀ value, FailsWith (next value) nextDue) :
    FailsWith (first >>= next) (firstDue.or nextDue) := by
  intro session fault
  cases ran : first.run session with
  | error reason stopped =>
    have due : firstDue = some reason := (fails session reason).1 ⟨stopped, ran⟩
    simp [EStateM.run_bind, ran, due]
  | ok value between =>
    have due : firstDue = none := fails.eq_none ran
    simp only [EStateM.run_bind, ran, due, Option.none_or]
    exact further value between fault

/-- What cannot fail adds no fault. -/
theorem FailsWith.then_total {first : Exec α} {next : α → Exec β} {due : Option Fault}
    (fails : FailsWith first due) (further : ∀ value, Total (next value)) :
    FailsWith (first >>= next) due := by
  have both := fails.bind fun value => (further value).failsWith
  rw [Option.or_none] at both
  exact both

/-- Looking at the machine comes before what fails alike for every machine. -/
theorem FailsWith.of_look {next : Machine → Exec α} {due : Option Fault}
    (fails : ∀ machine, FailsWith (next machine) due) : FailsWith (machine >>= next) due :=
  total_machine.failsWith.bind fails

/-- A requirement fails with the fault that it was given. -/
theorem failsWith_require {result : Except Fault α} {due : Option Fault}
    (refused : ∀ fault, result = .error fault ↔ due = some fault) :
    FailsWith (require result) due := by
  intro session fault
  rw [← refused fault]
  cases result <;> simp

/-! ## What is due -/

/-- The fault that is due for a register number: 32 registers can be named. -/
def dueForRegister (index : Int) (access : Access) : Option Fault :=
  if 0 ≤ index ∧ index ≤ 31 then none else some (.invalidRegister index access)

/-- The fault that is due for a memory address. -/
def dueForAddress (address : Word) : Option Fault :=
  if address.toInt < 0 then some (.negativeAddress address) else none

/-- The fault that is due for the operands of an evaluation. -/
def dueForOperands (operation : Alu.Operation) (a b : Word) : Option Fault :=
  if (operation = .sdiv ∨ operation = .udiv) ∧ b = 0 then some (.divisionByZero a b) else none

/-- The fault that is due for the destination of an evaluation, of which an operation that was
not understood makes no use. -/
def dueForDestination (operation : Alu.Operation) (destination : Int) : Option Fault :=
  if operation = .unknown then none else dueForRegister destination .write

/-- The fault that is due for the target of a branch. -/
def dueForTarget (target : Word) : Option Fault :=
  if target.toInt < 0 ∨ ¬ (4 : Int) ∣ target.toInt then some (.invalidProgramCounter target)
  else none

/-- A checked register number is refused with the fault that is due for it, whatever depends on it.
-/
theorem map_slotOf_error_iff_due (index : Int) (access : Access) (next : RegisterIndex → α)
    (fault : Fault) :
    (RegisterFile.slotOf index access).map next = .error fault ↔
      dueForRegister index access = some fault := by
  unfold RegisterFile.slotOf dueForRegister
  by_cases inside : 0 ≤ index ∧ index < 32
  · have upTo : 0 ≤ index ∧ index ≤ 31 := by omega
    simp [inside, upTo, Except.map]
  · have beyond : ¬ (0 ≤ index ∧ index ≤ 31) := by omega
    simp [inside, beyond, Except.map]

/-- A read of memory is refused with the fault that is due for its address. -/
theorem read_error_iff_due (memory : Memory) (address : Word) (fault : Fault) :
    memory.read address = .error fault ↔ dueForAddress address = some fault := by
  rw [Memory.read_eq_error_iff, dueForAddress]
  by_cases negative : address.toInt < 0 <;> simp [negative, eq_comm]

/-- A write to memory is refused with the fault that is due for its address. -/
theorem write_error_iff_due (memory : Memory) (address value : Word) (fault : Fault) :
    memory.write address value = .error fault ↔ dueForAddress address = some fault := by
  rw [Memory.write_eq_error_iff, dueForAddress]
  by_cases negative : address.toInt < 0 <;> simp [negative, eq_comm]

/-- An evaluation is refused with the fault that is due for its operands. -/
theorem compute_error_iff_due (operation : Alu.Operation) (a b : Word) (fault : Fault) :
    Alu.compute operation a b = .error fault ↔ dueForOperands operation a b = some fault := by
  rw [Alu.compute_eq_error_iff, dueForOperands]
  split
  case isTrue due =>
    obtain ⟨divides, rfl⟩ := due
    simp [divides, eq_comm]
  case isFalse fine =>
    refine iff_of_false ?_ (by simp)
    rintro ⟨divides, zero, _⟩
    exact fine ⟨divides, zero⟩

/-- A target is refused with the fault that is due for it, since it is off the grid of instructions
for both of its readings or for none. -/
theorem checkTarget_error_iff_due (target : Word) (fault : Fault) :
    Machine.checkTarget target = .error fault ↔ dueForTarget target = some fault := by
  have grid : target.toNat % instructionBytes ≠ 0 ↔ ¬ (4 : Int) ∣ target.toInt := by
    have reading := BitVec.toInt_eq_toNat_cond target
    unfold instructionBytes
    split at reading <;> omega
  rw [Machine.checkTarget, dueForTarget]
  simp only [grid]
  split <;> simp

/-! ## What fails -/

/-- Reading a register fails with the fault that is due for its number. -/
theorem failsWith_readRegister (index : Int) :
    FailsWith (readRegister index) (dueForRegister index .read) :=
  .of_look fun _ => failsWith_require (map_slotOf_error_iff_due index .read _)

/-- A raw write to a register fails with the fault that is due for its number. -/
theorem failsWith_pokeRegister (index : Int) (value : Word) :
    FailsWith (pokeRegister index value) (dueForRegister index .write) :=
  .of_look fun _ =>
    (failsWith_require (map_slotOf_error_iff_due index .write _)).then_total fun _ => total_update _

/-- Reading memory fails with the fault that is due for the address. -/
theorem failsWith_readMemory (address : Word) :
    FailsWith (readMemory address) (dueForAddress address) :=
  .of_look fun machine => failsWith_require (read_error_iff_due machine.memory address)

/-- Writing memory fails with the fault that is due for the address. -/
theorem failsWith_writeMemory (address value : Word) :
    FailsWith (writeMemory address value) (dueForAddress address) :=
  .of_look fun machine =>
    (failsWith_require (write_error_iff_due machine.memory address value)).then_total
      fun _ => total_update _

/-- Writing a result back fails with the fault that is due for the register number, the zero
register being one like the others. -/
theorem failsWith_writeBack (index : Int) (value : Word) :
    FailsWith (writeBack index value) (dueForRegister index .write) := by
  unfold writeBack
  split
  case isTrue hidden =>
    have nothing : dueForRegister index .write = none := by
      rw [hidden]
      rfl
    rw [nothing]
    exact ((total_count _).bind fun _ => total_emit _).failsWith
  case isFalse shown =>
    exact (failsWith_pokeRegister index value).then_total fun _ => total_emit _

/-- An evaluation fails with the fault that is due for its operands, and otherwise with the one that
is due for its destination. -/
theorem failsWith_execute (operation : Alu.Operation) (destination : Int) (a b : Word)
    (setFlags : Bool) :
    FailsWith (execute operation destination a b setFlags)
      ((dueForOperands operation a b).or (dueForDestination operation destination)) := by
  obtain ⟨report, conclude, reports, concludes, same⟩ :=
    exists_execute_eq operation destination a b setFlags
  rw [same]
  apply (failsWith_require (compute_error_iff_due operation a b)).bind
  intro outcome
  by_cases defect : operation = .unknown
  · subst defect
    exact (reports outcome).failsWith
  · have understood : operation.signalsDecodeDefect = false := by
      cases operation with
      | unknown => exact absurd rfl defect
      | _ => rfl
    rw [dueForDestination, if_neg defect, understood, if_neg Bool.false_ne_true]
    exact (failsWith_writeBack destination outcome.result).then_total fun _ => concludes outcome

/-- A load fails with the fault that is due for its address, and otherwise with the one that is due
for its destination. -/
theorem failsWith_load (destination : Int) (address : Word) :
    FailsWith (load destination address)
      ((dueForAddress address).or (dueForRegister destination .write)) :=
  (failsWith_readMemory address).bind fun value =>
    (failsWith_writeBack destination value).then_total fun _ =>
      (total_count _).bind fun _ => (total_emit _).bind fun _ => total_pure _

/-- A store fails with the fault that is due for its source, and otherwise with the one that is due
for its address. -/
theorem failsWith_store (source : Int) (address : Word) :
    FailsWith (store source address)
      ((dueForRegister source .read).or (dueForAddress address)) :=
  (failsWith_readRegister source).bind fun value =>
    (failsWith_writeMemory address value).then_total fun _ =>
      (total_count _).bind fun _ => total_emit _

/-- A branch fails with the fault that is due for its target. -/
theorem failsWith_branchTo (target : Word) : FailsWith (branchTo target) (dueForTarget target) :=
  (failsWith_require (checkTarget_error_iff_due target)).then_total fun _ => total_update _

/-- What the machine holds has no part in whether an operation fails and for which reason. The
write path of results fails for a number that names no register. An evaluation fails for a
division by zero, and otherwise for such a destination, unless its operation was not understood.
A load fails for a negative address, and otherwise for its register; a store fails for its
register, and otherwise for a negative address. A branch fails for a target that is negative
or no multiple of four. The fault names what was wrong. -/
theorem operations_fail_when_due :
    (∀ (index : Int) (value : Word),
      FailsWith (writeBack index value) (dueForRegister index .write)) ∧
    (∀ (operation : Alu.Operation) (destination : Int) (a b : Word) (setFlags : Bool),
      FailsWith (execute operation destination a b setFlags)
        ((dueForOperands operation a b).or (dueForDestination operation destination))) ∧
    (∀ (destination : Int) (address : Word),
      FailsWith (load destination address)
        ((dueForAddress address).or (dueForRegister destination .write))) ∧
    (∀ (source : Int) (address : Word),
      FailsWith (store source address)
        ((dueForRegister source .read).or (dueForAddress address))) ∧
    ∀ target : Word, FailsWith (branchTo target) (dueForTarget target) :=
  ⟨failsWith_writeBack, failsWith_execute, failsWith_load, failsWith_store, failsWith_branchTo⟩

/-- Where both arguments are wrong, a load and a store report different ones. -/
example :
    (load 32 (-8)).run {} = .error (.negativeAddress (-8)) {} ∧
      (store 32 (-8)).run {} = .error (.invalidRegister 32 .read) {} :=
  ⟨rfl, rfl⟩

end Exec
end Datapath
