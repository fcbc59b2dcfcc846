import Datapath.Proofs.Reachability

/-!
# Failed operations change nothing

An action keeps its changes when it fails, so atomicity is not a matter of how
actions are put together. It is one of order: in every operation all that can
fail stands in front of all that changes the session. An action that only looks
may come before an atomic one, and after an atomic one may come whatever cannot
fail; the operations are built by these two rules.

Reset is the exception. It clears the machine before the one thing that can go
wrong, booting, so it is atomic only because booting does not go wrong for the
configuration of a reachable machine.
-/

namespace Datapath

namespace Exec

variable {α β : Type}

/-- The action changes no session, whether it succeeds or fails. -/
def ReadOnly (action : Exec α) : Prop := ∀ session, action.final session = session

/-- The action cannot fail. -/
def Total (action : Exec α) : Prop :=
  ∀ session, ∃ value after, action.run session = .ok value after

/-- Where the action fails, it leaves the session as it found it. -/
def Atomic (action : Exec α) : Prop :=
  ∀ session fault after, action.run session = .error fault after → after = session

/-! ## Looking first, changing last -/

/-- An action that only looks is atomic. -/
theorem ReadOnly.atomic {action : Exec α} (looks : ReadOnly action) : Atomic action := by
  intro session fault after failed
  rw [← final_of_error failed]
  exact looks session

/-- An action that cannot fail is atomic. -/
theorem Total.atomic {action : Exec α} (total : Total action) : Atomic action := by
  intro session fault after failed
  obtain ⟨value, other, succeeded⟩ := total session
  rw [succeeded] at failed
  cases failed

/-- Looking and then looking further is only looking. -/
theorem ReadOnly.bind {first : Exec α} {next : α → Exec β} (looks : ReadOnly first)
    (further : ∀ value, ReadOnly (next value)) : ReadOnly (first >>= next) := by
  intro session
  have unchanged := looks session
  rw [final_bind]
  cases ran : first.run session with
  | ok value after =>
    rw [final_of_ok ran] at unchanged
    subst unchanged
    exact further value after
  | error fault after =>
    rw [final_of_error ran] at unchanged
    exact unchanged

/-- What cannot fail in either part cannot fail. -/
theorem Total.bind {first : Exec α} {next : α → Exec β} (total : Total first)
    (further : ∀ value, Total (next value)) : Total (first >>= next) := by
  intro session
  obtain ⟨value, between, succeeded⟩ := total session
  obtain ⟨result, after, finished⟩ := further value between
  exact ⟨result, after, by simp [succeeded, finished]⟩

/-- Looking may come before an atomic action: should it fail, nothing has changed yet. -/
theorem ReadOnly.then_atomic {first : Exec α} {next : α → Exec β} (looks : ReadOnly first)
    (further : ∀ value, Atomic (next value)) : Atomic (first >>= next) := by
  intro session fault after failed
  obtain stopped | ⟨value, between, looked, failedLater⟩ := bind_eq_error_iff.1 failed
  · exact looks.atomic session fault after stopped
  · have unchanged := looks session
    rw [final_of_ok looked] at unchanged
    subst unchanged
    exact further value between fault after failedLater

/-- What cannot fail may come after an atomic action: then only the atomic one fails. -/
theorem Atomic.then_total {first : Exec α} {next : α → Exec β} (atomic : Atomic first)
    (further : ∀ value, Total (next value)) : Atomic (first >>= next) := by
  intro session fault after failed
  obtain stopped | ⟨value, between, _, failedLater⟩ := bind_eq_error_iff.1 failed
  · exact atomic session fault after stopped
  · obtain ⟨result, other, finished⟩ := further value between
    rw [finished] at failedLater
    cases failedLater

/-! ## The pieces -/

/-- To look at the machine changes no session. -/
theorem readOnly_machine : ReadOnly machine := fun _ => rfl

/-- To demand that a result is no fault changes no session, even where it is one. -/
theorem readOnly_require (result : Except Fault α) : ReadOnly (require result) := by
  intro session
  cases result <;> rfl

/-- An action that only answers cannot fail. -/
theorem total_pure (value : α) : Total (pure value) := fun session => ⟨value, session, rfl⟩

/-- To look at the machine cannot fail. -/
theorem total_machine : Total machine := fun _ => ⟨_, _, rfl⟩

/-- A change of the machine cannot fail. -/
theorem total_update (change : Machine → Machine) : Total (update change) := fun _ => ⟨_, _, rfl⟩

/-- Counting cannot fail. -/
theorem total_count (change : Statistics → Statistics) : Total (count change) :=
  fun _ => ⟨_, _, rfl⟩

/-- An entry in the log cannot fail. -/
theorem total_emit (event : Event) : Total (emit event) := fun _ => ⟨_, _, rfl⟩

/-- To advance the program counter cannot fail, as it is not checked. -/
theorem total_advance : Total advance := total_update _

/-- To save the machine cannot fail. -/
theorem total_save : Total save := fun _ => ⟨_, _, rfl⟩

/-- To restore the saved machine cannot fail, even if none was saved. -/
theorem total_restore : Total restore := by
  intro session
  rw [run_restore]
  cases session.saved with
  | none => exact ⟨_, _, rfl⟩
  | some copy => exact ⟨_, _, rfl⟩

/-- To read a register changes no session, whether or not there is such a register. -/
theorem readOnly_readRegister (index : Int) : ReadOnly (readRegister index) :=
  readOnly_machine.bind fun _ => readOnly_require _

/-- To read memory changes no session, whether or not the address is refused. -/
theorem readOnly_readMemory (address : Word) : ReadOnly (readMemory address) :=
  readOnly_machine.bind fun _ => readOnly_require _

/-! ## The operations -/

/-- A raw write to a register that does not exist changes nothing: the number is checked first. -/
theorem atomic_pokeRegister (index : Int) (value : Word) : Atomic (pokeRegister index value) :=
  readOnly_machine.then_atomic fun _ =>
    (readOnly_require _).then_atomic fun _ => (total_update _).atomic

/-- A write to a refused address changes nothing: the address is checked first. -/
theorem atomic_writeMemory (address value : Word) : Atomic (writeMemory address value) :=
  readOnly_machine.then_atomic fun _ =>
    (readOnly_require _).then_atomic fun _ => (total_update _).atomic

/-- The write path of results refuses a number before it counts or logs anything. -/
theorem atomic_writeBack (index : Int) (value : Word) : Atomic (writeBack index value) := by
  unfold writeBack
  split
  · exact ((total_count _).bind fun _ => total_emit _).atomic
  · exact (atomic_pokeRegister index value).then_total fun _ => total_emit _

/-- After the check of its operands and the write of its result, nothing in an evaluation can
fail. One whose operation was not understood leaves out the write. -/
theorem exists_execute_eq (operation : Alu.Operation) (destination : Int) (a b : Word)
    (setFlags : Bool) :
    ∃ report conclude : Alu.Outcome → Exec Alu.Outcome,
      (∀ outcome, Total (report outcome)) ∧ (∀ outcome, Total (conclude outcome)) ∧
      execute operation destination a b setFlags =
        require (Alu.compute operation a b) >>= fun outcome =>
          if operation.signalsDecodeDefect then report outcome
          else writeBack destination outcome.result >>= fun _ => conclude outcome := by
  refine ⟨_, _, ?report, ?conclude, rfl⟩
  case report =>
    intro outcome
    exact total_machine.bind fun _ => (total_emit _).bind fun _ =>
      (total_count _).bind fun _ => total_pure _
  case conclude =>
    intro outcome
    refine (total_count _).bind fun _ => ?_
    split
    · exact (total_update _).bind fun _ => (total_count _).bind fun _ => total_pure _
    · exact total_pure _

/-- An evaluation counts and latches only after its result is written. -/
theorem atomic_execute (operation : Alu.Operation) (destination : Int) (a b : Word)
    (setFlags : Bool) : Atomic (execute operation destination a b setFlags) := by
  obtain ⟨report, conclude, reports, concludes, same⟩ :=
    exists_execute_eq operation destination a b setFlags
  rw [same]
  apply (readOnly_require _).then_atomic
  intro outcome
  split
  · exact (reports outcome).atomic
  · exact (atomic_writeBack destination outcome.result).then_total fun _ => concludes outcome

/-- An instruction on registers that fails, in a read or in the evaluation, changes nothing. -/
theorem atomic_executeRegisters (operation : Alu.Operation) (destination first second : Int)
    (setFlags : Bool) : Atomic (executeRegisters operation destination first second setFlags) :=
  (readOnly_readRegister first).then_atomic fun a =>
    (readOnly_readRegister second).then_atomic fun b =>
      atomic_execute operation destination a b setFlags

/-- A load that fails, at its address or at its destination, changes nothing: the counter follows
both. -/
theorem atomic_load (destination : Int) (address : Word) : Atomic (load destination address) :=
  (readOnly_readMemory address).then_atomic fun value =>
    (atomic_writeBack destination value).then_total fun _ =>
      (total_count _).bind fun _ => (total_emit _).bind fun _ => total_pure _

/-- A store that fails, at its source or at its address, changes nothing: the counter follows both.
-/
theorem atomic_store (source : Int) (address : Word) : Atomic (store source address) :=
  (readOnly_readRegister source).then_atomic fun value =>
    (atomic_writeMemory address value).then_total fun _ =>
      (total_count _).bind fun _ => total_emit _

/-- A branch to a target that is not allowed changes nothing. -/
theorem atomic_branchTo (target : Word) : Atomic (branchTo target) :=
  (readOnly_require _).then_atomic fun _ => (total_update _).atomic

/-- A relative branch to a target that is not allowed changes nothing. -/
theorem atomic_branchRelative (offset : Word) : Atomic (branchRelative offset) :=
  readOnly_machine.then_atomic fun _ => atomic_branchTo _

/-- A conditional branch can fail only where it is taken, and then changes nothing. -/
theorem atomic_branchIf (condition : Condition) (offset : Word) :
    Atomic (branchIf condition offset) := by
  refine readOnly_machine.then_atomic fun machine => ?_
  dsimp only
  split
  · exact (atomic_branchRelative offset).then_total fun _ => total_pure _
  · exact (total_advance.bind fun _ => total_pure _).atomic

/-- An atomic action stays atomic when its value is wrapped. -/
theorem Atomic.wrap {action : Exec α} (atomic : Atomic action) (wrap : α → β) :
    Atomic (action >>= fun value => pure (wrap value)) :=
  atomic.then_total fun value => total_pure (wrap value)

end Exec

/-- A reset of a machine that can be booted does not fail. -/
theorem Exec.reset_succeeds {session : Session} (bootable : session.machine.config.Bootable) :
    ∃ after, reset.run session = .ok () after := by
  obtain ⟨booted, built⟩ := bootable
  rw [run_reset, built]
  exact ⟨_, rfl⟩

/-- Every operation but a reset is atomic in every session whatsoever. -/
theorem Operation.atomic_perform (operation : Operation) (other : operation ≠ .reset) :
    operation.perform.Atomic := by
  cases operation with
  | readRegister index => exact (Exec.readOnly_readRegister index).atomic.wrap _
  | writeBack index value => exact (Exec.atomic_writeBack index value).wrap _
  | execute operation destination a b setFlags =>
    exact (Exec.atomic_execute operation destination a b setFlags).wrap _
  | executeRegisters operation destination first second setFlags =>
    exact (Exec.atomic_executeRegisters operation destination first second setFlags).wrap _
  | load destination address => exact (Exec.atomic_load destination address).wrap _
  | store source address => exact (Exec.atomic_store source address).wrap _
  | branchTo target => exact (Exec.atomic_branchTo target).wrap _
  | branchRelative offset => exact (Exec.atomic_branchRelative offset).wrap _
  | branchIf condition offset => exact (Exec.atomic_branchIf condition offset).wrap _
  | advance => exact Exec.total_advance.atomic.wrap _
  | reset => exact absurd rfl other
  | pokeRegister index value => exact (Exec.atomic_pokeRegister index value).wrap _
  | clearRegisters => exact (Exec.total_update _).atomic.wrap _
  | registerSnapshot => exact Exec.readOnly_machine.atomic.wrap _
  | readMemory address => exact (Exec.readOnly_readMemory address).atomic.wrap _
  | writeMemory address value => exact (Exec.atomic_writeMemory address value).wrap _
  | clearMemory => exact (Exec.total_update _).atomic.wrap _
  | memorySnapshot => exact Exec.readOnly_machine.atomic.wrap _
  | assignFlags flags => exact (Exec.total_update _).atomic.wrap _
  | readConfig => exact Exec.readOnly_machine.atomic.wrap _
  | listRegisters => exact Exec.readOnly_machine.atomic.wrap _
  | listMemory => exact Exec.readOnly_machine.atomic.wrap _
  | reportStatistics => exact Exec.readOnly_machine.atomic.wrap _
  | save => exact Exec.total_save.atomic.wrap _
  | restore => exact Exec.total_restore.atomic.wrap _
  | fail fault => exact (Exec.readOnly_require (.error fault)).atomic

/-- An operation that fails on a reachable machine leaves the session as it found
it: every register slot, the stored words, the flags, the program counter, the
cycle, all counters, the configuration, the log and the copy set aside. -/
theorem failed_operation_changes_nothing (operation : Operation) {session after : Session}
    {fault : Fault} (reachable : session.machine.Reachable)
    (failed : operation.perform.run session = .error fault after) : after = session := by
  by_cases resets : operation = .reset
  · subst resets
    obtain ⟨restarted, succeeded⟩ := Exec.reset_succeeds reachable.bootable
    simp only [Operation.perform, EStateM.run_bind, succeeded, EStateM.run_pure] at failed
    cases failed
  · exact operation.atomic_perform resets session fault after failed

/-- A load into a register that does not exist, after a step that stored a word and
discarded a result: the word is found, and yet nothing is counted or logged. -/
theorem refused_load_changes_nothing :
    let program : Program :=
      .step (.call (.writeMemory 8 7) false (.call (.writeBack 31 5) false .done)) false .done
    let session := (program.run {}).session
    session.machine.memory.get 8 = 7 ∧
      ∃ after, (Operation.load 32 8).perform.run session =
        .error (.invalidRegister 32 .write) after ∧ after = session := by
  intro program session
  have failed : (Operation.load 32 8).perform.run session =
      .error (.invalidRegister 32 .write) session := rfl
  exact ⟨rfl, session, failed, failed_operation_changes_nothing (.load 32 8)
    ⟨session, Session.Reachable.default.run program, rfl⟩ failed⟩

end Datapath
