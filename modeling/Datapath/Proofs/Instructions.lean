import Datapath.Session

/-!
# What instructions do

The run of an instruction as one equation. Every way to fail stands in front of
what is counted, latched and logged; the equations show the order, and the
conditions for success are read off them.
-/

namespace Datapath

/-- The number of a register reads as what the register shows. -/
theorem RegisterFile.read_register (file : RegisterFile) (register : RegisterIndex) :
    file.read register.val = .ok (file.get register) := by
  have inside : 0 ≤ (register.val : Int) ∧ (register.val : Int) < 32 := by omega
  simp [read, slotOf, inside, Except.map]

/-- A write changes one slot, be it the hidden one, and no other. -/
theorem RegisterFile.get_slots_set (file : RegisterFile) (register other : RegisterIndex)
    (value : Word) :
    (file.set register value).slots.get other =
      if register = other then value else file.slots.get other := by
  simp only [Fin.ext_iff]
  exact Vector.getElem_set register.isLt other.isLt

namespace Exec

/-- The write path of results accepts exactly the numbers of registers, the zero
register included. -/
theorem writeBack_succeeds_iff (index : Int) (value : Word) (session : Session) :
    (∃ after, (writeBack index value).run session = .ok () after) ↔ 0 ≤ index ∧ index < 32 := by
  by_cases hidden : index = zeroRegister.val
  · subst hidden
    simp only [writeBack, if_true, EStateM.run_bind, run_count, run_emit, EStateM.Result.ok.injEq,
      true_and, exists_eq', true_iff]
    decide
  · by_cases inside : 0 ≤ index ∧ index < 32 <;>
      simp [writeBack, hidden, pokeRegister, RegisterFile.write, RegisterFile.slotOf, inside,
        Except.map]

/-- Reading a register never fails, and it is what the register shows. -/
theorem run_readRegister (register : RegisterIndex) (session : Session) :
    (readRegister register.val).run session =
      .ok (session.machine.registers.get register) session := by
  have read := session.machine.registers.read_register register
  simp [readRegister, read]

/-- To store a register under an address that is not negative is to write there what it shows. -/
theorem store_register (source : RegisterIndex) (session : Session) {address : Word}
    (nonnegative : 0 ≤ address.toInt) :
    ∃ after, (store source.val address).run session = .ok () after ∧
      session.machine.memory.write address (session.machine.registers.get source) =
        .ok after.machine.memory := by
  cases written : session.machine.memory.write address (session.machine.registers.get source) with
  | error fault =>
    obtain ⟨negative, -⟩ := Memory.write_eq_error_iff.1 written
    exact absurd nonnegative (Int.not_le.2 negative)
  | ok memory =>
    refine ⟨{ session with
      machine := { session.machine with memory }.count
        fun counters => { counters with stores := counters.stores + 1 }
      log := session.log.push (.store address (session.machine.registers.get source)) }, ?_, rfl⟩
    simp only [store, writeMemory, EStateM.run_bind, run_readRegister, run_machine, run_require,
      written, run_update, run_count, run_emit]

/-- An evaluation as its outcome, the write of the result, and what is counted
and latched once the result is written. -/
theorem run_execute (operation : Alu.Operation) (destination : Int) (a b : Word)
    (setFlags : Bool) (session : Session) :
    (execute operation destination a b setFlags).run session =
      match Alu.compute operation a b with
      | .error fault => .error fault session
      | .ok outcome =>
        if operation.signalsDecodeDefect then
          .ok outcome { session with
            machine := session.machine.count
              fun counters => { counters with aluOperations := counters.aluOperations + 1 }
            log := session.log.push
              (.unknownOperation session.machine.pc session.machine.cycle destination) }
        else
          match (writeBack destination outcome.result).run session with
          | .error fault after => .error fault after
          | .ok _ after =>
            let counted := after.machine.count
              fun counters => { counters with aluOperations := counters.aluOperations + 1 }
            if setFlags then
              .ok outcome { after with
                machine := { counted with flags := outcome.flags }.count
                  fun counters => { counters with flagSettings := counters.flagSettings + 1 } }
            else
              .ok outcome { after with machine := counted } := by
  simp only [execute, EStateM.run_bind, run_require]
  cases Alu.compute operation a b with
  | error fault => rfl
  | ok outcome =>
    cases operation.signalsDecodeDefect with
    | true => rfl
    | false =>
      simp only [Bool.false_eq_true, if_false, EStateM.run_bind]
      cases (writeBack destination outcome.result).run session with
      | error fault refused => rfl
      | ok value accepted => cases setFlags <;> rfl

/-- An evaluation succeeds when its operands have an outcome and there is a
register to take it. An operation that shows a decoding defect needs none. -/
theorem execute_succeeds_iff (operation : Alu.Operation) (destination : Int) (a b : Word)
    (setFlags : Bool) (session : Session) :
    (∃ outcome after,
      (execute operation destination a b setFlags).run session = .ok outcome after) ↔
      (∃ outcome, Alu.compute operation a b = .ok outcome) ∧
        (operation.signalsDecodeDefect = true ∨ 0 ≤ destination ∧ destination < 32) := by
  rw [run_execute]
  cases Alu.compute operation a b with
  | error fault => simp
  | ok outcome =>
    rw [← writeBack_succeeds_iff destination outcome.result session]
    cases operation.signalsDecodeDefect with
    | true => simp
    | false =>
      cases written : (writeBack destination outcome.result).run session with
      | error fault refused => simp [written]
      | ok value accepted => cases setFlags <;> simp [written]

/-- An evaluation that is asked to set the flags leaves those of its outcome,
unless the operation shows a decoding defect. -/
theorem flags_of_execute {operation : Alu.Operation} {destination : Int} {a b : Word}
    {session after : Session} {outcome : Alu.Outcome}
    (understood : operation.signalsDecodeDefect = false)
    (success : (execute operation destination a b true).run session = .ok outcome after) :
    Alu.compute operation a b = .ok outcome ∧ after.machine.flags = outcome.flags := by
  rw [run_execute, understood] at success
  cases computed : Alu.compute operation a b with
  | error fault => simp [computed] at success
  | ok result =>
    cases written : (writeBack destination result.result).run session with
    | error fault refused => simp [computed, written] at success
    | ok value accepted =>
      simp only [computed, written, if_true, Bool.false_eq_true, if_false,
        EStateM.Result.ok.injEq] at success
      obtain ⟨rfl, rfl⟩ := success
      exact ⟨rfl, rfl⟩

/-! ## The program counter -/

/-- A branch goes to its target if the target can be the address of an instruction. -/
theorem run_branchTo (target : Word) (session : Session) :
    (branchTo target).run session =
      match Machine.checkTarget target with
      | .ok pc => .ok () { session with machine := { session.machine with pc } }
      | .error fault => .error fault session := by
  simp only [branchTo, EStateM.run_bind, run_require]
  cases Machine.checkTarget target <;> rfl

/-- A relative branch is one to where its offset leads. -/
theorem run_branchRelative_eq_branchTo (offset : Word) (session : Session) :
    (branchRelative offset).run session =
      (branchTo (session.machine.pc + offset * Machine.stride)).run session := by
  rw [branchRelative, EStateM.run_bind, run_machine]

/-! ## The machine as a whole -/

/-- A machine that was cleared boots like a new one of its configuration: the
program counter that clearing leaves in place is overwritten. -/
theorem boot_cleared (machine : Machine) :
    machine.cleared.boot = Machine.ofConfig machine.config := by
  unfold Machine.ofConfig Machine.boot
  rfl

/-- A reset ends with the machine that its configuration builds. If there is none, the
machine is left cleared. -/
theorem run_reset (session : Session) :
    reset.run session =
      match Machine.ofConfig session.machine.config with
      | .ok booted =>
        .ok () { session with
          machine := booted
          log := session.log.push (.machineReset booted.pc) }
      | .error fault => .error fault { session with machine := session.machine.cleared } := by
  simp only [reset, EStateM.run_bind, run_update, run_machine, run_require, boot_cleared]
  cases Machine.ofConfig session.machine.config <;> rfl

/-- A restore brings back the copy set aside, if there is one. -/
theorem run_restore (session : Session) :
    restore.run session =
      match session.saved with
      | some copy => .ok true { session with machine := copy }
      | none => .ok false session := by
  obtain ⟨machine, log, saved⟩ := session
  cases saved <;> rfl

end Exec
end Datapath
