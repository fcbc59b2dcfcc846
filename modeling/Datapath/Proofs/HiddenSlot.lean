import Datapath.Proofs.Congruence

/-!
# The slot of the zero register is hidden

The slot of the zero register is really written, by raw writes, and it stays written.
No reading shows it: what is read from a register file is read through what its
registers show. Two machines that are equal but for this slot are therefore told apart
by no program, and go on being equal but for this slot.

An action is blind if it shows the same in two such sessions. All operations are, because
the looks and changes that they are made of are: to be equal but for this slot is a
congruence.
-/

namespace Datapath

/-! ## Equal but for the hidden slot -/

namespace RegisterFile

/-- Two register files have the same in all slots, but perhaps for that of the zero register. -/
def EqualButHidden (left right : RegisterFile) : Prop :=
  ∀ register, register ≠ zeroRegister → left.slots.get register = right.slots.get register

namespace EqualButHidden

variable {left right : RegisterFile} (same : left.EqualButHidden right)

include same

/-- The registers of files that are equal but for the hidden slot show the same. -/
theorem get_eq : left.get = right.get := by
  funext register
  by_cases hidden : register = zeroRegister
  · rw [get, get, if_pos hidden, if_pos hidden]
  · rw [get, get, if_neg hidden, if_neg hidden]
    exact same register hidden

/-- Files that are equal but for the hidden slot stay so when the same slot of both is written, be
it the hidden one. -/
theorem set (register : RegisterIndex) (value : Word) :
    (left.set register value).EqualButHidden (right.set register value) := by
  intro other visible
  rw [get_slots_set, get_slots_set, same other visible]

end EqualButHidden

/-- A write to the slot of the zero register changes nothing else. -/
theorem equalButHidden_set (file : RegisterFile) (value : Word) :
    file.EqualButHidden (file.set zeroRegister value) := by
  intro register visible
  rw [get_slots_set, if_neg (Ne.symm visible)]

end RegisterFile

/-- Two machines are equal, but perhaps for the slot of the zero register. -/
inductive Machine.EqualButHidden : Machine → Machine → Prop where
  | of (machine : Machine) {left right : RegisterFile} (registers : left.EqualButHidden right) :
      EqualButHidden { machine with registers := left } { machine with registers := right }

/-- A machine is equal to itself. -/
theorem Machine.EqualButHidden.refl (machine : Machine) : machine.EqualButHidden machine :=
  .of machine fun _ _ => rfl

/-- Machines that are equal but for the hidden slot stay so when their counters change alike. -/
theorem Machine.EqualButHidden.count {left right : Machine} (same : left.EqualButHidden right)
    (change : Statistics → Statistics) :
    (left.count change).EqualButHidden (right.count change) := by
  obtain ⟨machine, registers⟩ := same
  exact .of (machine.count change) registers

/-- Two sessions are equal, but perhaps for the slot of the zero register in their
machines and in the copies they set aside. -/
inductive Session.EqualButHidden : Session → Session → Prop where
  | of {left right : Machine} (log : Array Event) {leftSaved rightSaved : Option Machine}
      (machines : left.EqualButHidden right)
      (saved : Option.Rel Machine.EqualButHidden leftSaved rightSaved) :
      EqualButHidden ⟨left, log, leftSaved⟩ ⟨right, log, rightSaved⟩

/-- Sessions that are equal but for the hidden slot have the same log. -/
theorem Session.EqualButHidden.log_eq {left right : Session}
    (same : left.EqualButHidden right) : left.log = right.log := by
  cases same
  rfl

/-! ## Programs -/

/-- The action shows the same in sessions that are equal but for the hidden slot. -/
def Exec.Blind {α : Type} (action : Exec α) : Prop := Agrees Session.EqualButHidden action

namespace Exec

/-- A change is blind if it keeps machines equal but for the hidden slot. -/
theorem blind_update {change : Machine → Machine}
    (keeps : ∀ left right, left.EqualButHidden right →
      (change left).EqualButHidden (change right)) : Blind (update change) := by
  rintro _ _ ⟨log, machines, saved⟩
  exact .ok () (.of log (keeps _ _ machines) saved)

/-- A change is blind if it neither depends on the registers nor touches them. -/
theorem blind_update_elsewhere {change : Machine → Machine}
    (elsewhere : ∀ machine registers,
      change { machine with registers } = { change machine with registers }) :
    Blind (update change) := by
  refine blind_update ?_
  rintro _ _ @⟨machine, left, right, registers⟩
  rw [elsewhere machine left, elsewhere machine right]
  exact .of (change machine) registers

/-- A reset leaves the machine that the configuration builds, its hidden slot included.
Should there be none, both machines are left cleared. -/
theorem blind_reset : Blind reset := by
  rintro _ _ ⟨log, ⟨machine, registers⟩, saved⟩
  rw [run_reset, run_reset]
  dsimp only
  cases Machine.ofConfig machine.config with
  | ok booted => exact .ok () (.of _ (.refl booted) saved)
  | error fault => exact .error fault (.of log (.refl machine.cleared) saved)

/-- To restore the saved machine is blind to the hidden slot: the copies differ there at most. -/
theorem blind_restore : Blind restore := by
  rintro _ _ ⟨log, machines, saved⟩
  rw [run_restore, run_restore]
  cases saved with
  | none => exact .ok false (.of log machines .none)
  | some copies => exact .ok true (.of log copies (.some copies))

end Exec

/-- Sessions that are equal but for the hidden slot look the same, and all changes keep
them so. A write of a register goes to the same slot of both, be it the hidden one. -/
theorem Session.EqualButHidden.congruence : Congruence EqualButHidden where
  looks := by
    rintro _ _ ⟨log, ⟨machine, registers⟩, saved⟩
    exact ⟨registers.get_eq, rfl, rfl, rfl, rfl, rfl⟩
  setRegister register value := by
    refine Exec.blind_update ?_
    rintro _ _ ⟨machine, registers⟩
    exact .of machine (registers.set register value)
  clearRegisters := by
    refine Exec.blind_update ?_
    rintro _ _ ⟨machine, registers⟩
    exact .refl { machine with registers := RegisterFile.cleared }
  setMemory memory := Exec.blind_update_elsewhere fun _ _ => rfl
  setFlags flags := Exec.blind_update_elsewhere fun _ _ => rfl
  setPc pc := Exec.blind_update_elsewhere fun _ _ => rfl
  count change := Exec.blind_update_elsewhere fun _ _ => rfl
  emit event := by
    rintro _ _ ⟨log, machines, saved⟩
    exact .ok () (.of (log.push event) machines saved)
  reset := Exec.blind_reset
  save := by
    rintro _ _ ⟨log, machines, saved⟩
    exact .ok () (.of log machines (.some machines))
  restore := Exec.blind_restore

/-- Every operation is blind to the hidden slot. Those that tell settings look elsewhere. -/
theorem Operation.blind (operation : Operation) : operation.perform.Blind := by
  cases discreet : operation.tellsSettings with
  | false => exact Session.EqualButHidden.congruence.perform operation discreet
  | true =>
    cases operation with
    | readConfig =>
      refine Exec.agrees_show (fun found => Value.config found.config) ?_
      rintro _ _ ⟨log, ⟨machine, registers⟩, saved⟩
      rfl
    | listMemory =>
      refine Exec.agrees_show
        (fun found => Value.listing found.memoryEntries found.memoryListing) ?_
      rintro _ _ ⟨log, ⟨machine, registers⟩, saved⟩
      rfl
    | _ => cases discreet

/-- Sessions that are equal but for the hidden slot stay so at the beginning of a step. -/
theorem Session.EqualButHidden.beginStep {left right : Session}
    (before : left.EqualButHidden right) : left.beginStep.EqualButHidden right.beginStep := by
  obtain ⟨log, ⟨machine, registers⟩, saved⟩ := before
  have counted := Machine.EqualButHidden.of { machine with cycle := machine.cycle + 1 } registers
  exact .of log (counted.count _) saved

/-- Sessions that are equal but for the hidden slot stay so at the end of a step, which is logged in
both or in none. -/
theorem Session.EqualButHidden.endStep {left right : Session}
    (before : left.EqualButHidden right) (context : StepContext) (failed : Bool) :
    (left.endStep context failed).EqualButHidden (right.endStep context failed) := by
  obtain ⟨log, ⟨machine, registers⟩, saved⟩ := before
  have same := Machine.EqualButHidden.of machine registers
  cases failed with
  | true => exact .of log (same.count _) saved
  | false => exact .of _ (same.count _) saved

/-! ## The zero register -/

/-- The zero register reads as zero, whatever its slot holds. -/
theorem Exec.run_readRegister_zero (session : Session) :
    (readRegister zeroRegister.val).run session = .ok 0 session := rfl

/-- To store the zero register is to write a zero, whatever its slot holds. -/
theorem Exec.store_zeroRegister (session : Session) {address : Word}
    (nonnegative : 0 ≤ address.toInt) :
    ∃ after, (store zeroRegister.val address).run session = .ok () after ∧
      session.machine.memory.write address 0 = .ok after.machine.memory :=
  store_register zeroRegister session nonnegative

/-- Put two sessions that are equal but for the slot of the zero register through the
same program, with steps nested to any depth. All answers, faults, listings, snapshots
and events are the same in both, and at every moment the sessions are equal but for this
slot. In particular, the zero register reads as zero, a snapshot has a zero in its place,
and to store it is to write a zero, whatever was written to it before. -/
theorem hidden_slot_is_unobservable :
    (∀ left right : Session, left.EqualButHidden right →
      ∀ program : Program, program.RunsAlike Session.EqualButHidden left right) ∧
    ∀ session : Session,
      (Exec.readRegister zeroRegister.val).run session = .ok 0 session ∧
      session.machine.registers.snapshot.get zeroRegister = 0 ∧
      ∀ address : Word, 0 ≤ address.toInt →
        ∃ after, (Exec.store zeroRegister.val address).run session = .ok () after ∧
          session.machine.memory.write address 0 = .ok after.machine.memory := by
  refine ⟨?_, ?_⟩
  · intro left right before program
    refine program.runsAlike Operation.blind ?_ ?_ before
    · intro left right same
      refine ⟨?_, same.beginStep⟩
      obtain ⟨log, ⟨machine, registers⟩, saved⟩ := same
      rfl
    · exact fun left right context failed same => same.endStep context failed
  · intro session
    refine ⟨Exec.run_readRegister_zero session, ?_, ?_⟩
    · exact session.machine.registers.getElem_snapshot zeroRegister
    · exact fun address nonnegative => Exec.store_zeroRegister session nonnegative

/-- The slot of the zero register is written in one of two new machines and again by the
program, inside of a step that fails. The same zeros are listed, taken as operands and
stored from both, and the failure is the same. -/
theorem written_slot_is_unobservable :
    let left : Session := {}
    let right : Session :=
      { machine := { registers := RegisterFile.cleared.set zeroRegister 5 } }
    let program : Program :=
      .step (.call (.executeRegisters .add 1 31 31 true) false
        (.call (.store 31 8) false (.call .listRegisters false (.call (.pokeRegister 31 7) false
          (.call (.load 31 (-8)) false .done))))) true
        (.call .registerSnapshot false (.call .save false .done))
    left.machine.registers ≠ right.machine.registers ∧
      (program.run left).transcript = (program.run right).transcript ∧
      (program.run left).session.log = (program.run right).session.log ∧
      (program.run right).session.machine.memory.read 8 = .ok 0 := by
  intro left right program
  have before : left.EqualButHidden right :=
    .of #[] (.of {} (RegisterFile.cleared.equalButHidden_set 5)) .none
  obtain ⟨transcript, -, -, session⟩ := hidden_slot_is_unobservable.1 left right before program
  refine ⟨by decide, transcript, session.log_eq, ?_⟩
  rfl

end Datapath
