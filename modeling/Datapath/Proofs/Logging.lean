import Datapath.Proofs.Effects

/-!
# What operations log

Few operations log anything. `Operation.Logs` says of each what it adds to the log when it
succeeds, in order: the write path of results logs one event, which a load follows up with
one of its own, and an operation that is not understood is reported in place of the write.
All other operations are silent. They are put together from changes of the machine alone,
and what is silent in its parts is silent as a whole.
-/

namespace Datapath

/-- What the write path of results logs. -/
def Event.written (index : Int) (value : Word) : Event :=
  if index = zeroRegister.val then .writeDiscarded value else .writeBack index value

namespace Operation

/-- Whether the operation never logs anything. -/
def silent : Operation → Bool
  | writeBack _ _ | execute _ _ _ _ _ | executeRegisters _ _ _ _ _ | load _ _ | store _ _
  | reset => false
  | _ => true

/-- What a successful operation with a given answer logs. -/
inductive Logs (machine : Machine) : Operation → Value → List Event → Prop where
  | nothing {operation : Operation} {value : Value} (silent : operation.silent = true) :
      Logs machine operation value []
  | wroteBack (index : Int) (value : Word) :
      Logs machine (.writeBack index value) .done [.written index value]
  | dropped {operation : Alu.Operation} (destination : Int) {a b : Word} {setFlags : Bool}
      {outcome : Alu.Outcome} (defect : operation.signalsDecodeDefect = true) :
      Logs machine (.execute operation destination a b setFlags) (.outcome outcome)
        [.unknownOperation machine.pc machine.cycle destination]
  | executed {operation : Alu.Operation} (destination : Int) {a b : Word} {setFlags : Bool}
      {outcome : Alu.Outcome} (understood : operation.signalsDecodeDefect = false) :
      Logs machine (.execute operation destination a b setFlags) (.outcome outcome)
        [.written destination outcome.result]
  | fetched {operation : Alu.Operation} {destination : Int} {a b : Word} {setFlags : Bool}
      {outcome : Alu.Outcome} {events : List Event} (first second : Int)
      (executed : Logs machine (.execute operation destination a b setFlags)
        (.outcome outcome) events) :
      Logs machine (.executeRegisters operation destination first second setFlags)
        (.outcome outcome) events
  | loaded (destination : Int) (address value : Word) :
      Logs machine (.load destination address) (.word value)
        [.written destination value, .load address value]
  | stored (source : Int) (address value : Word) :
      Logs machine (.store source address) .done [.store address value]
  | restarted (pc : Word) : Logs machine .reset .done [.machineReset pc]

end Operation

namespace Exec

variable {α β : Type} {session after : Session}

/-! ## Silence -/

/-- The action logs nothing, whether it succeeds or fails. -/
def Quiet (action : Exec α) : Prop := ∀ session, (action.final session).log = session.log

/-- What is silent in both parts is silent. -/
theorem Quiet.bind {first : Exec α} {next : α → Exec β} (quiet : Quiet first)
    (further : ∀ value, Quiet (next value)) : Quiet (first >>= next) := by
  intro session
  have same := quiet session
  rw [final_bind]
  cases ran : first.run session with
  | ok value between =>
    rw [final_of_ok ran] at same
    exact (further value between).trans same
  | error fault stopped =>
    rw [final_of_error ran] at same
    exact same

/-- An action that only looks is silent. -/
theorem ReadOnly.quiet {action : Exec α} (looks : ReadOnly action) : Quiet action := by
  intro session
  rw [looks session]

/-- A silent action leaves the log as it was. -/
theorem Quiet.log_of_ok {action : Exec α} {value : α} (quiet : Quiet action)
    (succeeded : action.run session = .ok value after) : after.log = session.log := by
  rw [← final_of_ok succeeded]
  exact quiet session

/-- An action that only answers is silent. -/
theorem quiet_pure (value : α) : Quiet (pure value) := fun _ => rfl

/-- A change of the machine is silent. -/
theorem quiet_update (change : Machine → Machine) : Quiet (update change) := fun _ => rfl

/-- To save the machine is silent. -/
theorem quiet_save : Quiet save := fun _ => rfl

/-- To restore the saved machine is silent, whether or not one was saved. -/
theorem quiet_restore : Quiet restore := by
  intro session
  rw [final, run_restore]
  cases session.saved <;> rfl

/-- A raw write to a register is silent. -/
theorem quiet_pokeRegister (index : Int) (value : Word) : Quiet (pokeRegister index value) :=
  readOnly_machine.quiet.bind fun _ =>
    (readOnly_require _).quiet.bind fun _ => quiet_update _

/-- A raw write to memory is silent. -/
theorem quiet_writeMemory (address value : Word) : Quiet (writeMemory address value) :=
  readOnly_machine.quiet.bind fun _ =>
    (readOnly_require _).quiet.bind fun _ => quiet_update _

/-- A branch is silent, whether or not it is allowed. -/
theorem quiet_branchTo (target : Word) : Quiet (branchTo target) :=
  (readOnly_require _).quiet.bind fun _ => quiet_update _

/-- A relative branch is silent, whether or not it is allowed. -/
theorem quiet_branchRelative (offset : Word) : Quiet (branchRelative offset) :=
  readOnly_machine.quiet.bind fun _ => quiet_branchTo _

/-- A conditional branch is silent, whether or not it is taken. -/
theorem quiet_branchIf (condition : Condition) (offset : Word) :
    Quiet (branchIf condition offset) := by
  refine readOnly_machine.quiet.bind fun machine => ?_
  dsimp only
  split
  · exact (quiet_branchRelative offset).bind fun _ => quiet_pure _
  · exact (quiet_update _).bind fun _ => quiet_pure _

/-! ## Events -/

/-- The write path of results logs where the result went. -/
theorem log_of_writeBack {index : Int} {value : Word}
    (succeeded : (writeBack index value).run session = .ok () after) :
    after.log = session.log.push (.written index value) := by
  unfold writeBack at succeeded
  by_cases hidden : index = zeroRegister.val
  · rw [if_pos hidden] at succeeded
    cases succeeded
    rw [Event.written, if_pos hidden]
  · rw [if_neg hidden] at succeeded
    obtain ⟨_, between, poked, emitted⟩ := bind_eq_ok_iff.1 succeeded
    obtain ⟨_, _, rfl⟩ := ok_of_pokeRegister poked
    cases emitted
    rw [Event.written, if_neg hidden]

end Exec

namespace Operation

variable {session after : Session}

/-- A silent operation logs nothing, even if it fails. -/
theorem quiet_perform (operation : Operation) (silent : operation.silent = true) :
    operation.perform.Quiet := by
  cases operation with
  | readRegister index =>
    exact (Exec.readOnly_readRegister index).quiet.bind fun _ => Exec.quiet_pure _
  | branchTo target => exact (Exec.quiet_branchTo target).bind fun _ => Exec.quiet_pure _
  | branchRelative offset =>
    exact (Exec.quiet_branchRelative offset).bind fun _ => Exec.quiet_pure _
  | branchIf condition offset =>
    exact (Exec.quiet_branchIf condition offset).bind fun _ => Exec.quiet_pure _
  | pokeRegister index value =>
    exact (Exec.quiet_pokeRegister index value).bind fun _ => Exec.quiet_pure _
  | readMemory address =>
    exact (Exec.readOnly_readMemory address).quiet.bind fun _ => Exec.quiet_pure _
  | writeMemory address value =>
    exact (Exec.quiet_writeMemory address value).bind fun _ => Exec.quiet_pure _
  | advance | clearRegisters | clearMemory | assignFlags flags =>
    exact (Exec.quiet_update _).bind fun _ => Exec.quiet_pure _
  | registerSnapshot | memorySnapshot | readConfig | listRegisters | listMemory
  | reportStatistics => exact Exec.readOnly_machine.quiet.bind fun _ => Exec.quiet_pure _
  | save => exact Exec.quiet_save.bind fun _ => Exec.quiet_pure _
  | restore => exact Exec.quiet_restore.bind fun _ => Exec.quiet_pure _
  | fail fault => exact (Exec.readOnly_require (.error fault)).quiet
  | writeBack | execute | executeRegisters | load | store | reset => cases silent

/-- An evaluation logs the write of its result, or that it was not understood. -/
theorem logs_of_execute {operation : Alu.Operation} {destination : Int} {a b : Word}
    {setFlags : Bool} {outcome : Alu.Outcome}
    (succeeded : (Exec.execute operation destination a b setFlags).run session =
      .ok outcome after) :
    ∃ events, after.log.toList = session.log.toList ++ events ∧
      Logs session.machine (.execute operation destination a b setFlags) (.outcome outcome)
        events := by
  obtain ⟨_, ⟨defect, rfl⟩ | ⟨understood, between, written, rfl⟩⟩ := Exec.ok_of_execute succeeded
  · exact ⟨_, Array.toList_push, .dropped destination defect⟩
  · refine ⟨_, ?_, .executed destination understood⟩
    rw [Exec.log_of_writeBack written, Array.toList_push]

/-- A successful operation logged what operations of its kind log.

Proof: by cases of the operation. A load logs the write to its register before itself. -/
theorem logs_of_ok (operation : Operation) {value : Value}
    (succeeded : operation.perform.run session = .ok value after) :
    ∃ events, after.log.toList = session.log.toList ++ events ∧
      Logs session.machine operation value events := by
  cases silence : operation.silent with
  | true =>
    have same := (operation.quiet_perform silence).log_of_ok succeeded
    exact ⟨[], by rw [same, List.append_nil], .nothing silence⟩
  | false =>
    cases operation with
    | writeBack index value =>
      obtain ⟨_, written, rfl⟩ := Exec.ok_of_answered succeeded
      refine ⟨_, ?_, .wroteBack index value⟩
      rw [Exec.log_of_writeBack written, Array.toList_push]
    | execute operation destination a b setFlags =>
      obtain ⟨outcome, executed, rfl⟩ := Exec.ok_of_answered succeeded
      exact logs_of_execute executed
    | executeRegisters operation destination first second setFlags =>
      obtain ⟨outcome, ran, rfl⟩ := Exec.ok_of_answered succeeded
      obtain ⟨_, _, _, _, executed⟩ := Exec.ok_of_executeRegisters ran
      obtain ⟨events, added, logged⟩ := logs_of_execute executed
      exact ⟨events, added, .fetched first second logged⟩
    | load destination address =>
      obtain ⟨value, ran, rfl⟩ := Exec.ok_of_answered succeeded
      obtain ⟨_, between, written, rfl⟩ := Exec.ok_of_load ran
      refine ⟨_, ?_, .loaded destination address value⟩
      rw [Array.toList_push, Exec.log_of_writeBack written, Array.toList_push, List.append_assoc]
      rfl
    | store source address =>
      obtain ⟨_, ran, rfl⟩ := Exec.ok_of_answered succeeded
      obtain ⟨_, _, _, _, rfl⟩ := Exec.ok_of_store ran
      exact ⟨_, Array.toList_push, .stored source address _⟩
    | reset =>
      obtain ⟨_, ran, rfl⟩ := Exec.ok_of_answered succeeded
      obtain ⟨fresh, _, rfl⟩ := Exec.ok_of_reset ran
      exact ⟨_, Array.toList_push, .restarted fresh.pc⟩
    | _ => cases silence

end Operation
end Datapath
