import Datapath.Proofs.Congruence
import Datapath.Proofs.Effects

/-!
# Diagnostic settings do not affect execution

A configuration also says what is logged of retired steps and what a memory listing shows.
Every machine carries these settings with it, a reset builds the machine anew from them,
and the end of each step looks at one of them. Still they make no difference but the two
that they are for: two machines whose configurations agree in the start address and in the
stack pointer go through the same states, answer the same and fail with the same faults,
memory listings apart, and they log the same events, those of retired steps apart.
-/

namespace Datapath

/-! ## Equal but for diagnostics -/

/-- The configurations agree in everything that execution depends on. -/
structure Config.ExecutesLike (left right : Config) : Prop where
  startPc : left.general.startPc = right.general.startPc
  initialSp : left.registers.initialSp = right.registers.initialSp

/-- Two machines are equal, but perhaps for the diagnostic settings that they carry. -/
inductive Machine.EqualButDiagnostics : Machine → Machine → Prop where
  | of (machine : Machine) {left right : Config} (same : left.ExecutesLike right) :
      EqualButDiagnostics { machine with config := left } { machine with config := right }

/-- The event tells that a step was retired. -/
def Event.tellsRetirement : Event → Bool
  | stepRetired _ _ _ => true
  | _ => false

/-- The log without the events of retired steps. -/
def Session.essentials (session : Session) : List Event :=
  session.log.toList.filter fun event => !event.tellsRetirement

/-- Two sessions are equal, but perhaps for the diagnostic settings in their machines and in
the copies they set aside, and for the events of retired steps. -/
structure Session.EqualButDiagnostics (left right : Session) : Prop where
  machine : left.machine.EqualButDiagnostics right.machine
  essentials : left.essentials = right.essentials
  saved : Option.Rel Machine.EqualButDiagnostics left.saved right.saved

/-- The event of a retired step is inessential. -/
theorem Session.essentials_push (machine : Machine) (log : Array Event) (saved : Option Machine)
    (event : Event) :
    (⟨machine, log.push event, saved⟩ : Session).essentials =
      (⟨machine, log, saved⟩ : Session).essentials ++
        if event.tellsRetirement then [] else [event] := by
  cases tells : event.tellsRetirement <;> simp [essentials, tells]

/-- The end of a step adds nothing essential to the log, whether it is traced or not. -/
theorem Session.essentials_endStep (session : Session) (context : StepContext) (failed : Bool) :
    (session.endStep context failed).essentials = session.essentials := by
  cases failed with
  | true => rfl
  | false =>
    simp only [endStep, Bool.false_eq_true, if_false]
    split
    · exact (essentials_push ..).trans (List.append_nil _)
    · rfl

/-- Either both configurations are refused for the same reason, or the two new machines are
equal but for diagnostics. -/
theorem Config.ExecutesLike.ofConfig_cases {left right : Config} (same : left.ExecutesLike right) :
    (∃ fault, Machine.ofConfig left = .error fault ∧ Machine.ofConfig right = .error fault) ∨
      ∃ leftMachine rightMachine, Machine.ofConfig left = .ok leftMachine ∧
        Machine.ofConfig right = .ok rightMachine ∧
          leftMachine.EqualButDiagnostics rightMachine := by
  unfold Machine.ofConfig Machine.boot
  dsimp only
  rw [same.startPc, same.initialSp]
  cases Machine.checkTarget right.general.startPc with
  | error fault => exact .inl ⟨fault, rfl, rfl⟩
  | ok pc =>
    exact .inr ⟨_, _, rfl, rfl, .of { pc, registers := right.registersAtBoot } same⟩

/-! ## Operations and steps -/

namespace Exec

/-- A change agrees if it has nothing to do with the configuration. -/
theorem agrees_update_elsewhere {change : Machine → Machine}
    (elsewhere : ∀ machine config,
      change { machine with config } = { change machine with config }) :
    (update change).Agrees Session.EqualButDiagnostics := by
  rintro ⟨_, leftLog, _⟩ ⟨_, rightLog, _⟩ ⟨@⟨machine, left, right, same⟩, essentials, saved⟩
  rw [run_update, run_update]
  refine .ok () ⟨?_, essentials, saved⟩
  dsimp only
  rw [elsewhere machine left, elsewhere machine right]
  exact .of (change machine) same

/-- Two logs that are alike but for retirements stay so when the same event joins both. -/
theorem agrees_emit (event : Event) : (emit event).Agrees Session.EqualButDiagnostics := by
  rintro left right ⟨machines, essentials, saved⟩
  refine .ok () ⟨machines, ?_, saved⟩
  exact (Session.essentials_push ..).trans
    ((congrArg (· ++ _) essentials).trans (Session.essentials_push ..).symm)

/-- A reset agrees: it puts both machines back into the state that their configurations have in
common. -/
theorem agrees_reset : reset.Agrees Session.EqualButDiagnostics := by
  rintro ⟨_, leftLog, leftSaved⟩ ⟨_, rightLog, rightSaved⟩
    ⟨@⟨machine, left, right, same⟩, essentials, saved⟩
  rw [run_reset, run_reset]
  dsimp only
  obtain ⟨fault, leftRefused, rightRefused⟩ | ⟨leftMachine, rightMachine, leftBuilt, rightBuilt,
    machines⟩ := same.ofConfig_cases
  · rw [leftRefused, rightRefused]
    exact .error fault ⟨.of machine.cleared same, essentials, saved⟩
  · rw [leftBuilt, rightBuilt]
    have samePc : leftMachine.pc = rightMachine.pc := by
      cases machines
      rfl
    refine .ok () ⟨machines, ?_, saved⟩
    rw [Session.essentials_push, Session.essentials_push, samePc]
    exact congrArg (· ++ _) essentials

/-- To restore the saved machine agrees in sessions that are equal but for their diagnostics. -/
theorem agrees_restore : restore.Agrees Session.EqualButDiagnostics := by
  rintro ⟨left, leftLog, leftSaved⟩ ⟨right, rightLog, rightSaved⟩ ⟨machines, essentials, saved⟩
  rw [run_restore, run_restore]
  dsimp only at saved
  cases saved with
  | none => exact .ok false ⟨machines, essentials, .none⟩
  | some copies => exact .ok true ⟨copies, essentials, .some copies⟩

end Exec

/-- Sessions that are equal but for diagnostics look the same, and all changes keep them so. -/
theorem Session.EqualButDiagnostics.congruence : Congruence EqualButDiagnostics where
  looks := by
    rintro ⟨_, leftLog, leftSaved⟩ ⟨_, rightLog, rightSaved⟩ ⟨⟨machine, same⟩, essentials, saved⟩
    exact ⟨rfl, rfl, rfl, rfl, rfl, rfl⟩
  setRegister register value := Exec.agrees_update_elsewhere fun _ _ => rfl
  clearRegisters := Exec.agrees_update_elsewhere fun _ _ => rfl
  setMemory memory := Exec.agrees_update_elsewhere fun _ _ => rfl
  setFlags flags := Exec.agrees_update_elsewhere fun _ _ => rfl
  setPc pc := Exec.agrees_update_elsewhere fun _ _ => rfl
  count change := Exec.agrees_update_elsewhere fun _ _ => rfl
  emit event := Exec.agrees_emit event
  reset := Exec.agrees_reset
  save := by
    rintro left right ⟨machines, essentials, saved⟩
    exact .ok () ⟨machines, essentials, .some machines⟩
  restore := Exec.agrees_restore

/-- The answer of an operation, but nothing of an answer that tells settings. -/
def Operation.withoutSettings (operation : Operation) (value : Value) : Value :=
  if operation.tellsSettings then .done else value

/-- An operation answers the same under all diagnostic settings, as far as it does not tell them.

Proof: the two operations that tell settings only look, and nothing is left of what they see. All
others agree by congruence. -/
theorem Operation.agrees_withoutSettings (operation : Operation) :
    Exec.Agrees Session.EqualButDiagnostics
      (operation.withoutSettings <$> operation.perform) := by
  rw [map_eq_pure_bind]
  cases discreet : operation.tellsSettings with
  | false =>
    exact (Session.EqualButDiagnostics.congruence.perform operation discreet).bind fun _ =>
      Exec.agrees_pure _
  | true =>
    have silent : Exec.Agrees Session.EqualButDiagnostics (do
        let _ ← Exec.machine
        return Value.done) := Exec.agrees_show (fun _ => Value.done) fun _ _ _ => rfl
    cases operation with
    | readConfig | listMemory => exact silent
    | _ => cases discreet

namespace Session.EqualButDiagnostics

variable {left right : Session} (before : left.EqualButDiagnostics right)

include before

/-- A step begins in the same context in sessions that are equal but for diagnostics, and they stay
so. -/
theorem begin : left.nextStep = right.nextStep ∧
    left.beginStep.EqualButDiagnostics right.beginStep := by
  obtain ⟨_, leftLog, leftSaved⟩ := left
  obtain ⟨_, rightLog, rightSaved⟩ := right
  obtain ⟨⟨machine, same⟩, essentials, saved⟩ := before
  refine ⟨rfl, ⟨?_, essentials, saved⟩⟩
  exact .of ({ machine with cycle := machine.cycle + 1 }.count
    fun counters => { counters with cycles := counters.cycles + 1 }) same

/-- Sessions that are equal but for diagnostics stay so at the end of a step. It may be logged in
one of them only, but then as an event that makes no difference. -/
theorem endStep (context : StepContext) (failed : Bool) :
    (left.endStep context failed).EqualButDiagnostics (right.endStep context failed) := by
  obtain ⟨_, leftLog, leftSaved⟩ := left
  obtain ⟨_, rightLog, rightSaved⟩ := right
  obtain ⟨⟨machine, same⟩, essentials, saved⟩ := before
  cases failed with
  | true =>
    refine ⟨?_, essentials, saved⟩
    exact .of (machine.count fun counters => { counters with faults := counters.faults + 1 }) same
  | false =>
    refine ⟨?_, ?_, saved⟩
    · exact .of (machine.count
        fun counters => { counters with stepsRetired := counters.stepsRetired + 1 }) same
    · rw [essentials_endStep, essentials_endStep]
      exact essentials

end Session.EqualButDiagnostics

/-- Two configurations that agree in the start address and in the stack pointer are refused
for the same reason, or they build machines that no program can tell apart, with steps
nested to any depth, resets and failures: all answers and faults are the same, if memory
listings and the configuration itself are not asked for, and at every moment the machines
are equal but for the diagnostic settings that they carry, and so are the logs without the
events of retired steps. -/
theorem diagnostics_do_not_affect_execution {left right : Config}
    (sameStart : left.general.startPc = right.general.startPc)
    (sameStack : left.registers.initialSp = right.registers.initialSp) :
    (∃ fault, Machine.ofConfig left = .error fault ∧ Machine.ofConfig right = .error fault) ∨
      ∃ leftMachine rightMachine, Machine.ofConfig left = .ok leftMachine ∧
        Machine.ofConfig right = .ok rightMachine ∧
        leftMachine.EqualButDiagnostics rightMachine ∧
        ∀ program : Program, program.RunsAlikeSeen Operation.withoutSettings
          Session.EqualButDiagnostics { machine := leftMachine } { machine := rightMachine } := by
  have same : left.ExecutesLike right := ⟨sameStart, sameStack⟩
  obtain refused | ⟨leftMachine, rightMachine, leftBuilt, rightBuilt, machines⟩ :=
    same.ofConfig_cases
  · exact .inl refused
  · refine .inr ⟨leftMachine, rightMachine, leftBuilt, rightBuilt, machines, fun program => ?_⟩
    have start : Session.EqualButDiagnostics { machine := leftMachine }
        { machine := rightMachine } := ⟨machines, rfl, .none⟩
    exact program.runsAlikeSeen Operation.agrees_withoutSettings (fun _ _ before => before.begin)
      (fun _ _ context failed before => before.endStep context failed) start

/-- One machine is traced and lists every stored word, the other lists few and is not traced.
An inner step stores a zero off the grid of words, the machine is set aside, and the outer
step is reset before it fails; then the copy is brought back. The logs and the listings
differ, and nothing else does. -/
theorem traced_machine_differs_only_in_traces :
    let left : Config :=
      { general := { traceSteps := true, startPc := 8 }
        registers := { initialSp := some 4096 }
        listing := { nonzeroOnly := false, alignedOnly := false } }
    let right : Config :=
      { general := { startPc := 8 }, registers := { initialSp := some 4096 } }
    let program : Program :=
      .step (.step (.call (.store 31 12) false .done) false (.call .save false
        (.call .reset false (.call (.load 1 (-8)) false .done)))) true
        (.call .restore false (.call .listMemory false (.call (.readRegister 28) false .done)))
    let start (config : Config) : Machine :=
      { registers := RegisterFile.cleared.set stackPointer 4096, pc := 8, config }
    let leftRun := program.run { machine := start left }
    let rightRun := program.run { machine := start right }
    Machine.ofConfig left = .ok (start left) ∧ Machine.ofConfig right = .ok (start right) ∧
      leftRun.transcript.seen Operation.withoutSettings =
        rightRun.transcript.seen Operation.withoutSettings ∧
      leftRun.session.EqualButDiagnostics rightRun.session ∧
      leftRun.session.log.size = 3 ∧ rightRun.session.log.size = 2 ∧
      leftRun.session.machine.memoryEntries = [(12, 0)] ∧
      rightRun.session.machine.memoryEntries = [] := by
  intro left right program start leftRun rightRun
  have built (config : Config) (startPc : config.general.startPc = 8)
      (initialSp : config.registers.initialSp = some 4096) :
      Machine.ofConfig config = .ok (start config) := by
    unfold Machine.ofConfig Machine.boot
    dsimp only
    rw [startPc, initialSp]
    rfl
  have leftBuilt : Machine.ofConfig left = .ok (start left) := built left rfl rfl
  have rightBuilt : Machine.ofConfig right = .ok (start right) := built right rfl rfl
  have sameStart : left.general.startPc = right.general.startPc := rfl
  obtain ⟨_, refused, _⟩ | ⟨_, _, leftStarts, rightStarts, _, alike⟩ :=
    diagnostics_do_not_affect_execution sameStart rfl
  · rw [leftBuilt] at refused
    cases refused
  · obtain rfl := Except.ok.inj (leftBuilt.symm.trans leftStarts)
    obtain rfl := Except.ok.inj (rightBuilt.symm.trans rightStarts)
    obtain ⟨transcript, _, _, session⟩ := alike program
    refine ⟨leftBuilt, rightBuilt, transcript, session, ?_⟩
    decide +kernel

end Datapath
