import Datapath.Proofs.History

/-!
# Registers hold the last writes

A register shows what the latest happening that touched it left there: the word of
a write, zero after the registers were cleared, its configured value after a reset.
Five operations write a register, and each of them only the one that it names, the
zero register excepted. Where none wrote it the register shows what it had in the
new machine.
-/

namespace Datapath

/-- What a register shows in a new machine. Only the stack pointer can be configured. -/
def Config.initialValue (config : Config) (register : RegisterIndex) : Word :=
  if register = stackPointer then config.registers.initialSp.getD 0 else 0

/-- A new machine shows the configured values. -/
theorem Config.get_registersAtBoot (config : Config) (register : RegisterIndex) :
    config.registersAtBoot.get register = config.initialValue register := by
  rw [registersAtBoot, initialValue]
  cases config.registers.initialSp with
  | none => simp [RegisterFile.get_cleared]
  | some value =>
    rw [RegisterFile.get_set, RegisterFile.get_cleared]
    by_cases same : stackPointer = register
    · subst same
      rfl
    · simp [same, Ne.symm same]

namespace Happening

/-- The word that a happening wrote to a register. An evaluation whose operation was not
understood writes nothing. -/
def writes (register : RegisterIndex) : Happening → Option Word
  | performed (.writeBack index value) (.ok _) | performed (.pokeRegister index value) (.ok _)
  | performed (.load index _) (.ok (.word value)) =>
    if index = register.val then some value else none
  | performed (.execute operation destination _ _ _) (.ok (.outcome outcome))
  | performed (.executeRegisters operation destination _ _ _) (.ok (.outcome outcome)) =>
    if destination = register.val ∧ operation.signalsDecodeDefect = false then
      some outcome.result
    else none
  | _ => none

/-- The word that a happening left in a register, if it touched the register at all. -/
def leaves (config : Config) (register : RegisterIndex) : Happening → Option Word
  | performed .reset (.ok _) => some (config.initialValue register)
  | performed .clearRegisters (.ok _) => some 0
  | happening => happening.writes register

end Happening

/-- The word that the latest happening to touch a register left there, or else the one
that the register had at the beginning. -/
def lastLeft (config : Config) (register : RegisterIndex) (past : List Happening) : Word :=
  (past.findSomeRev? (Happening.leaves config register)).getD (config.initialValue register)

/-- A further happening that leaves a word in the register decides what was left there last, and any
other changes nothing about it. -/
theorem lastLeft_concat (config : Config) (register : RegisterIndex) (past : List Happening)
    (happening : Happening) :
    lastLeft config register (past ++ [happening]) =
      (happening.leaves config register).getD (lastLeft config register past) := by
  cases touched : happening.leaves config register <;>
    simp [lastLeft, List.findSomeRev?_eq_findSome?_reverse, touched]

/-! ## What one effect leaves in a register -/

/-- A write is shown by its own register and by no other one. -/
theorem RegisterFile.get_set_of_visible (file : RegisterFile) (register other : RegisterIndex)
    (value : Word) (visible : other ≠ zeroRegister) :
    (file.set register value).get other =
      if register = other then value else file.get other := by
  simp [get_set, visible]

/-- The write path of results changes the register that it is given, but for the zero register. -/
theorem Machine.get_accept (machine : Machine) (register other : RegisterIndex) (value : Word)
    (visible : other ≠ zeroRegister) :
    (machine.accept register value).registers.get other =
      if register = other then value else machine.registers.get other := by
  unfold accept
  split
  case isTrue hidden =>
    rw [if_neg (by rintro rfl; exact visible hidden)]
    rfl
  case isFalse shown => exact machine.registers.get_set_of_visible register other value visible

/-- A word that was written for one register is what another one shows if they are the same. -/
theorem getD_written (target register : RegisterIndex) (value before : Word) :
    (if (target.val : Int) = register.val then some value else none).getD before =
      if target = register then value else before := by
  simp only [RegisterFile.number_inj]
  split <;> rfl

/-- Looking touches no register. -/
theorem Happening.leaves_of_observes {operation : Operation}
    (observes : operation.observes = true) (config : Config) (register : RegisterIndex)
    (result : Except Fault Value) :
    (performed operation result).leaves config register = none := by
  cases operation, observes using Operation.observes_cases <;> rfl

/-- A register shows what an effect left there, or what it showed before. -/
theorem Operation.Effect.get_registers {machine after : Machine} {operation : Operation}
    {value : Value} (effect : Effect machine operation value after)
    (stays : (Happening.performed operation (.ok value)).replaces = false)
    {register : RegisterIndex} (visible : register ≠ zeroRegister) :
    after.registers.get register =
      ((Happening.performed operation (.ok value)).leaves machine.config register).getD
        (machine.registers.get register) := by
  induction effect with
  | observed observes =>
    rw [Happening.leaves_of_observes observes]
    rfl
  | wroteBack target value =>
    rw [Machine.get_accept _ _ _ _ visible]
    exact (getD_written ..).symm
  | dropped computed defect =>
    simp [Happening.leaves, Happening.writes, defect, Machine.count]
  | executed target setFlags computed understood =>
    rw [Machine.registers_conclude, Machine.get_accept _ _ _ _ visible, ← getD_written]
    simp [Happening.leaves, Happening.writes, understood]
  | loaded target found =>
    refine (Machine.get_accept machine target register _ visible).trans ?_
    exact (getD_written ..).symm
  | poked target value =>
    rw [RegisterFile.get_set_of_visible _ _ _ _ visible]
    exact (getD_written ..).symm
  | fetched first second executed same => exact same stays
  | replaced copy => cases stays
  | restarted built =>
    rw [Machine.eq_of_ofConfig built]
    exact Config.get_registersAtBoot machine.config register
  | clearedRegisters => exact RegisterFile.get_cleared register
  | _ => rfl

/-! ## Registers along a run -/

/-- Every visible register shows what was left there last, if all this happened to the machine. -/
def Machine.ShowsLast (config : Config) (past : List Happening) (machine : Machine) : Prop :=
  ∀ register, register ≠ zeroRegister →
    machine.registers.get register = lastLeft config register past

/-- A failed operation leaves nothing in any register. -/
theorem Happening.leaves_of_error (operation : Operation) (fault : Fault) (config : Config)
    (register : RegisterIndex) :
    (performed operation (.error fault)).leaves config register = none := by
  cases operation <;> rfl

/-- A happening that touches no register keeps what was left last in each of them shown. -/
theorem Machine.ShowsLast.concat {config : Config} {past : List Happening}
    {machine after : Machine} {happening : Happening} (shows : machine.ShowsLast config past)
    (same : after.registers = machine.registers)
    (untouched : ∀ register, happening.leaves config register = none) :
    after.ShowsLast config (past ++ [happening]) := by
  intro register visible
  rw [lastLeft_concat, untouched, same]
  exact shows register visible

/-- Build a machine and run any program on it. At every point of the run, each register
but the zero register reads as the word of the last successful write to it, or as the
value that the last reset or clearing gave it if that came later, or as its value in the
new machine. A snapshot has what reading shows for all registers, and zero for the zero
register. This holds as long as the machine was not replaced by a copy. -/
theorem registers_show_last_writes {config : Config} {session : Session}
    (built : Machine.ofConfig config = .ok session.machine) (program : Program) :
    ∀ point ∈ program.points session, OneMachine point.past →
      (∀ register : RegisterIndex, register ≠ zeroRegister →
        (Exec.readRegister register.val).run point.session =
          .ok (lastLeft config register point.past) point.session) ∧
      (∀ register : RegisterIndex, (Exec.readRegister register.val).run point.session =
        .ok (point.session.machine.registers.snapshot.get register) point.session) ∧
      point.session.machine.registers.snapshot.get zeroRegister = 0 := by
  have shows : ∀ point ∈ program.points session, OneMachine point.past →
      point.session.machine.ShowsLast config point.past := by
    refine program.points_follow ?fresh ?succeeds ?fails ?begins ?ends built
    case fresh =>
      intro machine new register visible
      rw [Machine.eq_of_ofConfig new]
      exact config.get_registersAtBoot register
    case succeeds =>
      intro past machine operation value after shown same effect stays register visible
      rw [effect.get_registers stays visible, lastLeft_concat, same, shown register visible]
    case fails =>
      intro past machine operation fault shown
      exact shown.concat rfl (Happening.leaves_of_error operation fault config)
    case begins => exact fun past session shown => shown.concat rfl fun _ => rfl
    case ends =>
      intro past session context fault shown
      cases fault <;> exact shown.concat rfl fun _ => rfl
  intro point member unreplaced
  refine ⟨?_, ?_, ?_⟩
  · intro register visible
    rw [Exec.run_readRegister, shows point member unreplaced register visible]
  · intro register
    rw [Exec.run_readRegister, ← RegisterFile.getElem_snapshot]
    rfl
  · exact point.session.machine.registers.getElem_snapshot zeroRegister

/-- The stack pointer is configured. A step writes two registers and then fails, its
failure is ignored, and an operation that is not understood is evaluated for the first
of them. That one still shows its write, the other one has been loaded over, and the
stack pointer is as configured until the registers are cleared. -/
theorem kept_writes_are_shown :
    let config : Config := { registers := { initialSp := some 4096 } }
    let start : Session := { machine := { registers := config.registersAtBoot, config } }
    let program : Program :=
      .step (.call (.writeBack 3 7) false (.call (.pokeRegister 4 9) false
        (.call (.load 31 (-8)) false .done))) true
        (.call (.execute .unknown 3 1 2 false) false (.call (.load 4 16) false
          (.call .clearRegisters false .done)))
    ∃ before ∈ program.points start, ∃ after ∈ program.points start,
      (Exec.readRegister 3).run before.session = .ok 7 before.session ∧
      (Exec.readRegister 4).run before.session = .ok 0 before.session ∧
      (Exec.readRegister 28).run before.session = .ok 4096 before.session ∧
      (Exec.readRegister 28).run after.session = .ok 0 after.session := by
  intro config start program
  have built : Machine.ofConfig config = .ok start.machine := rfl
  let before := (program.points start).get ⟨7, by decide +kernel⟩
  let after := (program.points start).get ⟨8, by decide +kernel⟩
  have memberBefore : before ∈ program.points start := List.get_mem ..
  have memberAfter : after ∈ program.points start := List.get_mem ..
  obtain ⟨shownBefore, -⟩ :=
    registers_show_last_writes built program before memberBefore (by decide +kernel)
  obtain ⟨shownAfter, -⟩ :=
    registers_show_last_writes built program after memberAfter (by decide +kernel)
  have kept : lastLeft config 3 before.past = 7 := by decide +kernel
  have loaded : lastLeft config 4 before.past = 0 := by decide +kernel
  have configured : lastLeft config 28 before.past = 4096 := by decide +kernel
  have cleared : lastLeft config 28 after.past = 0 := by decide +kernel
  refine ⟨before, memberBefore, after, memberAfter, ?_, ?_, ?_, ?_⟩
  · exact kept ▸ shownBefore 3 (by decide)
  · exact loaded ▸ shownBefore 4 (by decide)
  · exact configured ▸ shownBefore 28 (by decide)
  · exact cleared ▸ shownAfter 28 (by decide)

end Datapath
