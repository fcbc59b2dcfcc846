import Datapath.Proofs.Runs

/-!
# Reachable machines

Clients get a machine with the default configuration or one built from a
configuration of their own. From then on they may perform operations, begin and
end steps, overwrite the parts that a machine leaves open, and put any other
reachable machine in its place, in any order. `Session.Reachable` is the closure
under all of these. Steps are begun and ended one by one, so the sessions in the
middle of a step are reachable too, whatever becomes of the step.

Every operation is put together from few kinds of changes. An invariant of
sessions is therefore proved once for each kind, by induction on the composition,
and not once for each operation. The induction is made for all invariants that
speak of the program counter and the configuration alone. The one stated here is
that on which reset depends: the configuration of a reachable machine can always
be booted.
-/

namespace Datapath

/-! ## What clients can bring about -/

/-- The sessions that clients can bring about. -/
inductive Session.Reachable : Session → Prop where
  /-- A new machine of the default configuration, which is not booted. -/
  | default : Reachable {}
  /-- A new machine of a configuration that can be booted. -/
  | built {config : Config} {machine : Machine} (booted : Machine.ofConfig config = .ok machine) :
      Reachable { machine }
  /-- An operation was performed, well or badly. -/
  | performed {session : Session} (operation : Operation) (before : Reachable session) :
      Reachable (operation.perform.final session)
  /-- A step was begun. -/
  | began {session : Session} (before : Reachable session) : Reachable session.beginStep
  /-- A step was ended, well or badly. -/
  | ended {session : Session} (context : StepContext) (failed : Bool)
      (before : Reachable session) : Reachable (session.endStep context failed)
  /-- The parts that a machine leaves open were overwritten. -/
  | assigned {session : Session} (registers : RegisterFile) (memory : Memory) (flags : Flags)
      (statistics : Statistics) (before : Reachable session) :
      Reachable { session with
        machine := { session.machine with registers, memory, flags, statistics } }
  /-- The machine was replaced by another one. -/
  | replaced {session other : Session} (before : Reachable session)
      (elsewhere : Reachable other) : Reachable { session with machine := other.machine }

/-- A machine is reachable if some reachable session has it. -/
def Machine.Reachable (machine : Machine) : Prop :=
  ∃ session : Session, session.Reachable ∧ session.machine = machine

/-! ## What operations are made of -/

/-- The actions that are put together from the changes that operations make. -/
inductive Exec.Composed : {α : Type} → Exec α → Prop where
  | value {α : Type} (value : α) : Composed (pure value)
  | require {α : Type} (result : Except Fault α) : Composed (require result)
  | machine : Composed machine
  | setRegisters (registers : RegisterFile) :
      Composed (update fun machine => { machine with registers })
  | setMemory (memory : Memory) : Composed (update fun machine => { machine with memory })
  | setFlags (flags : Flags) : Composed (update fun machine => { machine with flags })
  | count (change : Statistics → Statistics) : Composed (count change)
  | emit (event : Event) : Composed (emit event)
  | advance : Composed advance
  | branchTo (target : Word) : Composed (branchTo target)
  | reset : Composed reset
  | save : Composed save
  | restore : Composed restore
  | bind {α β : Type} {first : Exec α} {next : α → Exec β} (left : Composed first)
      (right : ∀ value, Composed (next value)) : Composed (first >>= next)

namespace Exec

/-- Reading a register is composed of a look and a requirement. -/
theorem composed_readRegister (index : Int) : Composed (readRegister index) :=
  .bind .machine fun _ => .require _

/-- A raw write to a register is composed of a look, a requirement and the change. -/
theorem composed_pokeRegister (index : Int) (value : Word) :
    Composed (pokeRegister index value) :=
  .bind .machine fun _ => .bind (.require _) fun registers => .setRegisters registers

/-- Reading memory is composed of a look and a requirement. -/
theorem composed_readMemory (address : Word) : Composed (readMemory address) :=
  .bind .machine fun _ => .require _

/-- Writing memory is composed of a look, a requirement and the change. -/
theorem composed_writeMemory (address value : Word) : Composed (writeMemory address value) :=
  .bind .machine fun _ => .bind (.require _) fun memory => .setMemory memory

/-- Writing a result back is composed of a count or a raw write, and an entry in the log. -/
theorem composed_writeBack (index : Int) (value : Word) : Composed (writeBack index value) := by
  unfold writeBack
  split
  · exact .bind (.count _) fun _ => .emit _
  · exact .bind (composed_pokeRegister index value) fun _ => .emit _

/-- An evaluation is composed of its requirement and, as far as it gets, of writing back, setting
flags, counting and logging. -/
theorem composed_execute (operation : Alu.Operation) (destination : Int) (a b : Word)
    (setFlags : Bool) : Composed (execute operation destination a b setFlags) := by
  refine .bind (.require _) fun outcome => ?_
  dsimp only
  split
  · exact .bind .machine fun _ => .bind (.emit _) fun _ => .bind (.count _) fun _ => .value _
  · refine .bind (composed_writeBack destination outcome.result) fun _ => ?_
    refine .bind (.count _) fun _ => ?_
    split
    · exact .bind (.setFlags _) fun _ => .bind (.count _) fun _ => .value _
    · exact .value _

/-- A load is composed of reading memory, writing back, counting and logging. -/
theorem composed_load (destination : Int) (address : Word) :
    Composed (load destination address) :=
  .bind (composed_readMemory address) fun value =>
    .bind (composed_writeBack destination value) fun _ =>
      .bind (.count _) fun _ => .bind (.emit _) fun _ => .value _

/-- A store is composed of reading a register, writing memory, counting and logging. -/
theorem composed_store (source : Int) (address : Word) : Composed (store source address) :=
  .bind (composed_readRegister source) fun value =>
    .bind (composed_writeMemory address value) fun _ => .bind (.count _) fun _ => .emit _

/-- A relative branch is composed of a look and a branch. -/
theorem composed_branchRelative (offset : Word) : Composed (branchRelative offset) :=
  .bind .machine fun _ => .branchTo _

end Exec

/-- Every operation is put together from the changes that operations make. -/
theorem Operation.composed (operation : Operation) : operation.perform.Composed := by
  cases operation with
  | readRegister index => exact .bind (Exec.composed_readRegister index) fun _ => .value _
  | writeBack index value => exact .bind (Exec.composed_writeBack index value) fun _ => .value _
  | execute operation destination a b setFlags =>
    exact .bind (Exec.composed_execute operation destination a b setFlags) fun _ => .value _
  | executeRegisters operation destination first second setFlags =>
    refine .bind (.bind (Exec.composed_readRegister first) fun a => ?_) fun _ => .value _
    exact .bind (Exec.composed_readRegister second) fun b =>
      Exec.composed_execute operation destination a b setFlags
  | load destination address =>
    exact .bind (Exec.composed_load destination address) fun _ => .value _
  | store source address => exact .bind (Exec.composed_store source address) fun _ => .value _
  | branchTo target => exact .bind (.branchTo target) fun _ => .value _
  | branchRelative offset =>
    exact .bind (Exec.composed_branchRelative offset) fun _ => .value _
  | branchIf condition offset =>
    refine .bind (.bind .machine fun machine => ?_) fun _ => .value _
    dsimp only
    split
    · exact .bind (Exec.composed_branchRelative offset) fun _ => .value _
    · exact .bind .advance fun _ => .value _
  | advance => exact .bind .advance fun _ => .value _
  | reset => exact .bind .reset fun _ => .value _
  | pokeRegister index value =>
    exact .bind (Exec.composed_pokeRegister index value) fun _ => .value _
  | clearRegisters => exact .bind (.setRegisters _) fun _ => .value _
  | registerSnapshot => exact .bind .machine fun _ => .value _
  | readMemory address => exact .bind (Exec.composed_readMemory address) fun _ => .value _
  | writeMemory address value =>
    exact .bind (Exec.composed_writeMemory address value) fun _ => .value _
  | clearMemory => exact .bind (.setMemory _) fun _ => .value _
  | memorySnapshot => exact .bind .machine fun _ => .value _
  | assignFlags flags => exact .bind (.setFlags flags) fun _ => .value _
  | readConfig => exact .bind .machine fun _ => .value _
  | listRegisters => exact .bind .machine fun _ => .value _
  | listMemory => exact .bind .machine fun _ => .value _
  | reportStatistics => exact .bind .machine fun _ => .value _
  | save => exact .bind .save fun _ => .value _
  | restore => exact .bind .restore fun _ => .value _
  | fail fault => exact .require (.error fault)

/-! ## Invariants of reachable machines -/

/-- A configuration from which a machine can be built. -/
def Config.Bootable (config : Config) : Prop := ∃ machine, Machine.ofConfig config = .ok machine

/-- A new machine starts at the configured address, which passed the check, and keeps the
configuration. -/
theorem Machine.start_of_ofConfig {config : Config} {machine : Machine}
    (built : ofConfig config = .ok machine) :
    checkTarget config.general.startPc = .ok machine.pc ∧ machine.config = config := by
  unfold ofConfig boot at built
  cases checked : checkTarget config.general.startPc with
  | error fault => simp [checked, Except.map] at built
  | ok pc =>
    simp only [checked, Except.map, Except.ok.injEq] at built
    rw [← built]
    exact ⟨rfl, rfl⟩

/-- A machine keeps the configuration it is built from. -/
theorem Machine.config_of_ofConfig {config : Config} {machine : Machine}
    (built : ofConfig config = .ok machine) : machine.config = config :=
  (start_of_ofConfig built).2

/-- The machine of the session and the copy set aside are both of one kind. -/
structure Session.Throughout (kind : Machine → Prop) (session : Session) : Prop where
  machine : kind session.machine
  saved : ∀ copy, session.saved = some copy → kind copy

section Invariants

variable {kind : Machine → Prop}
  (restarts : ∀ machine booted : Machine, kind machine →
    Machine.ofConfig machine.config = .ok booted → kind booted)
  (stays : ∀ machine other : Machine, other.pc = machine.pc → other.config = machine.config →
    kind machine → kind other)
  (advances : ∀ machine : Machine, kind machine →
    kind { machine with pc := machine.pc + Machine.stride })
  (jumps : ∀ (machine : Machine) target pc, Machine.checkTarget target = .ok pc →
    kind machine → kind { machine with pc })

section Operations

include restarts stays advances jumps

/-- Only the program counter and the configuration of a machine decide its kind, and a boot, the
next instruction and accepted branch targets keep it. Then no change leaves it: a restore brings
back the copy set aside, which is of that kind too.

Proof: by induction over the composition. A reset that is refused has cleared the machine, but for
its program counter and its configuration. -/
theorem Exec.Composed.throughout {α : Type} {action : Exec α} (composed : Composed action)
    {session : Session} (before : session.Throughout kind) :
    (action.final session).Throughout kind := by
  have unmoved (other : Machine) (samePc : other.pc = session.machine.pc)
      (sameConfig : other.config = session.machine.config) : kind other :=
    stays session.machine other samePc sameConfig before.machine
  induction composed generalizing session with
  | value value => exact before
  | require result => cases result <;> exact before
  | machine => exact before
  | setRegisters registers => exact ⟨unmoved _ rfl rfl, before.saved⟩
  | setMemory memory => exact ⟨unmoved _ rfl rfl, before.saved⟩
  | setFlags flags => exact ⟨unmoved _ rfl rfl, before.saved⟩
  | count change => exact ⟨unmoved _ rfl rfl, before.saved⟩
  | emit event => exact ⟨before.machine, before.saved⟩
  | advance => exact ⟨advances _ before.machine, before.saved⟩
  | branchTo target =>
    simp only [final, run_branchTo]
    cases checked : Machine.checkTarget target with
    | ok pc => exact ⟨jumps _ target pc checked before.machine, before.saved⟩
    | error fault => exact before
  | reset =>
    simp only [final, run_reset]
    cases built : Machine.ofConfig session.machine.config with
    | ok booted => exact ⟨restarts _ booted before.machine built, before.saved⟩
    | error fault => exact ⟨unmoved _ rfl rfl, before.saved⟩
  | save => exact ⟨before.machine, fun copy same => Option.some.inj same ▸ before.machine⟩
  | restore =>
    obtain ⟨machine, log, saved⟩ := session
    simp only [final, run_restore]
    cases saved with
    | none => exact before
    | some copy => exact ⟨before.saved copy rfl, before.saved⟩
  | bind left right leftKeeps rightKeeps =>
    rename_i first next
    have between : (first.final session).Throughout kind := leftKeeps before unmoved
    rw [final_bind]
    cases ran : first.run session with
    | ok value after =>
      rw [final_of_ok ran] at between
      exact rightKeeps value between fun other samePc sameConfig =>
        stays after.machine other samePc sameConfig between.machine
    | error fault after =>
      rw [final_of_error ran] at between
      exact between

end Operations

section Steps

include stays

/-- The beginning of a step changes neither program counter nor configuration, so the machine stays
of the kind. -/
theorem Session.Throughout.beginStep {session : Session} (before : session.Throughout kind) :
    session.beginStep.Throughout kind :=
  ⟨stays session.machine _ rfl rfl before.machine, before.saved⟩

/-- The end of a step changes neither program counter nor configuration, so the machine stays of the
kind. -/
theorem Session.Throughout.endStep {session : Session} (context : StepContext) (failed : Bool)
    (before : session.Throughout kind) : (session.endStep context failed).Throughout kind := by
  cases failed <;> exact ⟨stays session.machine _ rfl rfl before.machine, before.saved⟩

end Steps

include restarts stays advances jumps in
/-- A run does not leave a kind of machines at any moment, if no change of the machine does. -/
theorem Program.moments_throughout (program : Program) {session : Session}
    (before : session.Throughout kind) :
    ∀ moment ∈ program.moments session, moment.Throughout kind :=
  program.moments_keep
    (fun operation _ => operation.composed.throughout restarts stays advances jumps)
    (fun _ => .beginStep stays) (fun _ context failed => .endStep stays context failed) before

variable (fresh : ∀ config machine, Machine.ofConfig config = .ok machine → kind machine)

include stays advances jumps fresh in
/-- If new machines are of a kind that no change of the machine leaves, all reachable machines are,
and so are the copies set aside. -/
theorem Session.Reachable.throughout {session : Session} (reachable : session.Reachable) :
    session.Throughout kind := by
  induction reachable with
  | default => exact ⟨fresh {} {} rfl, nofun⟩
  | @built config machine booted => exact ⟨fresh config machine booted, nofun⟩
  | performed operation before among =>
    exact operation.composed.throughout (fun _ booted _ => fresh _ booted) stays advances jumps
      among
  | began before among => exact among.beginStep stays
  | ended context failed before among => exact among.endStep stays context failed
  | @assigned session registers memory flags statistics before among =>
    exact ⟨stays session.machine _ rfl rfl among.machine, among.saved⟩
  | replaced before elsewhere among other => exact ⟨other.machine, among.saved⟩

end Invariants

/-- The machine of the session and the copy set aside can be booted. -/
structure Session.Bootable (session : Session) : Prop where
  machine : session.machine.config.Bootable
  saved : ∀ copy, session.saved = some copy → copy.config.Bootable

/-- Every reachable session can be booted, and so can the copy it set aside. -/
theorem Session.Reachable.bootable {session : Session} (reachable : session.Reachable) :
    session.Bootable := by
  have among : session.Throughout fun machine => machine.config.Bootable := by
    refine reachable.throughout ?stays ?advances ?jumps ?fresh
    case fresh =>
      intro config machine built
      rw [Machine.config_of_ofConfig built]
      exact ⟨machine, built⟩
    case stays =>
      intro machine other _ sameConfig bootable
      rw [sameConfig]
      exact bootable
    case advances => exact fun machine bootable => bootable
    case jumps => exact fun machine target pc _ bootable => bootable
  exact ⟨among.machine, among.saved⟩

/-- The configuration of a reachable machine can be booted. -/
theorem Machine.Reachable.bootable {machine : Machine} (reachable : machine.Reachable) :
    machine.config.Bootable := by
  obtain ⟨session, reached, rfl⟩ := reachable
  exact reached.bootable.machine

/-! ## Programs stay among the reachable sessions -/

/-- A program that is run in a reachable session ends in one. -/
theorem Session.Reachable.run {session : Session} (reachable : session.Reachable)
    (program : Program) : (program.run session).session.Reachable :=
  program.run_keeps (fun operation _ before => .performed operation before)
    (fun _ before => .began before) (fun _ context failed before => .ended context failed before)
    reachable

end Datapath
