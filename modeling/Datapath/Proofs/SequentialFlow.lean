import Datapath.Proofs.History
import Datapath.Proofs.RelativeBranches

/-!
# Sequential flow

The program counter lands at a checked address when a machine is built or reset and when
a branch is taken. From there it flows on by one instruction at a time, and this is not
checked: the address that follows the last one in range is out of range, and after the
last address of all comes the first one. So where the program counter is follows from
the landing and from the number of advances since, and it can fail the check of branches
only by having flowed past the end of the range.
-/

namespace Datapath

namespace Happening

/-- The program counter was set to a checked address. -/
def lands : Happening → Bool
  | performed (.branchTo _) (.ok _) | performed (.branchRelative _) (.ok _)
  | performed (.branchIf _ _) (.ok (.truth true)) | performed .reset (.ok _) => true
  | _ => false

/-- The program counter went on to the next instruction. -/
def advances : Happening → Bool
  | performed .advance (.ok _) | performed (.branchIf _ _) (.ok (.truth false)) => true
  | _ => false

/-- Looking moves nothing. -/
theorem still_of_observes {operation : Operation} (observes : operation.observes = true)
    (result : Except Fault Value) :
    (performed operation result).lands = false ∧
      (performed operation result).advances = false := by
  cases operation, observes using Operation.observes_cases <;> exact ⟨rfl, rfl⟩

/-- A failed operation moves nothing. -/
theorem still_of_error (operation : Operation) (fault : Fault) :
    (performed operation (.error fault)).lands = false ∧
      (performed operation (.error fault)).advances = false := by
  cases operation <;> exact ⟨rfl, rfl⟩

end Happening

/-- What happened after the program counter landed for the last time. -/
def sinceLanding (past : List Happening) : List Happening :=
  past.rtakeWhile fun happening => !happening.lands

/-- A further happening ends the part of the past since the last landing if it lands, and otherwise
belongs to it. -/
theorem sinceLanding_concat (past : List Happening) (happening : Happening) :
    sinceLanding (past ++ [happening]) =
      if happening.lands then [] else sinceLanding past ++ [happening] :=
  Happening.since_concat ..

/-! ## What one effect does to the program counter -/

/-- Taking a word for a register leaves the program counter as it is. -/
@[simp] theorem Machine.pc_accept (machine : Machine) (register : RegisterIndex) (value : Word) :
    (machine.accept register value).pc = machine.pc := by
  unfold accept
  split <;> rfl

/-- Concluding an evaluation leaves the program counter as it is. -/
@[simp] theorem Machine.pc_conclude (machine : Machine) (outcome : Alu.Outcome)
    (setFlags : Bool) : (machine.conclude outcome setFlags).pc = machine.pc := by
  cases setFlags <;> rfl

/-- The program counter lands at an accepted target, goes on to the next instruction, or
stays where it is. -/
theorem Operation.Effect.pc_cases {machine after : Machine} {operation : Operation}
    {value : Value} (effect : Effect machine operation value after)
    (stays : (Happening.performed operation (.ok value)).replaces = false) :
    let happening := Happening.performed operation (.ok value)
    happening.lands = true ∧ Machine.checkTarget after.pc = .ok after.pc ∨
      happening.lands = false ∧
        after.pc = if happening.advances then machine.pc + Machine.stride else machine.pc := by
  have accepted {target pc : Word} (checked : Machine.checkTarget target = .ok pc) :
      Machine.checkTarget pc = .ok pc := by
    obtain ⟨rfl, _⟩ := Machine.checkTarget_eq_ok_iff.1 checked
    exact checked
  induction effect with
  | observed observes =>
    obtain ⟨notLanding, notAdvancing⟩ := Happening.still_of_observes observes _
    exact .inr ⟨notLanding, by rw [notAdvancing]; rfl⟩
  | wroteBack register value => exact .inr ⟨rfl, Machine.pc_accept ..⟩
  | executed register setFlags computed understood =>
    exact .inr ⟨rfl, (Machine.pc_conclude ..).trans (Machine.pc_accept ..)⟩
  | loaded register found => exact .inr ⟨rfl, Machine.pc_accept ..⟩
  | fetched first second executed same => exact same stays
  | branched checked => exact .inl ⟨rfl, accepted checked⟩
  | branchedRelative checked => exact .inl ⟨rfl, accepted checked⟩
  | taken holds checked => exact .inl ⟨rfl, accepted checked⟩
  | restarted built => exact .inl ⟨rfl, Machine.checkTarget_pc_of_ofConfig built⟩
  | replaced copy => cases stays
  | _ => exact .inr ⟨rfl, rfl⟩

/-! ## The landing that a point flows from -/

/-- At `point` the program counter has flowed on from where it landed at `origin`. -/
structure Point.FlowsFrom (point origin : Point) : Prop where
  /-- The landing at `origin` is the last one. -/
  past : origin.past ++ sinceLanding point.past = point.past
  /-- It was a landing at an accepted target. -/
  checked : Machine.checkTarget origin.session.machine.pc = .ok origin.session.machine.pc
  /-- Every advance since then led to the next instruction. -/
  pc : point.session.machine.pc.toNat =
    (origin.session.machine.pc.toNat +
      4 * (sinceLanding point.past).countP Happening.advances) % 2 ^ 64

/-- Where the program counter has just landed, nothing has flowed yet. -/
theorem Point.FlowsFrom.refl {point : Point} (landed : sinceLanding point.past = [])
    (checked : Machine.checkTarget point.session.machine.pc = .ok point.session.machine.pc) :
    point.FlowsFrom point := by
  refine ⟨by rw [landed, List.append_nil], checked, ?_⟩
  have bound := point.session.machine.pc.isLt
  rw [landed, List.countP_nil]
  omega

/-- A happening that is no landing lets the program counter flow on or leaves it alone. -/
theorem Point.FlowsFrom.concat {past : List Happening} {session after : Session}
    {origin : Point} {happening : Happening} (flows : FlowsFrom ⟨past, session⟩ origin)
    (airborne : happening.lands = false)
    (moves : after.machine.pc =
      if happening.advances then session.machine.pc + Machine.stride else session.machine.pc) :
    FlowsFrom ⟨past ++ [happening], after⟩ origin := by
  obtain ⟨early, checked, pc⟩ := flows
  have late : sinceLanding (past ++ [happening]) = sinceLanding past ++ [happening] := by
    rw [sinceLanding_concat, airborne, if_neg Bool.false_ne_true]
  refine ⟨?_, checked, ?_⟩
  · rw [late, ← List.append_assoc, early]
  · rw [late, List.countP_append, List.countP_singleton, moves]
    dsimp only at pc ⊢
    cases happening.advances with
    | true =>
      rw [if_pos rfl, if_pos rfl, Machine.toNat_next, pc]
      omega
    | false =>
      rw [if_neg Bool.false_ne_true, if_neg Bool.false_ne_true, pc]
      rfl

/-- Build a machine and run any program on it. At every point of the run, the program
counter is four times the number of advances ahead of where it landed last, modulo 2 ^ 64,
and what it landed at is an accepted target. So it is a multiple of four, and it is out of
range only if the advances since the landing led past the end of the range. A branch by
zero instructions tells whether it is, and changes nothing. This holds as long as the
machine was not replaced by a copy. -/
theorem program_counter_flows_from_landing {config : Config} {session : Session}
    (built : Machine.ofConfig config = .ok session.machine) (program : Program) :
    ∀ point ∈ program.points session, OneMachine point.past →
      (∃ origin ∈ program.points session, point.FlowsFrom origin) ∧
      point.session.machine.pc.toNat % 4 = 0 ∧
      (Exec.branchRelative 0).run point.session =
        if point.session.machine.pc.toNat < 2 ^ 63 then .ok () point.session
        else .error (.invalidProgramCounter point.session.machine.pc) point.session := by
  have flows : ∀ point ∈ program.points session, OneMachine point.past →
      ∃ origin ∈ program.points session, point.FlowsFrom origin := by
    refine program.points_move built ?start ?keeps
    case start =>
      exact ⟨_, program.start_mem_points session,
        .refl rfl (Machine.checkTarget_pc_of_ofConfig built)⟩
    case keeps =>
      intro before _ after member move _ flowed
      obtain ⟨origin, among, flowed⟩ := flowed
      cases move with
      | @succeeded past session after operation value ran stays =>
        obtain ⟨landing, checked⟩ | ⟨airborne, moves⟩ :=
          (Operation.effect_of_ok _ ran).pc_cases stays
        · refine ⟨_, member, .refl ?_ checked⟩
          rw [sinceLanding_concat, if_pos landing]
        · exact ⟨origin, among, flowed.concat airborne moves⟩
      | @failed past session operation fault ran =>
        obtain ⟨airborne, still⟩ := Happening.still_of_error operation fault
        exact ⟨origin, among, flowed.concat airborne (by rw [still]; rfl)⟩
      | began past session => exact ⟨origin, among, flowed.concat rfl rfl⟩
      | ended past session context fault =>
        exact ⟨origin, among, flowed.concat rfl (by cases fault <;> rfl)⟩
  intro point member unreplaced
  obtain ⟨origin, among, flowed⟩ := flows point member unreplaced
  have aligned : point.session.machine.Aligned := by
    obtain ⟨_, _, aligned⟩ := Machine.checkTarget_eq_ok_iff.1 flowed.checked
    have pc := flowed.pc
    unfold Machine.Aligned
    omega
  refine ⟨⟨origin, among, flowed⟩, aligned, ?_⟩
  have stands : point.session.machine.pc + 0 * Machine.stride = point.session.machine.pc := by
    simp
  rw [Exec.run_branchRelative aligned, stands]

/-- The last address in range passes the check, but the instruction after it does not:
the program counter is then too high for a branch by zero instructions. -/
theorem advancing_leaves_range :
    let config : Config := { general := { startPc := 0x7FFFFFFFFFFFFFFC } }
    ∃ fresh, Machine.ofConfig config = .ok fresh ∧
      let session := ((Program.call .advance false .done).run { machine := fresh }).session
      ¬ (session.machine.pc.toNat % 4 = 0 ∧ session.machine.pc.toNat ≤ 2 ^ 63 - 1) ∧
        ¬ ∃ after, (Exec.branchRelative 0).run session = .ok () after := by
  intro config
  have checked : Machine.checkTarget 0x7FFFFFFFFFFFFFFC = .ok 0x7FFFFFFFFFFFFFFC := by decide
  have built : Machine.ofConfig config = .ok { pc := 0x7FFFFFFFFFFFFFFC, config } := by
    simp only [Machine.ofConfig, Machine.boot, config, checked]
    rfl
  refine ⟨_, built, ?_, ?_⟩
  · decide
  · rintro ⟨after, succeeded⟩
    cases succeeded

/-- A step advances from the last address in range and then branches back by two
instructions. In between, the program counter is out of range and a branch by zero
instructions is refused; afterwards it has landed and such a branch succeeds. -/
theorem branch_back_lands_in_range :
    let config : Config := { general := { startPc := 0x7FFFFFFFFFFFFFFC } }
    let start : Session := { machine := { pc := 0x7FFFFFFFFFFFFFFC, config } }
    let program : Program :=
      .step (.call .advance false (.call (.branchRelative (-2)) false .done)) false .done
    Machine.ofConfig config = .ok start.machine ∧
    ∃ between ∈ program.points start, ∃ after ∈ program.points start,
      (Exec.branchRelative 0).run between.session =
        .error (.invalidProgramCounter (BitVec.ofNat 64 (2 ^ 63))) between.session ∧
      (Exec.branchRelative 0).run after.session = .ok () after.session := by
  intro config start program
  have checked : Machine.checkTarget 0x7FFFFFFFFFFFFFFC = .ok 0x7FFFFFFFFFFFFFFC := by decide
  have built : Machine.ofConfig config = .ok start.machine := by
    simp only [Machine.ofConfig, Machine.boot, config, checked]
    rfl
  let between := (program.points start).get ⟨2, by decide +kernel⟩
  let after := (program.points start).get ⟨3, by decide +kernel⟩
  have memberBetween : between ∈ program.points start := List.get_mem ..
  have memberAfter : after ∈ program.points start := List.get_mem ..
  obtain ⟨_, _, refused⟩ :=
    program_counter_flows_from_landing built program between memberBetween (by decide +kernel)
  obtain ⟨_, _, accepted⟩ :=
    program_counter_flows_from_landing built program after memberAfter (by decide +kernel)
  have high : between.session.machine.pc = BitVec.ofNat 64 (2 ^ 63) := by decide +kernel
  have low : after.session.machine.pc.toNat < 2 ^ 63 := by decide +kernel
  refine ⟨built, between, memberBetween, after, memberAfter, ?_, ?_⟩
  · rw [refused, high]
    rfl
  · rw [accepted, if_pos low]

end Datapath
