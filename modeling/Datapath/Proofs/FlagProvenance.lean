import Datapath.Proofs.Accounting
import Datapath.Proofs.Ownership

/-!
# Where the flags come from

A conditional branch may look at flags that were latched long before it. They are those
of the last evaluation since the last reset that was understood, succeeded and was asked
to set them; without such an evaluation they are clear. Nothing else moves them, neither a
failed operation nor the end of a failed step, which keeps what its body latched.

The flags of one outcome agree with one result, so a machine whose flags are latched and
never assigned does not claim that a result is both negative and zero.
-/

namespace Datapath

/-! ## The flags of an outcome -/

/-- The flags claim that a result is negative and that it is zero. -/
def Flags.Contradictory (flags : Flags) : Prop := flags.negative = true ∧ flags.zero = true

/-- No word is negative and zero, so flags that are read off a result agree. -/
theorem Alu.Outcome.consistent_withFlags (result : Word) (carry overflow : Bool) :
    ¬ (withFlags result carry overflow).flags.Contradictory := by
  rintro ⟨negative, zero⟩
  have below : result.toInt < 0 := of_decide_eq_true negative
  have none : result = 0 := of_decide_eq_true zero
  rw [none] at below
  exact absurd below (by decide)

/-- The all-clear outcome claims nothing at all. -/
theorem Alu.Outcome.consistent_allClear : ¬ allClear.flags.Contradictory := by
  rintro ⟨negative, _⟩
  cases negative

/-- The flags of an outcome agree, however it comes about. -/
theorem Alu.consistent_of_compute {operation : Operation} {a b : Word} {outcome : Outcome}
    (computed : compute operation a b = .ok outcome) : ¬ outcome.flags.Contradictory := by
  cases arises_of_compute computed with
  | additive carries result carry overflow => exact Outcome.consistent_withFlags _ _ _
  | plain owned result => exact Outcome.consistent_withFlags _ _ _
  | unowned absent => exact Outcome.consistent_allClear

/-! ## What one effect does to the flags -/

namespace Happening

/-- The flags were overwritten from outside. -/
def assigns : Happening → Bool
  | performed (.assignFlags _) _ => true
  | _ => false

/-- In a machine, an evaluation was asked to set the flags and came to this outcome. Its
operands were given with it or stood in registers of the machine. -/
inductive Latched (machine : Machine) (outcome : Alu.Outcome) : Happening → Prop where
  | given {operation : Alu.Operation} (destination : Int) {a b : Word}
      (understood : operation ≠ .unknown) (computed : Alu.compute operation a b = .ok outcome) :
      Latched machine outcome
        (.performed (.execute operation destination a b true) (.ok (.outcome outcome)))
  | fetched {operation : Alu.Operation} (destination : Int) (first second : RegisterIndex)
      (understood : operation ≠ .unknown)
      (computed : Alu.compute operation (machine.registers.get first)
        (machine.registers.get second) = .ok outcome) :
      Latched machine outcome
        (.performed (.executeRegisters operation destination first.val second.val true)
          (.ok (.outcome outcome)))

/-- An evaluation that latched an outcome is of the kind that the counters call flag setting, and it
is no reset. -/
theorem Latched.latches {machine : Machine} {outcome : Alu.Outcome} {happening : Happening}
    (latched : Latched machine outcome happening) :
    happening.latches = true ∧ happening.resets = false := by
  cases latched with
  | @given operation _ _ _ understood _ | @fetched operation _ _ _ understood _ =>
    refine ⟨?_, rfl⟩
    cases operation with
    | unknown => exact absurd rfl understood
    | _ => rfl

/-- Looking neither latches nor resets. -/
theorem keeps_of_observes {operation : Operation} (observes : operation.observes = true)
    (result : Except Fault Value) :
    (performed operation result).latches = false ∧ (performed operation result).resets = false := by
  cases operation, observes using Operation.observes_cases <;> exact ⟨rfl, rfl⟩

/-- A failed operation neither latches nor resets. -/
theorem keeps_of_error (operation : Operation) (fault : Fault) :
    (performed operation (.error fault)).latches = false ∧
      (performed operation (.error fault)).resets = false := by
  cases operation <;> exact ⟨rfl, rfl⟩

end Happening

/-- Taking a word for a register leaves the flags as they are. -/
@[simp] theorem Machine.flags_accept (machine : Machine) (register : RegisterIndex)
    (value : Word) : (machine.accept register value).flags = machine.flags := by
  unfold accept
  split <;> rfl

/-- An evaluation is concluded by latching its flags if it was asked to. -/
theorem Machine.flags_conclude (machine : Machine) (outcome : Alu.Outcome) (setFlags : Bool) :
    (machine.conclude outcome setFlags).flags =
      if setFlags then outcome.flags else machine.flags := by
  cases setFlags <;> rfl

/-- What a happening does to the flags of a machine: clear them, latch those of an outcome,
or leave them alone. -/
inductive Happening.Flagging (machine : Machine) (flags : Flags) (happening : Happening) :
    Prop where
  | cleared (resets : happening.resets = true) (clear : flags = {})
  | latched {outcome : Alu.Outcome} (latched : happening.Latched machine outcome)
      (same : flags = outcome.flags)
  | kept (silent : happening.latches = false ∧ happening.resets = false)
      (same : flags = machine.flags)

/-- An effect that neither replaces the machine nor assigns its flags clears them, latches those of
its outcome or leaves them alone.

Proof: by cases of the effect. With its operands fetched, an instruction on registers is the
evaluation of what stood there. -/
theorem Operation.Effect.flagging {machine after : Machine} {operation : Operation}
    {value : Value} (effect : Effect machine operation value after)
    (stays : (Happening.performed operation (.ok value)).replaces = false)
    (unassigned : (Happening.performed operation (.ok value)).assigns = false) :
    (Happening.performed operation (.ok value)).Flagging machine after.flags := by
  induction effect with
  | observed observes => exact .kept (Happening.keeps_of_observes observes _) rfl
  | wroteBack register value => exact .kept ⟨rfl, rfl⟩ (Machine.flags_accept ..)
  | dropped computed defect =>
    refine .kept ⟨?_, rfl⟩ rfl
    rw [Happening.latches, defect, Bool.not_true, Bool.and_false]
  | @executed operation register a b setFlags outcome computed understood =>
    have latching :=
      Machine.flags_conclude (machine.accept register outcome.result) outcome setFlags
    cases setFlags with
    | true =>
      refine .latched (.given register.val ?_ computed) latching
      rintro rfl
      cases understood
    | false => exact .kept ⟨rfl, rfl⟩ (latching.trans (Machine.flags_accept ..))
  | @fetched operation destination setFlags outcome after first second executed same =>
    cases same stays unassigned with
    | cleared resets clear => cases resets
    | kept silent same => exact .kept silent same
    | latched latched flags =>
      cases latched with
      | given destination understood computed =>
        exact .latched (.fetched destination first second understood computed) flags
  | loaded register found => exact .kept ⟨rfl, rfl⟩ (Machine.flags_accept ..)
  | restarted built =>
    refine .cleared rfl ?_
    rw [Machine.eq_of_ofConfig built]
  | assignedFlags flags => cases unassigned
  | replaced copy => cases stays
  | _ => exact .kept ⟨rfl, rfl⟩ rfl

/-! ## The flags along a run -/

/-- Nothing overwrote the flags from outside. -/
def Unassigned (past : List Happening) : Prop := ∀ happening ∈ past, happening.assigns = false

instance (past : List Happening) : Decidable (Unassigned past) :=
  inferInstanceAs (Decidable (∀ happening ∈ past, happening.assigns = false))

/-- The flags were not overwritten from outside just if this holds of what happened before and of
the last happening. -/
theorem unassigned_concat {past : List Happening} {happening : Happening} :
    Unassigned (past ++ [happening]) ↔ Unassigned past ∧ happening.assigns = false :=
  Happening.none_concat ..

/-- Where the flags at a point of a run come from. -/
inductive Point.FlagsStem (points : List Point) (point : Point) : Prop where
  /-- No evaluation latched its flags since the last reset. -/
  | clear (nothing : ∀ happening ∈ sinceReset point.past, happening.latches = false)
      (flags : point.session.machine.flags = {})
  /-- An evaluation that began at `origin` latched them, and no evaluation or reset since. -/
  | latched {origin : Point} {happening : Happening} {outcome : Alu.Outcome}
      {late : List Happening} (among : origin ∈ points)
      (past : point.past = origin.past ++ happening :: late)
      (evaluated : happening.Latched origin.session.machine outcome)
      (last : ∀ later ∈ late, later.latches = false ∧ later.resets = false)
      (flags : point.session.machine.flags = outcome.flags)

/-- Every move of a run that stays with one machine and does not assign the flags clears them,
latches those of an outcome or leaves them alone. Failed operations and both ends of a step leave
them alone. -/
theorem Point.Move.flagging {before after : Point} (move : before.Move after)
    (unassigned : Unassigned after.past) :
    ∃ happening, after.past = before.past ++ [happening] ∧
      happening.Flagging before.session.machine after.session.machine.flags := by
  cases move with
  | succeeded ran stays =>
    obtain ⟨_, notAssigning⟩ := unassigned_concat.1 unassigned
    exact ⟨_, rfl, (Operation.effect_of_ok _ ran).flagging stays notAssigning⟩
  | @failed past session operation fault ran =>
    exact ⟨_, rfl, .kept (Happening.keeps_of_error operation fault) rfl⟩
  | began past session => exact ⟨_, rfl, .kept ⟨rfl, rfl⟩ rfl⟩
  | ended past session context fault =>
    refine ⟨_, rfl, .kept ⟨rfl, rfl⟩ ?_⟩
    cases fault <;> rfl

namespace Point.FlagsStem

variable {points : List Point}

/-- After a happening that clears the flags, latches them or leaves them alone, they have
an origin if they had one before. -/
theorem concat {before after : Point} {happening : Happening} (stem : before.FlagsStem points)
    (here : before ∈ points) (next : after.past = before.past ++ [happening])
    (flagging : happening.Flagging before.session.machine after.session.machine.flags) :
    after.FlagsStem points := by
  cases flagging with
  | cleared resets clear =>
    refine .clear ?_ clear
    rw [next, sinceReset_concat, if_pos resets]
    simp
  | latched latched same => exact .latched here next latched (by simp) same
  | kept silent same =>
    cases stem with
    | clear nothing flags =>
      refine .clear ?_ (same.trans flags)
      rw [next, sinceReset_concat, silent.2, if_neg Bool.false_ne_true]
      exact List.forall_mem_append.2 ⟨nothing, by simpa using silent.1⟩
    | @latched origin evaluation outcome late among split evaluated last flags =>
      have longer : after.past = origin.past ++ evaluation :: (late ++ [happening]) := by
        simp [next, split]
      exact .latched among longer evaluated
        (List.forall_mem_append.2 ⟨last, by simpa using silent⟩) (same.trans flags)

/-- Flags with an origin agree with the result of one evaluation, or they are clear. -/
theorem consistent {point : Point} (stem : point.FlagsStem points) :
    ¬ point.session.machine.flags.Contradictory := by
  cases stem with
  | clear nothing flags =>
    rw [flags]
    exact Alu.Outcome.consistent_allClear
  | latched among past evaluated last flags =>
    rw [flags]
    cases evaluated with
    | given destination understood computed => exact Alu.consistent_of_compute computed
    | fetched destination first second understood computed =>
      exact Alu.consistent_of_compute computed

end Point.FlagsStem

/-- Build a machine and run any program on it, steps nested in steps, failures ignored or
not, and resets anywhere. At every point of the run, the flags are those of the outcome of
the last evaluation since the last reset that succeeded, was understood and was asked to
set them, and clear if there is none. They never say both negative and zero. Whatever may
happen next leaves them alone, unless it is such an evaluation or a reset. This holds as
long as the flags were not assigned and the machine was not replaced by a copy. -/
theorem flags_stem_from_last_latch {config : Config} {session : Session}
    (built : Machine.ofConfig config = .ok session.machine) (program : Program) :
    ∀ point ∈ program.points session, OneMachine point.past → Unassigned point.past →
      point.FlagsStem (program.points session) ∧
      ¬ (point.session.machine.flags.negative = true ∧
        point.session.machine.flags.zero = true) ∧
      ∀ (happening : Happening) (next : Session), happening.Leads point.session next →
        happening.replaces = false → happening.assigns = false →
        happening.latches = false → happening.resets = false →
        next.machine.flags = point.session.machine.flags := by
  have stems : ∀ point ∈ program.points session, OneMachine point.past →
      point.session.machine.config = config ∧
        (Unassigned point.past → point.FlagsStem (program.points session)) := by
    refine program.points_move built ?start ?keeps
    case start =>
      refine ⟨Machine.config_of_ofConfig built, fun _ => .clear (by simp [sinceReset]) ?_⟩
      rw [Machine.eq_of_ofConfig built]
    case keeps =>
      intro before here after _ move same stem
      refine ⟨move.config_eq.trans same, fun unassigned => ?_⟩
      obtain ⟨happening, next, flagging⟩ := move.flagging unassigned
      rw [next, unassigned_concat] at unassigned
      exact (stem.2 unassigned.1).concat here next flagging
  intro point member unreplaced unassigned
  obtain ⟨same, stem⟩ := stems point member unreplaced
  refine ⟨stem unassigned, (stem unassigned).consistent, ?_⟩
  intro happening next leads stays notAssigning notLatching notResetting
  have move := leads.move ⟨_, same ▸ built⟩ stays point.past
  obtain ⟨other, appended, flagging⟩ :=
    move.flagging (unassigned_concat.2 ⟨unassigned, notAssigning⟩)
  obtain rfl : happening = other := by simpa using appended
  cases flagging with
  | cleared resets clear => simp [resets] at notResetting
  | latched latched same => simp [latched.latches] at notLatching
  | kept silent same => exact same

/-- A step compares one with two and then fails, after an operation that was not understood
and one that has no register for its result; its failure is ignored. The comparison is the
origin of the flags that an evaluation without flags and a cleared register file find. -/
theorem failed_step_keeps_latched_flags :
    let program : Program :=
      .step (.call (.execute .sub 31 1 2 true) false (.call (.execute .unknown 3 0 0 true) false
        (.call (.execute .and 40 0 0 true) true (.call (.load 1 (-8)) false .done)))) true
        (.call (.executeRegisters .and 2 0 0 false) false (.call .clearRegisters false .done))
    ∃ point ∈ program.points {}, point.past.length = 8 ∧
      point.session.machine.flags = { negative := true } ∧
      ∃ origin ∈ program.points {}, ∃ happening outcome late,
        point.past = origin.past ++ happening :: late ∧
          happening.Latched origin.session.machine outcome ∧
          outcome.flags = { negative := true } := by
  intro program
  have built : Machine.ofConfig {} = .ok (Session.machine {}) := rfl
  let point := (program.points {}).get ⟨8, by decide +kernel⟩
  have member : point ∈ program.points {} := List.get_mem ..
  have negative : point.session.machine.flags = { negative := true } := by decide +kernel
  obtain ⟨stem, _, _⟩ :=
    flags_stem_from_last_latch built program point member (by decide +kernel) (by decide +kernel)
  refine ⟨point, member, by decide +kernel, negative, ?_⟩
  cases stem with
  | clear nothing flags =>
    rw [negative] at flags
    cases flags
  | latched among past evaluated last flags =>
    exact ⟨_, among, _, _, _, past, evaluated, flags.symm.trans negative⟩

end Datapath
