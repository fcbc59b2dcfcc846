import Datapath.Proofs.Accounting
import Mathlib.Data.List.Infix

/-!
# Steps are nested

A step that ends is the one that began last among those that have not ended. The
history of a run is therefore balanced: it consists of operations and of complete
steps, whose bodies are balanced again. Up to any point of the run at least as many
steps have begun as have ended, and the others are open there.

A cycle is counted where a step begins and its outcome where it ends, so the counters
of the two differ by the open steps. A reset forgets the cycles of the steps that it
interrupts, but not their outcomes, which are still to come. The counters stay apart by
the number of these steps until the next reset.
-/

namespace Datapath

/-- A step ended, well or badly. -/
def Happening.ends : Happening → Bool
  | ended _ _ => true
  | _ => false

/-- Operations and complete steps in sequence. A step ends with the context with which
it began. -/
inductive Balanced : List Happening → Prop where
  | nothing : Balanced []
  | performed (operation : Operation) (result : Except Fault Value) {rest : List Happening}
      (onward : Balanced rest) : Balanced (.performed operation result :: rest)
  | step (context : StepContext) (fault : Option Fault) {body rest : List Happening}
      (inside : Balanced body) (onward : Balanced rest) :
      Balanced (.began context :: body ++ .ended context fault :: rest)

/-- The history of a transcript is balanced, one constructor for each kind of entry. -/
theorem Transcript.balanced_history (transcript : Transcript) : Balanced transcript.history := by
  induction transcript with
  | done => exact .nothing
  | call operation result rest onward => exact .performed operation result onward
  | step context body fault rest inside onward => exact .step context fault inside onward

namespace Balanced

variable {history : List Happening}

/-- As many steps begin as end. -/
theorem begins_eq_ends (balanced : Balanced history) :
    history.countP Happening.begins = history.countP Happening.ends := by
  induction balanced with
  | nothing => rfl
  | performed operation result onward same =>
    simpa [List.countP_cons, Happening.begins, Happening.ends] using same
  | step context fault inside onward sameInside sameOnward =>
    simp only [List.cons_append, List.countP_cons, List.countP_append, Happening.begins,
      Happening.ends, Bool.false_eq_true, if_true, if_false]
    omega

/-- Before a step ends it has begun, and what happened since then is balanced.

Proof: by induction over the balanced history. In one that begins with a step, the end lies beyond
this step, or it is that of the step itself, or it lies in its body. -/
theorem began_before_end (balanced : Balanced history) {early late : List Happening}
    {context : StepContext} {fault : Option Fault}
    (split : history = early ++ .ended context fault :: late) :
    ∃ outer body, early = outer ++ .began context :: body ∧ Balanced body := by
  induction balanced generalizing early late with
  | nothing => simp at split
  | performed operation result onward found =>
    obtain ⟨_, same⟩ | ⟨further, rfl, remainder⟩ := List.cons_eq_append_iff.1 split
    · cases same
    · obtain ⟨outer, body, rfl, balancedBody⟩ := found remainder
      exact ⟨_ :: outer, body, rfl, balancedBody⟩
  | @step other otherFault inner rest inside onward foundInside foundOnward =>
    obtain ⟨_, same⟩ | ⟨further, rfl, remainder⟩ := List.cons_eq_append_iff.1 split
    · cases same
    · obtain ⟨beyond, rfl, ending⟩ | ⟨remaining, rfl, ending⟩ :=
        List.append_eq_append_iff.1 remainder
      · obtain ⟨rfl, same⟩ | ⟨later, rfl, splitLater⟩ := List.cons_eq_append_iff.1 ending
        · cases same
          exact ⟨[], inner, by simp, inside⟩
        · obtain ⟨outer, body, rfl, balancedBody⟩ := foundOnward splitLater
          exact ⟨.began other :: inner ++ .ended other otherFault :: outer, body, by simp,
            balancedBody⟩
      · obtain ⟨rfl, same⟩ | ⟨later, rfl, _⟩ := List.cons_eq_append_iff.1 ending
        · cases same
          exact ⟨[], further, rfl, by simpa using inside⟩
        · obtain ⟨outer, body, rfl, balancedBody⟩ := foundInside rfl
          exact ⟨.began other :: outer, body, rfl, balancedBody⟩

/-- Nowhere have more steps ended than begun.

Proof: by induction over the length of the past. An end at its end is matched by a beginning, and as
much began as ended in between. -/
theorem ends_le_begins (balanced : Balanced history) {past : List Happening}
    (early : past <+: history) :
    past.countP Happening.ends ≤ past.countP Happening.begins := by
  obtain rfl | ⟨before, happening, rfl⟩ := List.eq_nil_or_concat' past
  · exact Nat.le_refl _
  · have shorter : before <+: history := (List.prefix_append ..).trans early
    have bounded := balanced.ends_le_begins shorter
    cases happening with
    | performed operation result => simpa [Happening.ends, Happening.begins] using bounded
    | began context =>
      simp only [List.countP_append, List.countP_singleton, Happening.ends, Happening.begins,
        Bool.false_eq_true, if_true, if_false]
      omega
    | ended context fault =>
      obtain ⟨late, split⟩ := early
      have splitAtEnd : history = before ++ .ended context fault :: late := by
        rw [← split, List.append_assoc]
        rfl
      obtain ⟨outer, body, rfl, complete⟩ := balanced.began_before_end splitAtEnd
      have outerBounded := balanced.ends_le_begins ((List.prefix_append ..).trans shorter)
      have same := complete.begins_eq_ends
      simp only [List.countP_append, List.countP_cons, List.countP_nil, Happening.ends,
        Happening.begins, Bool.false_eq_true, if_true, if_false] at outerBounded ⊢
      omega
termination_by past.length
decreasing_by all_goals simp_all

end Balanced

/-! ## Open steps -/

/-- The number of steps that have begun and not ended. -/
def openSteps (past : List Happening) : Nat :=
  past.countP Happening.begins - past.countP Happening.ends

namespace Program

variable (program : Program) {session : Session}

/-- The history of a run is balanced. -/
theorem balanced_history (session : Session) : Balanced (program.history session) :=
  (program.run session).transcript.balanced_history

/-- What has happened at a point is the beginning of what happens in the run. -/
theorem past_prefix {point : Point} (member : point ∈ program.points session) :
    point.past <+: program.history session := by
  have paired : (point.past, point.session) ∈
      (program.history session).inits.zip (session :: program.moments session) := by
    rw [points, ← List.map_uncurry_zip_eq_zipWith] at member
    obtain ⟨⟨past, there⟩, paired, rfl⟩ := List.mem_map.1 member
    exact paired
  exact (List.mem_inits ..).1 (List.of_mem_zip paired).1

/-- At the end of a run no step is open. -/
theorem openSteps_history (session : Session) : openSteps (program.history session) = 0 := by
  rw [openSteps, (program.balanced_history session).begins_eq_ends, Nat.sub_self]

/-- At every point of a run the begun steps are the ended ones and the open ones. -/
theorem begins_eq_ends_add_open {point : Point} (member : point ∈ program.points session) :
    point.past.countP Happening.begins =
      point.past.countP Happening.ends + openSteps point.past := by
  have bounded := (program.balanced_history session).ends_le_begins (program.past_prefix member)
  unfold openSteps
  omega

/-- A step that has begun did so at a point of the run, with the context it found there.

Proof: by induction over the points. Either the step begins with the last move to a point, or it had
begun before. -/
theorem context_of_began {point : Point} (member : point ∈ program.points session)
    {early late : List Happening} {context : StepContext}
    (split : point.past = early ++ .began context :: late) :
    ∃ start ∈ program.points session, start.past = early ∧
      start.session.nextStep = context := by
  have found : ∀ point ∈ program.points session, ∀ late : List Happening,
      point.past = early ++ .began context :: late →
      ∃ start ∈ program.points session, start.past = early ∧
        start.session.nextStep = context := by
    refine program.points_induction ?start ?keeps
    case start => simp
    case keeps =>
      intro past session' happening next here _ leads earlier late split
      obtain rfl | ⟨front, last, rfl⟩ := List.eq_nil_or_concat' late
      · obtain ⟨rfl, same⟩ := List.append_inj' split rfl
        cases same
        cases leads
        exact ⟨_, here, rfl, rfl⟩
      · have shorter : past = early ++ .began context :: front := by
          have joined : past ++ [happening] = early ++ .began context :: front ++ [last] := by
            simpa using split
          exact (List.append_inj' joined rfl).1
        exact earlier front shorter
  exact found point member late split

/-- A step that has ended began at a point of the run, with the context that stands at its
end. Whatever began in between has ended before it. -/
theorem beginning_of_end {point : Point} (member : point ∈ program.points session)
    {early late : List Happening} {context : StepContext} {fault : Option Fault}
    (split : point.past = early ++ .ended context fault :: late) :
    ∃ start ∈ program.points session, ∃ body,
      early = start.past ++ .began context :: body ∧ Balanced body ∧
        start.session.nextStep = context := by
  obtain ⟨rest, whole⟩ := program.past_prefix member
  have splitHistory :
      program.history session = early ++ .ended context fault :: (late ++ rest) := by
    rw [← whole, split]
    simp
  obtain ⟨outer, body, rfl, complete⟩ :=
    (program.balanced_history session).began_before_end splitHistory
  have begins : point.past = outer ++ .began context :: (body ++ .ended context fault :: late) := by
    rw [split]
    simp
  obtain ⟨start, among, rfl, found⟩ := program.context_of_began member begins
  exact ⟨start, among, body, rfl, complete, found⟩

end Program

/-! ## The balance of cycles and outcomes -/

/-- Everything up to the last reset, or nothing if there was none. -/
def untilReset (past : List Happening) : List Happening :=
  past.rdropWhile fun happening => !happening.resets

/-- A further happening leaves the part up to the last reset as it is, unless it resets itself: then
all of the past is this part. -/
theorem untilReset_concat (past : List Happening) (happening : Happening) :
    untilReset (past ++ [happening]) =
      if happening.resets then past ++ [happening] else untilReset past := by
  rw [untilReset, List.rdropWhile_concat]
  cases happening.resets <;> rfl

/-- Cycles and outcomes differ by the steps that are open now and by those that the last
reset interrupted. -/
def Statistics.Balances (past : List Happening) (counters : Statistics) : Prop :=
  counters.cycles + openSteps (untilReset past) =
    counters.stepsRetired + counters.faults + openSteps past

/-- A step that ends is retired or faults. -/
theorem Happening.ends_eq (happening : Happening) :
    happening.ends.toNat = happening.retires.toNat + happening.faults.toNat := by
  cases happening with
  | performed operation result => rfl
  | began context => rfl
  | ended context fault => cases fault <;> rfl

/-- A happening that is no reset and counts itself keeps the balance. -/
theorem Statistics.Balances.concat {past : List Happening} {counters : Statistics}
    {happening : Happening} (balance : counters.Balances past)
    (other : happening.resets = false)
    (opened : past.countP Happening.begins = past.countP Happening.ends + openSteps past)
    (openedAfter : (past ++ [happening]).countP Happening.begins =
      (past ++ [happening]).countP Happening.ends + openSteps (past ++ [happening])) :
    (counters + ofHistory [happening]).Balances (past ++ [happening]) := by
  rw [List.countP_append, List.countP_append, Happening.countP_single, Happening.countP_single,
    happening.ends_eq] at openedAfter
  unfold Balances at balance ⊢
  rw [untilReset_concat, other, if_neg Bool.false_ne_true, ofHistory_singleton]
  change counters.cycles + happening.begins.toNat + _ =
    counters.stepsRetired + happening.retires.toNat +
      (counters.faults + happening.faults.toNat) + _
  omega

/-- Right after a reset nothing is counted, and the open steps are those it interrupted. -/
theorem Statistics.balances_of_reset (past : List Happening) {happening : Happening}
    (reset : happening.resets = true) : Balances (past ++ [happening]) {} := by
  rw [Balances, untilReset_concat, if_pos reset]
  rfl

/-- Build a machine and run any program on it, steps nested in steps, failures ignored or
not, and resets anywhere. At every point of the run, the cycles and the steps that were
open at the last reset are as many as the retired steps, the faults and the steps that are
open now. At the end of the run no step is open. This holds as long as the machine was not
replaced by a copy. -/
theorem cycles_balance_outcomes {config : Config} {session : Session}
    (built : Machine.ofConfig config = .ok session.machine) (program : Program) :
    openSteps (program.history session) = 0 ∧
      ∀ point ∈ program.points session, OneMachine point.past →
        let counters := point.session.machine.statistics
        counters.cycles + openSteps (untilReset point.past) =
          counters.stepsRetired + counters.faults + openSteps point.past := by
  refine ⟨program.openSteps_history session, program.points_move built ?start ?keeps⟩
  case start =>
    rw [Machine.eq_of_ofConfig built]
    rfl
  case keeps =>
    intro before here after there move _ balance
    have opened := program.begins_eq_ends_add_open here
    have openedAfter := program.begins_eq_ends_add_open there
    cases move with
    | @succeeded past session after operation value ran stays =>
      have effect := Operation.effect_of_ok operation ran
      cases other : (Happening.performed operation (.ok value)).resets with
      | false =>
        obtain ⟨more, _⟩ := effect.counts other stays
        dsimp only
        rw [more]
        exact Statistics.Balances.concat balance other opened openedAfter
      | true =>
        dsimp only
        rw [Machine.eq_of_ofConfig (effect.built_of_resets other)]
        exact Statistics.balances_of_reset past other
    | @failed past session operation fault ran =>
      have other := Happening.resets_of_error operation fault
      have balanced := Statistics.Balances.concat balance other opened openedAfter
      rw [Statistics.ofHistory_of_error] at balanced
      exact balanced
    | began past session => exact Statistics.Balances.concat balance rfl opened openedAfter
    | ended past session context fault =>
      cases fault <;> exact Statistics.Balances.concat balance rfl opened openedAfter

/-- A step that resets the machine is retired without a cycle of its own. -/
theorem reset_in_step_leaves_no_cycle :
    ∃ fresh, Machine.ofConfig {} = .ok fresh ∧
      let program : Program := .step (.call .reset false .done) false .done
      let counters := (program.run { machine := fresh }).session.machine.statistics
      ¬ counters.cycles = counters.stepsRetired + counters.faults :=
  ⟨{}, rfl, by decide⟩

/-- A reset inside of two steps interrupts both. The inner one then faults, the outer one
is retired, and so is a third step afterwards: three outcomes and one cycle. -/
theorem interrupted_steps_are_balanced :
    let program : Program :=
      .step (.step (.call .reset false (.call (.load 1 (-8)) false .done)) true .done) false
        (.step .done false .done)
    ∃ point ∈ program.points {}, openSteps point.past = 0 ∧
      openSteps (untilReset point.past) = 2 ∧
      point.session.machine.statistics.cycles = 1 ∧
      point.session.machine.statistics.stepsRetired +
        point.session.machine.statistics.faults = 3 := by
  intro program
  have built : Machine.ofConfig {} = .ok (Session.machine {}) := rfl
  let point := (program.points {}).get ⟨8, by decide +kernel⟩
  have member : point ∈ program.points {} := List.get_mem ..
  obtain ⟨_, balanced⟩ := cycles_balance_outcomes built program
  have balance := balanced point member (by decide +kernel)
  have outside : openSteps point.past = 0 := by decide +kernel
  have interrupted : openSteps (untilReset point.past) = 2 := by decide +kernel
  have counted : point.session.machine.statistics.cycles = 1 := by decide +kernel
  refine ⟨point, member, outside, interrupted, counted, ?_⟩
  dsimp only at balance
  omega

end Datapath
