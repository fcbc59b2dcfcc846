import Datapath.Proofs.History

/-!
# The counters count what happened

Every counter is the number of happenings of one kind since the last reset. A step
that a reset interrupts is counted on both sides of it: it began before the reset,
so no cycle is left of it, and it ends afterwards, so its end is counted. Raw
writes of registers and memory are of no counted kind. Counters are natural numbers,
so a history of any length is counted in full.
-/

namespace Datapath

/-! ## Kinds of happenings -/

namespace Happening

/-- The machine was put back into its configured state. -/
def resets : Happening → Bool
  | performed .reset (.ok _) => true
  | _ => false

/-- A step was begun. -/
def begins : Happening → Bool
  | began _ => true
  | _ => false

/-- A step ended without a fault. -/
def retires : Happening → Bool
  | ended _ none => true
  | _ => false

/-- A step ended with a fault. -/
def faults : Happening → Bool
  | ended _ (some _) => true
  | _ => false

/-- The arithmetic-logic unit was evaluated. -/
def evaluates : Happening → Bool
  | performed (.execute _ _ _ _ _) (.ok _)
  | performed (.executeRegisters _ _ _ _ _) (.ok _) => true
  | _ => false

/-- An evaluation that was asked to set the flags was understood. -/
def latches : Happening → Bool
  | performed (.execute operation _ _ _ setFlags) (.ok _)
  | performed (.executeRegisters operation _ _ _ setFlags) (.ok _) =>
    setFlags && !operation.signalsDecodeDefect
  | _ => false

/-- A word was loaded. -/
def loads : Happening → Bool
  | performed (.load _ _) (.ok _) => true
  | _ => false

/-- A word was stored by an instruction. -/
def stores : Happening → Bool
  | performed (.store _ _) (.ok _) => true
  | _ => false

/-- The write path of results took a word for the zero register. -/
def discards : Happening → Bool
  | performed (.writeBack index _) (.ok _) | performed (.load index _) (.ok _) =>
    index = zeroRegister.val
  | performed (.execute operation destination _ _ _) (.ok _)
  | performed (.executeRegisters operation destination _ _ _) (.ok _) =>
    destination = zeroRegister.val && !operation.signalsDecodeDefect
  | _ => false

/-- A failed operation does not reset the machine. -/
theorem resets_of_error (operation : Operation) (fault : Fault) :
    (performed operation (.error fault)).resets = false := by
  cases operation <;> rfl

/-- A single happening counts once if it is of the kind. -/
theorem countP_single (kind : Happening → Bool) (happening : Happening) :
    [happening].countP kind = (kind happening).toNat := by
  rw [List.countP_singleton]
  cases kind happening <;> rfl

end Happening

namespace Statistics

/-- The numbers of happenings of each kind. -/
def ofHistory (history : List Happening) : Statistics where
  cycles := history.countP Happening.begins
  stepsRetired := history.countP Happening.retires
  aluOperations := history.countP Happening.evaluates
  flagSettings := history.countP Happening.latches
  loads := history.countP Happening.loads
  stores := history.countP Happening.stores
  discardedWrites := history.countP Happening.discards
  faults := history.countP Happening.faults

/-- Counters that went on counting from others. -/
instance : Add Statistics where
  add before more := {
    cycles := before.cycles + more.cycles
    stepsRetired := before.stepsRetired + more.stepsRetired
    aluOperations := before.aluOperations + more.aluOperations
    flagSettings := before.flagSettings + more.flagSettings
    loads := before.loads + more.loads
    stores := before.stores + more.stores
    discardedWrites := before.discardedWrites + more.discardedWrites
    faults := before.faults + more.faults }

/-- What comes later is counted on top of what came before. -/
theorem ofHistory_append (early late : List Happening) :
    ofHistory (early ++ late) = ofHistory early + ofHistory late := by
  simp only [ofHistory, List.countP_append]
  rfl

/-- A single happening is counted by the kinds that it is of. -/
theorem ofHistory_singleton (happening : Happening) :
    ofHistory [happening] = {
      cycles := happening.begins.toNat
      stepsRetired := happening.retires.toNat
      aluOperations := happening.evaluates.toNat
      flagSettings := happening.latches.toNat
      loads := happening.loads.toNat
      stores := happening.stores.toNat
      discardedWrites := happening.discards.toNat
      faults := happening.faults.toNat } := by
  simp only [ofHistory, Happening.countP_single]

/-- Counters add up to the same in whichever order the sums are taken. -/
theorem add_assoc (first second third : Statistics) :
    first + second + third = first + (second + third) := by
  simp only [HAdd.hAdd, Add.add, mk.injEq]
  refine ⟨?_, ?_, ?_, ?_, ?_, ?_, ?_, ?_⟩ <;> exact Nat.add_assoc ..

end Statistics

/-- What happened after the last reset, or everything if there was none. -/
def sinceReset (past : List Happening) : List Happening :=
  past.rtakeWhile fun happening => !happening.resets

/-- A further happening ends the part of the past that counts if it resets, and otherwise belongs to
it. -/
theorem sinceReset_concat (past : List Happening) (happening : Happening) :
    sinceReset (past ++ [happening]) =
      if happening.resets then [] else sinceReset past ++ [happening] :=
  Happening.since_concat ..

/-! ## What one effect counts -/

/-- The zero register is the one register for which a result is counted as discarded. -/
theorem Machine.statistics_accept (machine : Machine) (register : RegisterIndex) (value : Word) :
    (machine.accept register value).statistics =
      machine.statistics + { discardedWrites := (decide (register = zeroRegister)).toNat } := by
  unfold accept
  split
  case isTrue hidden =>
    rw [decide_eq_true hidden]
    rfl
  case isFalse shown =>
    rw [decide_eq_false shown]
    rfl

/-- A concluded evaluation counts as one, and as one setting of the flags if it sets them. -/
theorem Machine.statistics_conclude (machine : Machine) (outcome : Alu.Outcome)
    (setFlags : Bool) :
    (machine.conclude outcome setFlags).statistics =
      machine.statistics + { aluOperations := 1, flagSettings := setFlags.toNat } := by
  cases setFlags <;> rfl

/-- Looking is not counted. -/
theorem Statistics.ofHistory_of_observes {operation : Operation}
    (observes : operation.observes = true) (result : Except Fault Value) :
    ofHistory [.performed operation result] = {} := by
  cases operation, observes using Operation.observes_cases <;> rfl

/-- An effect that puts the machine back leaves the machine that its configuration builds. -/
theorem Operation.Effect.built_of_resets {machine after : Machine} {operation : Operation}
    {value : Value} (effect : Effect machine operation value after)
    (back : (Happening.performed operation (.ok value)).resets = true) :
    Machine.ofConfig machine.config = .ok after := by
  cases effect with
  | restarted built => exact built
  | observed observes =>
    cases operation with
    | reset => cases observes
    | _ => cases back
  | _ => cases back

/-- An effect counts its own happening, unless it puts the machine back. -/
theorem Operation.Effect.counts {machine after : Machine} {operation : Operation} {value : Value}
    (effect : Effect machine operation value after)
    (other : (Happening.performed operation (.ok value)).resets = false)
    (stays : (Happening.performed operation (.ok value)).replaces = false) :
    after.statistics =
        machine.statistics + Statistics.ofHistory [.performed operation (.ok value)] ∧
      after.cycle = machine.cycle := by
  induction effect with
  | observed observes =>
    rw [Statistics.ofHistory_of_observes observes]
    exact ⟨rfl, rfl⟩
  | wroteBack register value =>
    refine ⟨?_, Machine.cycle_accept ..⟩
    rw [Machine.statistics_accept, Statistics.ofHistory_singleton]
    simp only [Happening.discards, RegisterFile.number_inj]
    rfl
  | dropped computed defect =>
    rw [Statistics.ofHistory_singleton, Happening.latches, Happening.discards, defect,
      Bool.not_true, Bool.and_false, Bool.and_false]
    exact ⟨rfl, rfl⟩
  | executed register setFlags computed understood =>
    refine ⟨?_, (Machine.cycle_conclude ..).trans (Machine.cycle_accept ..)⟩
    rw [Machine.statistics_conclude, Machine.statistics_accept, Statistics.add_assoc,
      Statistics.ofHistory_singleton]
    simp only [Happening.latches, Happening.discards, understood, RegisterFile.number_inj,
      Bool.not_false, Bool.and_true]
    cases setFlags <;> rfl
  | loaded register found =>
    refine ⟨?_, Machine.cycle_accept ..⟩
    change (machine.accept register _).statistics + { loads := 1 } = _
    rw [Machine.statistics_accept, Statistics.add_assoc, Statistics.ofHistory_singleton]
    simp only [Happening.discards, RegisterFile.number_inj]
    rfl
  | fetched first second executed same => exact same other stays
  | replaced copy => cases stays
  | restarted built => cases other
  | _ => exact ⟨rfl, rfl⟩

/-! ## Counters along a run -/

/-- The counters of the machine are right if all this happened to it. -/
structure Machine.Counts (past : List Happening) (machine : Machine) : Prop where
  /-- Each counter is the number of happenings of its kind since the last reset. -/
  statistics : machine.statistics = Statistics.ofHistory (sinceReset past)
  cycle : machine.cycle = machine.statistics.cycles

/-- A new machine has counted nothing. -/
theorem Machine.counts_of_ofConfig {config : Config} {machine : Machine}
    (built : ofConfig config = .ok machine) (past : List Happening)
    (nothing : sinceReset past = []) : machine.Counts past := by
  rw [eq_of_ofConfig built]
  refine ⟨?_, rfl⟩
  rw [nothing]
  rfl

/-- A happening that is no reset and counts itself keeps the counters right. -/
theorem Machine.Counts.concat {past : List Happening} {machine after : Machine}
    {happening : Happening} (counted : machine.Counts past)
    (other : happening.resets = false)
    (more : after.statistics = machine.statistics + Statistics.ofHistory [happening])
    (moreCycles : after.cycle = machine.cycle + happening.begins.toNat) :
    after.Counts (past ++ [happening]) := by
  obtain ⟨statistics, cycle⟩ := counted
  constructor
  · rw [sinceReset_concat, other, if_neg Bool.false_ne_true, Statistics.ofHistory_append, more,
      statistics]
  · rw [moreCycles, cycle, more, Statistics.ofHistory_singleton]
    rfl

/-- A failed operation is counted by no counter. -/
theorem Statistics.ofHistory_of_error (operation : Operation) (fault : Fault) :
    ofHistory [.performed operation (.error fault)] = {} := by
  cases operation <;> rfl

/-- Build a machine and run any program on it, steps nested in steps, failures ignored
or not, and resets anywhere. At every point of the run, each counter is the number of
happenings of its kind since the last reset, and the cycle is the number of steps begun
since then. This holds as long as the machine was not replaced by a copy. -/
theorem counters_count_history {config : Config} {session : Session}
    (built : Machine.ofConfig config = .ok session.machine) (program : Program) :
    ∀ point ∈ program.points session, OneMachine point.past →
      point.session.machine.Counts point.past := by
  refine program.points_follow ?fresh ?succeeds ?fails ?begins ?ends built
  case fresh => exact fun machine new => Machine.counts_of_ofConfig new [] rfl
  case succeeds =>
    intro past machine operation value after counted same effect stays
    cases other : (Happening.performed operation (.ok value)).resets with
    | false =>
      obtain ⟨more, sameCycle⟩ := effect.counts other stays
      refine counted.concat other more ?_
      exact sameCycle
    | true =>
      refine Machine.counts_of_ofConfig (effect.built_of_resets other) _ ?_
      rw [sinceReset_concat, if_pos other]
  case fails =>
    intro past machine operation fault counted
    refine counted.concat ?_ ?_ rfl
    · cases operation <;> rfl
    · rw [Statistics.ofHistory_of_error]
      rfl
  case begins =>
    intro past session counted
    exact counted.concat rfl rfl rfl
  case ends =>
    intro past session context fault counted
    cases fault <;> exact counted.concat rfl rfl rfl

/-- A failed step inside of a step is ignored, then a reset interrupts the outer step.
Of what happened before the reset nothing is left, but the end of the outer step is
counted. The raw write to the zero register is not. -/
theorem interrupted_step_counts_its_end :
    let program : Program :=
      .call (.writeBack 31 5) false
        (.step (.step (.call (.load 1 (-8)) false .done) true
          (.call .reset false (.call (.pokeRegister 31 7) false (.call (.load 31 8) false
            (.call (.executeRegisters .sub 31 0 0 true) false .done))))) false .done)
    ∃ point ∈ program.points {}, point.past.length = 10 ∧
      point.session.machine.statistics =
        { stepsRetired := 1, aluOperations := 1, flagSettings := 1, loads := 1,
          discardedWrites := 2 } ∧
      point.session.machine.cycle = 0 := by
  intro program
  have member : (program.points {}).get ⟨10, by decide +kernel⟩ ∈ program.points {} :=
    List.get_mem ..
  refine ⟨_, member, by decide +kernel, ?_⟩
  have built : Machine.ofConfig {} = .ok (Session.machine {}) := rfl
  obtain ⟨statistics, cycle⟩ :=
    counters_count_history built program _ member (by decide +kernel)
  rw [cycle, statistics]
  decide +kernel

end Datapath
