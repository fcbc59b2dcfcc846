import Datapath.Proofs.Logging
import Datapath.Proofs.Nesting

/-!
# The log agrees with the counters

Counters are kept and events are logged at different places, a load's in the instruction
itself and those of the write that it makes in the write path of results. Yet what was
logged since the last reset and what the counters say of the same time never drift apart.
A single happening adds as much to the one as to the other, so the two agree after any
number of happenings, and a reset starts both anew.

What is logged of a retired step is the context with which it began. A step may begin
others and even reset the machine before it ends, so this is a matter of nesting: the step
that ends is the one whose beginning has only complete steps behind it.
-/

namespace Datapath

/-! ## Tallies -/

namespace Event

/-- The number of events with a given message. -/
def tally (message : String) (events : List Event) : Nat :=
  events.countP fun event => event.message == message

/-- The tally of a log is the sum of the tallies of its parts. -/
theorem tally_append (message : String) (early late : List Event) :
    tally message (early ++ late) = tally message early + tally message late :=
  List.countP_append

/-- What the write path of results logs depends on whether the zero register was meant. -/
theorem written_cases (index : Int) (value : Word) :
    index = zeroRegister.val ∧ written index value = writeDiscarded value ∨
      index ≠ zeroRegister.val ∧ written index value = writeBack index value := by
  unfold written
  by_cases hidden : index = zeroRegister.val
  · exact .inl ⟨hidden, if_pos hidden⟩
  · exact .inr ⟨hidden, if_neg hidden⟩

/-- The context that the event of a retired step carries. -/
def retired? : Event → Option StepContext
  | stepRetired pc cycle _ => some ⟨pc, cycle⟩
  | _ => none

end Event

namespace Happening

/-- The arithmetic-logic unit was asked for an operation that it does not understand. -/
def misunderstands : Happening → Bool
  | performed (.execute operation _ _ _ _) _
  | performed (.executeRegisters operation _ _ _ _) (.ok _) => operation.signalsDecodeDefect
  | _ => false

/-- A result was given to a register by itself. -/
def writesBack : Happening → Bool
  | performed (.writeBack _ _) (.ok _) => true
  | _ => false

/-- The context of a step that ended without a fault. -/
def retired? : Happening → Option StepContext
  | ended context none => some context
  | _ => none

/-- The only happening that retires a step is the end of that step without a fault. -/
theorem retired?_eq_some_iff {happening : Happening} {context : StepContext} :
    happening.retired? = some context ↔ happening = ended context none := by
  cases happening with
  | performed operation result => simp [retired?]
  | began other => simp [retired?]
  | ended other fault => cases fault <;> simp [retired?]

end Happening

/-- What was logged after the last reset. -/
def Session.recent (session : Session) : List Event :=
  session.log.toList.rtakeWhile fun event => event.message != "machine reset"

/-- What was logged goes on to be recent until the next reset. -/
theorem Session.recent_append {session after : Session} {events : List Event}
    (added : after.log.toList = session.log.toList ++ events)
    (ordinary : ∀ event ∈ events, event.message ≠ "machine reset") :
    after.recent = session.recent ++ events := by
  have reversed : ∀ event ∈ events.reverse, (event.message != "machine reset") = true := by
    intro event member
    exact bne_iff_ne.2 (ordinary event (List.mem_reverse.1 member))
  rw [recent, recent, added, List.rtakeWhile, List.rtakeWhile, List.reverse_append,
    List.takeWhile_append_of_pos reversed, List.reverse_append, List.reverse_reverse]

/-- Right after a reset nothing else is recent. -/
theorem Session.recent_of_reset {session : Session} {log : List Event} {pc : Word}
    (reset : session.log.toList = log ++ [.machineReset pc]) : session.recent = [] := by
  rw [recent, reset]
  exact List.rtakeWhile_concat_neg _ _ _ (by simp [Event.message])

/-! ## What one happening adds -/

/-- The events are those of happenings that the counters counted. Retired steps are
logged only if they are traced. -/
structure Statistics.MatchesLog (traced : Bool) (past : List Happening) (events : List Event)
    (counters : Statistics) : Prop where
  loads : Event.tally "load" events = counters.loads
  stores : Event.tally "store" events = counters.stores
  discards : Event.tally "write to XZR discarded" events = counters.discardedWrites
  defects : Event.tally "ALU received an unknown operation" events =
    past.countP Happening.misunderstands
  retirements : Event.tally "step retired" events = if traced then counters.stepsRetired else 0
  /-- The steps are logged in the order of their ends, each with its context. -/
  contexts : events.filterMap Event.retired? =
    if traced then past.filterMap Happening.retired? else []
  /-- The write path of results is taken by evaluations that are understood, by loads, and
  by itself. -/
  writes : Event.tally "write-back" events + Event.tally "write to XZR discarded" events +
      Event.tally "ALU received an unknown operation" events =
    counters.aluOperations + counters.loads + past.countP Happening.writesBack

namespace Statistics.MatchesLog

variable {traced : Bool} {early late : List Happening} {before more : List Event}
  {counters further : Statistics}

/-- Where nothing happened, nothing was counted or logged. -/
theorem nothing (traced : Bool) : MatchesLog traced [] [] {} := by
  constructor <;> cases traced <;> rfl

/-- For a single happening, the agreement is one of the kinds that it is of. -/
theorem of_single {happening : Happening} {events : List Event}
    (loads : Event.tally "load" events = happening.loads.toNat)
    (stores : Event.tally "store" events = happening.stores.toNat)
    (discards : Event.tally "write to XZR discarded" events = happening.discards.toNat)
    (defects : Event.tally "ALU received an unknown operation" events =
      happening.misunderstands.toNat)
    (retirements : Event.tally "step retired" events =
      if traced then happening.retires.toNat else 0)
    (contexts : events.filterMap Event.retired? =
      if traced then happening.retired?.toList else [])
    (writes : Event.tally "write-back" events + Event.tally "write to XZR discarded" events +
        Event.tally "ALU received an unknown operation" events =
      happening.evaluates.toNat + happening.loads.toNat + happening.writesBack.toNat) :
    MatchesLog traced [happening] events (ofHistory [happening]) := by
  have listed : [happening].filterMap Happening.retired? = happening.retired?.toList := by
    rw [List.filterMap_cons]
    cases happening.retired? <;> rfl
  rw [ofHistory_singleton]
  refine ⟨loads, stores, discards, ?_, retirements, ?_, ?_⟩
  · rw [Happening.countP_single, defects]
  · rw [listed, contexts]
  · rw [Happening.countP_single, writes]

/-- For an operation, nothing is to be said of retired steps. -/
theorem of_performed {operation : Operation} {result : Except Fault Value} {events : List Event}
    (unretired : Event.tally "step retired" events = 0)
    (noContexts : events.filterMap Event.retired? = [])
    (loads : Event.tally "load" events = (Happening.performed operation result).loads.toNat)
    (stores : Event.tally "store" events = (Happening.performed operation result).stores.toNat)
    (discards : Event.tally "write to XZR discarded" events =
      (Happening.performed operation result).discards.toNat)
    (defects : Event.tally "ALU received an unknown operation" events =
      (Happening.performed operation result).misunderstands.toNat)
    (writes : Event.tally "write-back" events + Event.tally "write to XZR discarded" events +
        Event.tally "ALU received an unknown operation" events =
      (Happening.performed operation result).evaluates.toNat +
        (Happening.performed operation result).loads.toNat +
          (Happening.performed operation result).writesBack.toNat) :
    MatchesLog traced [.performed operation result] events
      (ofHistory [.performed operation result]) := by
  refine .of_single loads stores discards defects ?_ ?_ writes
  · rw [unretired]
    cases traced <;> rfl
  · rw [noContexts]
    cases traced <;> rfl

/-- An operation that hands a result to the write path of results logs it there, as
discarded or as written back. If it is a load, it then logs itself. -/
theorem of_written {operation : Operation} {result : Except Fault Value} {index : Int}
    {value : Word} {rest : List Event}
    (once : (Happening.performed operation result).evaluates.toNat +
      (Happening.performed operation result).loads.toNat +
        (Happening.performed operation result).writesBack.toNat = 1)
    (stores : (Happening.performed operation result).stores = false)
    (understood : (Happening.performed operation result).misunderstands = false)
    (discards : (Happening.performed operation result).discards =
      decide (index = zeroRegister.val))
    (follows : rest = [] ∧ (Happening.performed operation result).loads = false ∨
      ∃ address word, rest = [.load address word] ∧
        (Happening.performed operation result).loads = true) :
    MatchesLog traced [.performed operation result] (.written index value :: rest)
      (ofHistory [.performed operation result]) := by
  obtain ⟨hidden, same⟩ | ⟨shown, same⟩ := Event.written_cases index value
  · rw [decide_eq_true hidden] at discards
    rw [same]
    obtain ⟨rfl, loads⟩ | ⟨address, word, rfl, loads⟩ := follows <;>
      exact .of_performed rfl rfl (by rw [loads]; rfl) (by rw [stores]; rfl)
        (by rw [discards]; rfl) (by rw [understood]; rfl) once.symm
  · rw [decide_eq_false shown] at discards
    rw [same]
    obtain ⟨rfl, loads⟩ | ⟨address, word, rfl, loads⟩ := follows <;>
      exact .of_performed rfl rfl (by rw [loads]; rfl) (by rw [stores]; rfl)
        (by rw [discards]; rfl) (by rw [understood]; rfl) once.symm

/-- What agrees in both parts of the time agrees over the whole of it. -/
theorem append (first : MatchesLog traced early before counters)
    (second : MatchesLog traced late more further) :
    MatchesLog traced (early ++ late) (before ++ more) (counters + further) := by
  constructor
  case loads => rw [Event.tally_append, first.loads, second.loads]; rfl
  case stores => rw [Event.tally_append, first.stores, second.stores]; rfl
  case discards => rw [Event.tally_append, first.discards, second.discards]; rfl
  case defects => rw [Event.tally_append, List.countP_append, first.defects, second.defects]
  case retirements =>
    rw [Event.tally_append, first.retirements, second.retirements]
    cases traced <;> rfl
  case contexts =>
    rw [List.filterMap_append, List.filterMap_append, first.contexts, second.contexts]
    cases traced <;> rfl
  case writes =>
    have writesFirst := first.writes
    have writesSecond := second.writes
    simp only [Event.tally_append, List.countP_append]
    change _ = counters.aluOperations + further.aluOperations +
      (counters.loads + further.loads) + _
    omega

end Statistics.MatchesLog

/-- A successful operation other than a reset counts what it logs.

Proof: by induction over what is logged. Where the operands of an evaluation come from makes no
difference to any kind of happening. -/
theorem Operation.Logs.matchesLog {machine : Machine} {operation : Operation} {value : Value}
    {events : List Event} (logs : Logs machine operation value events) (traced : Bool)
    (other : (Happening.performed operation (.ok value)).resets = false) :
    (Statistics.ofHistory [.performed operation (.ok value)]).MatchesLog traced
      [.performed operation (.ok value)] events := by
  induction logs with
  | @nothing operation value silent =>
    cases operation with
    | writeBack | execute | executeRegisters | load | store | reset => cases silent
    | _ => exact .of_performed rfl rfl rfl rfl rfl rfl rfl
  | wroteBack index value => exact .of_written rfl rfl rfl rfl (.inl ⟨rfl, rfl⟩)
  | dropped destination defect =>
    refine .of_performed rfl rfl rfl rfl ?_ ?_ rfl
    · rw [Happening.discards, defect, Bool.not_true, Bool.and_false]
      rfl
    · rw [Happening.misunderstands, defect]
      rfl
  | @executed operation destination a b setFlags outcome understood =>
    refine .of_written rfl rfl understood ?_ (.inl ⟨rfl, rfl⟩)
    rw [Happening.discards, understood, Bool.not_false, Bool.and_true]
  | fetched first second executed same =>
    have known := same other
    exact ⟨known.loads, known.stores, known.discards, known.defects, known.retirements,
      known.contexts, known.writes⟩
  | loaded destination address value =>
    exact .of_written rfl rfl rfl rfl (.inr ⟨address, value, rfl, rfl⟩)
  | stored source address value => exact .of_performed rfl rfl rfl rfl rfl rfl rfl
  | restarted pc => cases other

/-- Only a reset logs that the machine was reset. -/
theorem Operation.Logs.ordinary {machine : Machine} {operation : Operation} {value : Value}
    {events : List Event} (logs : Logs machine operation value events)
    (other : (Happening.performed operation (.ok value)).resets = false) :
    ∀ event ∈ events, event.message ≠ "machine reset" := by
  have writes (index : Int) (value : Word) :
      (Event.written index value).message ≠ "machine reset" := by
    obtain ⟨_, same⟩ | ⟨_, same⟩ := Event.written_cases index value <;>
      simp [same, Event.message]
  induction logs with
  | nothing silent => simp
  | wroteBack index value => simpa using writes index value
  | dropped destination defect => simp [Event.message]
  | executed destination understood => simpa using writes destination _
  | fetched first second executed same => exact same other
  | loaded destination address value =>
    simpa [Event.message] using writes destination value
  | stored source address value => simp [Event.message]
  | restarted pc => cases other

/-- A failed operation counts nothing. Its operation was understood, for otherwise it
would not have failed. -/
theorem Operation.matchesLog_of_error (operation : Operation) {session after : Session}
    {fault : Fault} (failed : operation.perform.run session = .error fault after)
    (traced : Bool) :
    Statistics.MatchesLog traced [.performed operation (.error fault)] [] {} := by
  rw [← Statistics.ofHistory_of_error operation fault]
  cases operation with
  | execute operation destination a b setFlags =>
    have understood : operation.signalsDecodeDefect = false := by
      cases operation with
      | unknown => cases failed
      | _ => rfl
    refine .of_performed rfl rfl rfl rfl rfl ?_ rfl
    rw [Happening.misunderstands, understood]
    rfl
  | _ => exact .of_performed rfl rfl rfl rfl rfl rfl rfl

/-- A reset logs that the machine was reset, and nothing else. -/
theorem Operation.Logs.of_reset {machine : Machine} {operation : Operation} {value : Value}
    {events : List Event} (logs : Logs machine operation value events)
    (reset : (Happening.performed operation (.ok value)).resets = true) :
    ∃ pc, events = [.machineReset pc] := by
  cases logs with
  | restarted pc => exact ⟨pc, rfl⟩
  | @nothing operation value silent =>
    cases operation with
    | reset => cases silent
    | _ => cases reset
  | _ => cases reset

/-- The end of a step counts what it logs: a retired step if it is traced. -/
theorem Session.matchesLog_endStep (session : Session) (context : StepContext)
    (fault : Option Fault) :
    ∃ events, (session.endStep context fault.isSome).log.toList = session.log.toList ++ events ∧
      (∀ event ∈ events, event.message ≠ "machine reset") ∧
      (Statistics.ofHistory [.ended context fault]).MatchesLog
        session.machine.config.general.traceSteps [.ended context fault] events := by
  cases fault with
  | some fault =>
    refine ⟨[], (List.append_nil _).symm, by simp, ?_⟩
    cases session.machine.config.general.traceSteps <;>
      exact .of_single rfl rfl rfl rfl rfl rfl rfl
  | none =>
    cases traced : session.machine.config.general.traceSteps with
    | false =>
      refine ⟨[], ?_, by simp, .of_single rfl rfl rfl rfl rfl rfl rfl⟩
      simp [endStep, traced]
    | true =>
      refine ⟨[.stepRetired context.pc context.cycle session.machine.flags], ?_, ?_,
        .of_single rfl rfl rfl rfl rfl rfl rfl⟩
      · simp [endStep, traced]
      · simp [Event.message]

/-! ## The log along a run -/

/-- Build a machine and run any program on it, steps nested in steps, failures ignored or
not, and resets anywhere. At every point of the run, what was logged since the last reset
agrees with the counters and with what has happened since then. Where a step has ended,
its context is the one in which it began: the program counter at that point of the run, and
the number of its cycle. This holds as long as the machine was not replaced by a copy. -/
theorem log_agrees_with_counters {config : Config} {machine : Machine}
    (built : Machine.ofConfig config = .ok machine) (program : Program) :
    ∀ point ∈ program.points { machine }, OneMachine point.past →
      point.session.machine.statistics.MatchesLog config.general.traceSteps
        (sinceReset point.past) point.session.recent ∧
      ∀ early context fault late, point.past = early ++ .ended context fault :: late →
        ∃ start ∈ program.points { machine }, ∃ body,
          early = start.past ++ .began context :: body ∧ Balanced body ∧
            start.session.machine.pc = context.pc ∧
            start.session.machine.cycle + 1 = context.cycle := by
  have follows (happening : Happening) (past : List Happening)
      (other : happening.resets = false) :
      sinceReset (past ++ [happening]) = sinceReset past ++ [happening] := by
    rw [sinceReset_concat, other, if_neg Bool.false_ne_true]
  have agrees : ∀ point ∈ program.points { machine }, OneMachine point.past →
      point.session.machine.statistics.MatchesLog config.general.traceSteps
        (sinceReset point.past) point.session.recent := by
    refine program.points_move built ?start ?keeps
    case start =>
      have nothing : machine.statistics = {} := by rw [Machine.eq_of_ofConfig built]
      rw [nothing]
      exact .nothing _
    case keeps =>
      intro before _ after _ move same agrees
      cases move with
      | @succeeded past session after operation value ran stays =>
        have effect := Operation.effect_of_ok operation ran
        obtain ⟨events, added, logs⟩ := operation.logs_of_ok ran
        cases other : (Happening.performed operation (.ok value)).resets with
        | false =>
          obtain ⟨more, _⟩ := effect.counts other stays
          dsimp only
          rw [follows _ _ other, more, Session.recent_append added (logs.ordinary other)]
          exact agrees.append (logs.matchesLog _ other)
        | true =>
          obtain ⟨pc, rfl⟩ := logs.of_reset other
          dsimp only
          rw [sinceReset_concat, if_pos other, Session.recent_of_reset added,
            Machine.eq_of_ofConfig (effect.built_of_resets other)]
          exact .nothing _
      | @failed past session operation fault ran =>
        have other := Happening.resets_of_error operation fault
        have joined := agrees.append (operation.matchesLog_of_error ran _)
        rw [List.append_nil] at joined
        dsimp only
        rw [follows _ _ other]
        exact joined
      | began past session =>
        have single : (Statistics.ofHistory [.began session.nextStep]).MatchesLog
            config.general.traceSteps [.began session.nextStep] [] := by
          cases config.general.traceSteps <;> exact .of_single rfl rfl rfl rfl rfl rfl rfl
        have joined := agrees.append single
        rw [List.append_nil] at joined
        dsimp only
        rw [follows _ _ rfl]
        exact joined
      | ended past session context fault =>
        obtain ⟨events, added, ordinary, single⟩ := session.matchesLog_endStep context fault
        dsimp only at same ⊢
        rw [same] at single
        have joined := agrees.append single
        rw [follows _ _ rfl, Session.recent_append added ordinary]
        cases fault <;> exact joined
  intro point member unreplaced
  refine ⟨agrees point member unreplaced, ?_⟩
  intro early context fault late split
  obtain ⟨start, among, body, rfl, complete, rfl⟩ := program.beginning_of_end member split
  exact ⟨start, among, body, rfl, complete, rfl, rfl⟩

/-- A traced step that began at 64 resets the machine to 8 and begins another one there, in
which an operation is not understood and a load is discarded. After the reset and the two
retired steps, a third step faults. What is recent are the happenings since the reset, and
the outer step is logged with where it began, which the reset has left behind. -/
theorem interrupted_step_is_logged :
    let config : Config := { general := { traceSteps := true, startPc := 8 } }
    let machine : Machine := { pc := 8, config }
    let program : Program :=
      .call (.writeBack 3 9) false (.call (.branchTo 64) false
        (.step (.call .reset false
          (.step (.call (.execute .unknown 40 1 2 true) false
            (.call (.load 31 8) false .done)) false
              (.call (.writeBack 4 5) false (.call (.store 4 16) false .done)))) false
          (.step (.call (.load 1 (-8)) false .done) true .done)))
    Machine.ofConfig config = .ok machine ∧
    ∃ point ∈ program.points { machine },
      Event.tally "load" point.session.recent = 1 ∧
      Event.tally "write to XZR discarded" point.session.recent = 1 ∧
      Event.tally "ALU received an unknown operation" point.session.recent = 1 ∧
      Event.tally "step retired" point.session.recent = 2 ∧
      point.session.recent.filterMap Event.retired? = [⟨8, 1⟩, ⟨64, 1⟩] ∧
      ∃ start ∈ program.points { machine },
        start.session.machine.pc = 64 ∧ start.session.machine.cycle + 1 = 1 := by
  intro config machine program
  have checked : Machine.checkTarget 8 = .ok 8 := by decide
  have built : Machine.ofConfig config = .ok machine := by
    simp only [Machine.ofConfig, Machine.boot, config, checked]
    rfl
  let point := (program.points { machine }).get ⟨14, by decide +kernel⟩
  have member : point ∈ program.points { machine } := List.get_mem ..
  obtain ⟨agrees, begins⟩ :=
    log_agrees_with_counters built program point member (by decide +kernel)
  refine ⟨built, point, member, ?_, ?_, ?_, ?_, ?_, ?_⟩
  · rw [agrees.loads]
    decide +kernel
  · rw [agrees.discards]
    decide +kernel
  · rw [agrees.defects]
    decide +kernel
  · rw [agrees.retirements]
    decide +kernel
  · rw [agrees.contexts]
    decide +kernel
  · have outer : point.past[10]?.bind Happening.retired? = some ⟨64, 1⟩ := by decide +kernel
    obtain ⟨happening, found, retired⟩ := Option.bind_eq_some_iff.1 outer
    obtain ⟨long, rfl⟩ := List.getElem?_eq_some_iff.1 found
    have ended : point.past =
        point.past.take 10 ++ .ended ⟨64, 1⟩ none :: point.past.drop 11 := by
      rw [← Happening.retired?_eq_some_iff.1 retired, ← List.drop_eq_getElem_cons long,
        List.take_append_drop]
    obtain ⟨start, among, body, _, _, pc, cycle⟩ := begins _ _ _ _ ended
    exact ⟨start, among, pc, cycle⟩

end Datapath
