import Datapath.Proofs.Runs

/-!
# The step that a fault is attributed to

A fault that an operation raises may pass through any number of steps, each of
which offers to surround it with its own context. Only the first does, since
context is attached once. So every step that the fault leaves answers the same,
and what it answers names the place and the cycle where the innermost of them
began, however far the machine had moved from there when the operation failed.

`Program.Raises` follows a failure to its source along the program, without
mention of contexts: it lists the steps that enclose the operation, each with
the session in which it began.
-/

namespace Datapath

namespace Fault

/-- Whether a step's context stands around the fault. -/
def hasContext : Fault → Bool
  | simulation _ _ _ => true
  | _ => false

/-- A fault with a context keeps it. -/
theorem withContext_of_hasContext {fault : Fault} (carries : fault.hasContext = true)
    (pc : Word) (cycle : Nat) : fault.withContext pc cycle = fault := by
  cases fault with
  | simulation innerPc innerCycle source => rfl
  | _ => cases carries

/-- A fault without context gets the one that is offered. -/
theorem withContext_of_bare {fault : Fault} (bare : fault.hasContext = false)
    (pc : Word) (cycle : Nat) : fault.withContext pc cycle = simulation pc cycle fault := by
  cases fault with
  | simulation innerPc innerCycle source => cases bare
  | _ => rfl

/-- Once a context is offered, there is one. -/
theorem hasContext_withContext (fault : Fault) (pc : Word) (cycle : Nat) :
    (fault.withContext pc cycle).hasContext = true := by
  cases fault <;> rfl

/-- A fault without context is its own root. -/
theorem root_of_bare {fault : Fault} (bare : fault.hasContext = false) : fault.root = fault := by
  cases fault with
  | simulation pc cycle source => cases bare
  | _ => rfl

end Fault

namespace Program

/-- A step under way: its body, and the session in which it began. -/
structure Frame where
  body : Program
  start : Session

/-- What the step answers: the fault, if any, that ends a program of this step alone. -/
def Frame.answer (frame : Frame) : Option Fault :=
  ((step frame.body false done).run frame.start).fault

/-- The run of a program in a session is ended by an operation that failed with
`cause`, and the failure left all of the listed steps, the outermost first. -/
inductive Raises : Program → Session → Fault → List Frame → Prop where
  /-- The operation that fails. -/
  | here {operation : Operation} {rest : Program} {session after : Session} {cause : Fault}
      (failed : operation.perform.run session = .error cause after) :
      Raises (.call operation false rest) session cause []
  /-- The failure leaves the body of a step and then the step. -/
  | inside {body rest : Program} {session : Session} {cause : Fault} {frames : List Frame}
      (raised : Raises body session.beginStep cause frames) :
      Raises (.step body false rest) session cause (⟨body, session⟩ :: frames)
  /-- An operation succeeded before. -/
  | afterSuccess {operation : Operation} {tolerated : Bool} {rest : Program}
      {session after : Session} {value : Value} {cause : Fault} {frames : List Frame}
      (succeeded : operation.perform.run session = .ok value after)
      (raised : Raises rest after cause frames) :
      Raises (.call operation tolerated rest) session cause frames
  /-- A failure of an operation was ignored before. -/
  | afterFailure {operation : Operation} {rest : Program} {session after : Session}
      {ignored cause : Fault} {frames : List Frame}
      (failed : operation.perform.run session = .error ignored after)
      (raised : Raises rest after cause frames) :
      Raises (.call operation true rest) session cause frames
  /-- A step ended well before. -/
  | afterStep {body rest : Program} {tolerated : Bool} {session : Session} {cause : Fault}
      {frames : List Frame} (ended : body.stepFault session = none)
      (raised : Raises rest (body.stepEnd session) cause frames) :
      Raises (.step body tolerated rest) session cause frames
  /-- A failure of a step was ignored before. -/
  | afterFailedStep {body rest : Program} {session : Session} {ignored cause : Fault}
      {frames : List Frame} (ended : body.stepFault session = some ignored)
      (raised : Raises rest (body.stepEnd session) cause frames) :
      Raises (.step body true rest) session cause frames

/-- A step answers with the fault of its body and its own context. -/
theorem Frame.answer_eq (frame : Frame) : frame.answer = frame.body.stepFault frame.start := by
  rw [answer, run_step]
  split <;> simp_all [run]

/-- The fault with the context of the innermost of the steps it left, if it left any. -/
def attributed (cause : Fault) (frames : List Frame) : Fault :=
  match frames.getLast? with
  | none => cause
  | some frame => cause.withContext frame.start.nextStep.pc frame.start.nextStep.cycle

/-- One step further out, the attribution is the same, and for the step nearest to
the failure it is its own. -/
theorem withContext_attributed (cause : Fault) (body : Program) (session : Session)
    (frames : List Frame) :
    (attributed cause frames).withContext session.nextStep.pc session.nextStep.cycle =
      attributed cause (⟨body, session⟩ :: frames) := by
  cases frames with
  | nil => rfl
  | cons frame frames =>
    simp only [attributed, List.getLast?_cons_cons]
    cases innermost : (frame :: frames).getLast? with
    | none => simp at innermost
    | some last => exact Fault.withContext_of_hasContext (Fault.hasContext_withContext _ _ _) _ _

/-- A step attributes the fault of its body to itself if nothing else did before. -/
theorem stepFault_of_attributed {body : Program} {session : Session} {cause : Fault}
    {frames : List Frame}
    (ended : (body.run session.beginStep).fault = some (attributed cause frames)) :
    body.stepFault session = some (attributed cause (⟨body, session⟩ :: frames)) := by
  rw [stepFault, ended, Option.map_some, withContext_attributed cause body]

/-- A program that is ended by an operation ends with its fault, attributed to the
innermost step around it. -/
theorem Raises.fault_run {program : Program} {session : Session} {cause : Fault}
    {frames : List Frame} (raises : Raises program session cause frames) :
    (program.run session).fault = some (attributed cause frames) := by
  induction raises with
  | here failed => rw [run_call, failed]; rfl
  | inside raised ended =>
    rw [run_step, stepFault_of_attributed ended]
    rfl
  | afterSuccess succeeded raised ended =>
    rw [run_call, succeeded]
    exact ended
  | afterFailure failed raised ended =>
    rw [run_call, failed]
    exact ended
  | afterStep passed raised ended =>
    rw [run_step, passed]
    exact ended
  | afterFailedStep passed raised ended =>
    rw [run_step, passed]
    exact ended

/-- All the steps that a failure leaves answer the same. -/
theorem Raises.answer_eq {program : Program} {session : Session} {cause : Fault}
    {frames : List Frame} (raises : Raises program session cause frames) :
    ∀ frame ∈ frames, frame.answer = some (attributed cause frames) := by
  induction raises with
  | here failed => simp
  | @inside body rest session cause frames raised same =>
    intro frame member
    rcases List.mem_cons.1 member with rfl | inner
    · rw [Frame.answer_eq, stepFault_of_attributed raised.fault_run]
    · rw [same frame inner]
      cases frames with
      | nil => cases inner
      | cons next frames => simp only [attributed, List.getLast?_cons_cons]
  | afterSuccess succeeded raised same => exact same
  | afterFailure failed raised same => exact same
  | afterStep passed raised same => exact same
  | afterFailedStep passed raised same => exact same

/-- Whatever fault ends a program, some operation raised it. -/
theorem exists_raises (program : Program) (session : Session) {fault : Fault}
    (failed : (program.run session).fault = some fault) :
    ∃ cause frames, Raises program session cause frames := by
  induction program generalizing session fault with
  | done => cases failed
  | call operation tolerated rest later =>
    rw [run_call] at failed
    cases ran : operation.perform.run session with
    | ok value after =>
      rw [ran] at failed
      obtain ⟨cause, frames, raised⟩ := later after failed
      exact ⟨cause, frames, .afterSuccess ran raised⟩
    | error reason after =>
      rw [ran] at failed
      cases tolerated with
      | true =>
        obtain ⟨cause, frames, raised⟩ := later after failed
        exact ⟨cause, frames, .afterFailure ran raised⟩
      | false => exact ⟨reason, [], .here ran⟩
  | step body tolerated rest inside later =>
    rw [run_step] at failed
    cases ended : body.stepFault session with
    | none =>
      rw [ended] at failed
      obtain ⟨cause, frames, raised⟩ := later _ failed
      exact ⟨cause, frames, .afterStep ended raised⟩
    | some reason =>
      rw [ended] at failed
      cases tolerated with
      | true =>
        obtain ⟨cause, frames, raised⟩ := later _ failed
        exact ⟨cause, frames, .afterFailedStep ended raised⟩
      | false =>
        obtain ⟨innerFault, innerFailed, _⟩ := Option.map_eq_some_iff.1 ended
        obtain ⟨cause, frames, raised⟩ := inside session.beginStep innerFailed
        exact ⟨cause, ⟨body, session⟩ :: frames, .inside raised⟩

/-! ## Attribution -/

/-- Take any step, in any session. If an operation inside of it fails with a bare
fault that leaves the step, then this step and all further ones between it and the
operation answer with one and the same fault. It consists of the operation's fault and one
context: the program counter before the innermost step, and the number of cycles
before it plus one. A fault that has a context when the body ends with it is
answered as it is. And nothing else makes a step fail: whenever one answers with a
fault, some operation inside of it raised one that left it. -/
theorem fault_names_innermost_step (body : Program) (session : Session) :
    (∀ cause inner, Raises body session.beginStep cause inner → cause.hasContext = false →
      ∃ innermost fault,
        (⟨body, session⟩ :: inner).getLast? = some innermost ∧
        fault = .simulation innermost.start.machine.pc (innermost.start.machine.cycle + 1) cause ∧
        fault.root = cause ∧
        ∀ frame ∈ ⟨body, session⟩ :: inner, frame.answer = some fault) ∧
    (∀ fault, (body.run session.beginStep).fault = some fault → fault.hasContext = true →
      Frame.answer ⟨body, session⟩ = some fault) ∧
    ∀ fault, Frame.answer ⟨body, session⟩ = some fault →
      ∃ cause inner, Raises body session.beginStep cause inner := by
  refine ⟨?_, ?_, ?_⟩
  · intro cause inner raises bare
    obtain ⟨innermost, last⟩ : ∃ innermost,
        (⟨body, session⟩ :: inner : List Frame).getLast? = some innermost :=
      ⟨_, List.getLast?_cons⟩
    have named : attributed cause (⟨body, session⟩ :: inner) =
        .simulation innermost.start.machine.pc (innermost.start.machine.cycle + 1) cause := by
      rw [attributed, last]
      exact Fault.withContext_of_bare bare _ _
    refine ⟨innermost, _, last, rfl, Fault.root_of_bare bare, ?_⟩
    intro frame member
    have outermost : Raises (.step body false done) session cause (⟨body, session⟩ :: inner) :=
      .inside raises
    rw [outermost.answer_eq frame member, named]
  · intro fault ended carries
    rw [Frame.answer_eq, stepFault, ended, Option.map_some,
      Fault.withContext_of_hasContext carries]
  · intro fault answered
    rw [Frame.answer_eq] at answered
    obtain ⟨innerFault, failed, _⟩ := Option.map_eq_some_iff.1 answered
    exact exists_raises body session.beginStep failed

/-- A step that branches to 64, ignores a failing step, and begins another one that
resets the machine and branches to 128 before it fails. The fault names 64 and the
third cycle, although the program counter is at 128 and one reset later no cycle has
begun. -/
theorem reset_step_names_its_start :
    let inner : Program :=
      .call .reset false (.call (.branchTo 128) false (.call (.load 1 (-8)) false .done))
    let body : Program :=
      .call (.branchTo 64) false
        (.step (.call (.readRegister 32) false .done) true (.step inner false .done))
    let run := (Program.step body false .done).run {}
    run.fault = some (.simulation 64 3 (.negativeAddress (-8))) ∧
      run.session.machine.pc = 128 ∧ run.session.machine.cycle = 0 := by
  intro inner body run
  have raises : Raises body (Session.beginStep {}) (.negativeAddress (-8)) _ :=
    .afterSuccess rfl (.afterFailedStep rfl
      (.inside (.afterSuccess rfl (.afterSuccess rfl (.here rfl)))))
  obtain ⟨innermost, fault, last, named, _, answers⟩ :=
    (fault_names_innermost_step body {}).1 _ _ raises rfl
  cases last
  refine ⟨?_, rfl, rfl⟩
  exact (answers ⟨body, {}⟩ (List.mem_cons_self ..)).trans (congrArg some named)

end Program
end Datapath
