import Datapath.Proofs.Instructions
import Datapath.Program

/-!
# Runs of programs

A run is a sequence of moments: the sessions right after each operation, after
the beginning of each step, and after its end. Operations that a failure kept
from being run have no moment. What each of the three kinds of moves keeps holds
at all moments of a run, however deep in a step, and at its end.

A step by itself is given by two functions of its body and of the session in
which it begins: the fault it answers with and the session in which it ends.
-/

namespace Datapath

namespace Exec

variable {α β : Type}

/-- The session in which an action leaves off, with a value or with a fault. -/
def final (action : Exec α) (session : Session) : Session :=
  match action.run session with
  | .ok _ after => after
  | .error _ after => after

/-- The final session of an action that succeeds is the one that it leaves. -/
theorem final_of_ok {action : Exec α} {session after : Session} {value : α}
    (succeeded : action.run session = .ok value after) : action.final session = after := by
  rw [final, succeeded]

/-- The final session of an action that fails is the one that it leaves, with all changes made so
far. -/
theorem final_of_error {action : Exec α} {session after : Session} {fault : Fault}
    (failed : action.run session = .error fault after) : action.final session = after := by
  rw [final, failed]

/-- A sequence fails in its first part, or in its second after the first one succeeded. -/
theorem bind_eq_error_iff {first : Exec α} {next : α → Exec β} {session after : Session}
    {fault : Fault} :
    (first >>= next).run session = .error fault after ↔
      first.run session = .error fault after ∨
        ∃ value between, first.run session = .ok value between ∧
          (next value).run between = .error fault after := by
  rw [EStateM.run_bind]
  cases first.run session with
  | error reason stopped => simp
  | ok value between =>
    constructor
    · intro failed
      exact .inr ⟨value, between, rfl, failed⟩
    · rintro (failed | ⟨_, _, same, failed⟩)
      · cases failed
      · cases same
        exact failed

/-- An action goes on from where its first part left off, unless that part failed. -/
theorem final_bind (first : Exec α) (next : α → Exec β) (session : Session) :
    (first >>= next).final session =
      match first.run session with
      | .ok value after => (next value).final after
      | .error _ after => after := by
  simp only [final, EStateM.run_bind]
  cases first.run session <;> rfl

end Exec

/-- An entry put in front of the transcript does not change the session in which a run ends. -/
@[simp] theorem Run.session_prepend (run : Run) (entry : Transcript → Transcript) :
    (run.prepend entry).session = run.session := rfl

/-- An entry put in front of the transcript does not change the fault of a run. -/
@[simp] theorem Run.fault_prepend (run : Run) (entry : Transcript → Transcript) :
    (run.prepend entry).fault = run.fault := rfl

/-- An entry put in front of the transcript stands before what the run wrote. -/
@[simp] theorem Run.transcript_prepend (run : Run) (entry : Transcript → Transcript) :
    (run.prepend entry).transcript = entry run.transcript := rfl

namespace Program

/-! ## One step -/

/-- The fault that a step with this body answers with, if it begins in `session`. -/
def stepFault (body : Program) (session : Session) : Option Fault :=
  (body.run session.beginStep).fault.map
    (Fault.withContext session.nextStep.pc session.nextStep.cycle)

/-- The session in which a step with this body ends, if it begins in `session`. -/
def stepEnd (body : Program) (session : Session) : Session :=
  (body.run session.beginStep).session.endStep session.nextStep (body.stepFault session).isSome

/-- The entry of a step with this body in a transcript, in front of what comes after it. -/
def stepEntry (body : Program) (session : Session) (rest : Transcript) : Transcript :=
  .step session.nextStep (body.run session.beginStep).transcript (body.stepFault session) rest

/-- A program goes on after a step unless the step failed and is not tolerated. -/
theorem run_step (body : Program) (tolerated : Bool) (rest : Program) (session : Session) :
    (step body tolerated rest).run session =
      if (body.stepFault session).isSome && !tolerated then
        ⟨body.stepEntry session .done, body.stepFault session, body.stepEnd session⟩
      else (rest.run (body.stepEnd session)).prepend (body.stepEntry session) := rfl

/-- A program goes on after an operation unless the operation failed and is not tolerated. -/
theorem run_call (operation : Operation) (tolerated : Bool) (rest : Program)
    (session : Session) :
    (call operation tolerated rest).run session =
      match operation.perform.run session with
      | .ok value after => (rest.run after).prepend (.call operation (.ok value))
      | .error fault after =>
        if tolerated then (rest.run after).prepend (.call operation (.error fault))
        else ⟨.call operation (.error fault) .done, some fault, after⟩ := rfl

/-! ## The moments of a run -/

/-- The sessions that a run passes through, in order. The session in which it
begins is not among them. -/
def moments : Program → Session → List Session
  | done, _ => []
  | call operation tolerated rest, session =>
    match operation.perform.run session with
    | .ok _ after => after :: rest.moments after
    | .error _ after => after :: if tolerated then rest.moments after else []
  | step body tolerated rest, session =>
    session.beginStep :: body.moments session.beginStep ++
      body.stepEnd session ::
        if (body.stepFault session).isSome && !tolerated then []
        else rest.moments (body.stepEnd session)

/-- A run ends at its last moment, or where it began if it has none. -/
theorem getLast_moments (program : Program) (session : Session) :
    (program.moments session).getLastD session = (program.run session).session := by
  induction program generalizing session with
  | done => rfl
  | call operation tolerated rest later =>
    simp only [moments, run_call]
    cases operation.perform.run session with
    | ok value after =>
      simpa only [List.getLastD_cons, Run.session_prepend] using later after
    | error fault after =>
      cases tolerated with
      | true =>
        simpa only [List.getLastD_cons, if_true, Run.session_prepend] using later after
      | false => rfl
  | step body tolerated rest inside later =>
    simp only [moments, run_step]
    split
    · simp [List.getLastD_eq_getLast?, List.getLast?_cons]
    · simpa [List.getLastD_eq_getLast?, List.getLast?_cons] using later (body.stepEnd session)

section Keeping

variable {kept : Session → Prop}
  (performs : ∀ operation session, kept session →
    kept (Exec.final (Operation.perform operation) session))
  (begins : ∀ session, kept session → kept session.beginStep)
  (ends : ∀ session context failed, kept session → kept (session.endStep context failed))

include performs begins ends

/-- What every operation and both ends of a step keep, a run keeps. -/
theorem run_keeps (program : Program) {session : Session} (before : kept session) :
    kept (program.run session).session := by
  induction program generalizing session with
  | done => exact before
  | call operation tolerated rest later =>
    have performed := performs operation session before
    rw [run_call]
    cases ran : operation.perform.run session with
    | ok value after =>
      rw [Exec.final_of_ok ran] at performed
      exact later performed
    | error fault after =>
      rw [Exec.final_of_error ran] at performed
      cases tolerated with
      | true => exact later performed
      | false => exact performed
  | step body tolerated rest inside later =>
    have ended : kept (body.stepEnd session) := ends _ _ _ (inside (begins session before))
    rw [run_step]
    split
    · exact ended
    · exact later ended

/-- What every operation and both ends of a step keep holds at every moment of a run. -/
theorem moments_keep (program : Program) {session : Session} (before : kept session) :
    ∀ moment ∈ program.moments session, kept moment := by
  induction program generalizing session with
  | done =>
    intro moment member
    cases member
  | call operation tolerated rest later =>
    have performed := performs operation session before
    simp only [moments]
    cases ran : operation.perform.run session with
    | ok value after =>
      rw [Exec.final_of_ok ran] at performed
      exact List.forall_mem_cons.2 ⟨performed, later performed⟩
    | error fault after =>
      rw [Exec.final_of_error ran] at performed
      refine List.forall_mem_cons.2 ⟨performed, ?_⟩
      cases tolerated with
      | true => exact later performed
      | false => simp
  | step body tolerated rest inside later =>
    have begun := begins session before
    have ended : kept (body.stepEnd session) :=
      ends _ _ _ (run_keeps performs begins ends body begun)
    simp only [moments, List.cons_append]
    refine List.forall_mem_cons.2 ⟨begun, List.forall_mem_append.2 ⟨inside begun, ?_⟩⟩
    refine List.forall_mem_cons.2 ⟨ended, ?_⟩
    split
    · simp
    · exact later ended

end Keeping

end Program
end Datapath
