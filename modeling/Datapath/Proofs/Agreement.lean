import Datapath.Proofs.Reachability
import Mathlib.Data.List.Forall2

/-!
# Two runs side by side

Two sessions that are related are put through the same program. If each operation
and both ends of a step answer alike in related sessions and leave related
sessions, then so does the program: its transcript is the same from both, it
fails with the same fault or not at all, and the moments of the two runs are
related one by one. Where an answer is meant to differ, the runs are compared through
a view of the answers, which shows as much of them as is meant to be the same.

The relation used here is the one of sessions whose machines are equal and whose
logs have grown by the same events. Operations write the log but never read it,
so what was logged before has no influence on what comes after.
-/

namespace Datapath

/-- Two results of one action that show the same: both are one value or both are
one fault, and the sessions they leave are related. -/
inductive Exec.Alike {α : Type} (related : Session → Session → Prop) :
    EStateM.Result Fault Session α → EStateM.Result Fault Session α → Prop where
  | ok (value : α) {left right : Session} (kept : related left right) :
      Alike related (.ok value left) (.ok value right)
  | error (fault : Fault) {left right : Session} (kept : related left right) :
      Alike related (.error fault left) (.error fault right)

/-- Of two results that show the same, either both are a value or both are a fault. -/
theorem Exec.Alike.cases {α : Type} {related : Session → Session → Prop}
    {leftResult rightResult : EStateM.Result Fault Session α}
    (alike : Alike related leftResult rightResult) :
    (∃ value left right, leftResult = .ok value left ∧ rightResult = .ok value right ∧
      related left right) ∨
    (∃ fault left right, leftResult = .error fault left ∧ rightResult = .error fault right ∧
      related left right) := by
  cases alike with
  | ok value kept => exact .inl ⟨value, _, _, rfl, rfl, kept⟩
  | error fault kept => exact .inr ⟨fault, _, _, rfl, rfl, kept⟩

/-- The action shows the same in related sessions. -/
def Exec.Agrees {α : Type} (related : Session → Session → Prop) (action : Exec α) : Prop :=
  ∀ left right, related left right → Alike related (action.run left) (action.run right)

/-- An action agrees if its first part does and the rest does for every value of it. -/
theorem Exec.Agrees.bind {α β : Type} {related : Session → Session → Prop} {first : Exec α}
    {next : α → Exec β} (agrees : Agrees related first)
    (further : ∀ value, Agrees related (next value)) : Agrees related (first >>= next) := by
  intro left right before
  obtain ⟨value, leftAfter, rightAfter, leftRan, rightRan, kept⟩ |
      ⟨fault, leftAfter, rightAfter, leftRan, rightRan, kept⟩ :=
    (agrees left right before).cases
  · rw [EStateM.run_bind, EStateM.run_bind, leftRan, rightRan]
    exact further value leftAfter rightAfter kept
  · rw [EStateM.run_bind, EStateM.run_bind, leftRan, rightRan]
    exact .error fault kept

section Views

variable {α β : Type} {related : Session → Session → Prop} {view : α → β} {action : Exec α}

/-- To see an answer through a view changes nothing but the answer. -/
theorem Exec.run_map (view : α → β) (action : Exec α) (session : Session) :
    (view <$> action).run session =
      match action.run session with
      | .ok value after => .ok (view value) after
      | .error fault after => .error fault after := by
  rw [map_eq_pure_bind, EStateM.run_bind]
  cases action.run session <;> rfl

/-- An action whose value is only looked at succeeded with a value that looks like what was seen. -/
theorem Exec.ok_of_map {session after : Session} {seen : β}
    (ran : (view <$> action).run session = .ok seen after) :
    ∃ value, action.run session = .ok value after ∧ view value = seen := by
  rw [run_map] at ran
  split at ran <;> cases ran
  exact ⟨_, ‹_›, rfl⟩

/-- An action whose value is only looked at fails with the fault that it raises itself. -/
theorem Exec.error_of_map {session after : Session} {fault : Fault}
    (ran : (view <$> action).run session = .error fault after) :
    action.run session = .error fault after := by
  rw [run_map] at ran
  split at ran <;> cases ran
  assumption

/-- If an action agrees as far as a view shows, then it ends with answers that look the
same or with the same fault. -/
theorem Exec.Agrees.cases_of_map (agrees : Agrees related (view <$> action))
    {left right : Session} (before : related left right) :
    (∃ leftValue rightValue leftAfter rightAfter, action.run left = .ok leftValue leftAfter ∧
      action.run right = .ok rightValue rightAfter ∧ view leftValue = view rightValue ∧
        related leftAfter rightAfter) ∨
    (∃ fault leftAfter rightAfter, action.run left = .error fault leftAfter ∧
      action.run right = .error fault rightAfter ∧ related leftAfter rightAfter) := by
  obtain ⟨seen, leftAfter, rightAfter, leftRan, rightRan, kept⟩ |
      ⟨fault, leftAfter, rightAfter, leftRan, rightRan, kept⟩ :=
    (agrees left right before).cases
  · obtain ⟨leftValue, leftRan, leftSeen⟩ := ok_of_map leftRan
    obtain ⟨rightValue, rightRan, rightSeen⟩ := ok_of_map rightRan
    exact .inl ⟨_, _, _, _, leftRan, rightRan, leftSeen.trans rightSeen.symm, kept⟩
  · exact .inr ⟨_, _, _, error_of_map leftRan, error_of_map rightRan, kept⟩

end Views

/-- The transcript with every answer seen through a view of the answers. -/
def Transcript.seen (view : Operation → Value → Value) : Transcript → Transcript
  | done => done
  | call operation result rest => call operation (result.map (view operation)) (rest.seen view)
  | step context body fault rest => step context (body.seen view) fault (rest.seen view)

/-- A view that shows everything shows the transcript as it is. -/
theorem Transcript.seen_unchanged (transcript : Transcript) :
    transcript.seen (fun _ value => value) = transcript := by
  induction transcript with
  | done => rfl
  | call operation result rest same => cases result <;> exact congrArg _ same
  | step context body fault rest sameBody sameRest => rw [seen, sameBody, sameRest]

/-- Seen through a view of the answers, the program shows the same from both sessions, and
it passes through related moments. -/
structure Program.RunsAlikeSeen (view : Operation → Value → Value)
    (related : Session → Session → Prop) (program : Program) (left right : Session) : Prop where
  transcript : (program.run left).transcript.seen view = (program.run right).transcript.seen view
  fault : (program.run left).fault = (program.run right).fault
  moments : List.Forall₂ related (program.moments left) (program.moments right)
  session : related (program.run left).session (program.run right).session

/-- What operations show alike through a view, and both ends of a step keep, programs show alike
through this view.

Proof: by induction over the program. A step has one context in both runs, hence one fault, alike
entries and related ends. -/
theorem Program.runsAlikeSeen {view : Operation → Value → Value}
    {related : Session → Session → Prop}
    (performs : ∀ operation : Operation,
      Exec.Agrees related (view operation <$> operation.perform))
    (begins : ∀ left right, related left right →
      left.nextStep = right.nextStep ∧ related left.beginStep right.beginStep)
    (ends : ∀ left right context failed, related left right →
      related (left.endStep context failed) (right.endStep context failed))
    (program : Program) {left right : Session} (before : related left right) :
    program.RunsAlikeSeen view related left right := by
  induction program generalizing left right with
  | done => exact ⟨rfl, rfl, .nil, before⟩
  | call operation tolerated rest later =>
    obtain ⟨leftValue, rightValue, leftAfter, rightAfter, leftRan, rightRan, looks, kept⟩ |
        ⟨fault, leftAfter, rightAfter, leftRan, rightRan, kept⟩ :=
      (performs operation).cases_of_map before
    · obtain ⟨transcript, fault, passed, ended⟩ := later kept
      constructor <;> simp only [run_call, moments, leftRan, rightRan, Run.transcript_prepend,
        Run.fault_prepend, Run.session_prepend, Transcript.seen, Except.map, looks, transcript]
      · exact fault
      · exact .cons kept passed
      · exact ended
    · cases tolerated with
      | true =>
        obtain ⟨transcript, fault, passed, ended⟩ := later kept
        constructor <;> simp only [run_call, moments, leftRan, rightRan, if_true,
          Run.transcript_prepend, Run.fault_prepend, Run.session_prepend, Transcript.seen,
          transcript]
        · exact fault
        · exact .cons kept passed
        · exact ended
      | false =>
        constructor <;> simp only [run_call, moments, leftRan, rightRan, Bool.false_eq_true,
          if_false]
        · exact .cons kept .nil
        · exact kept
  | step body tolerated rest inside later =>
    obtain ⟨sameContext, begun⟩ := begins left right before
    obtain ⟨innerTranscript, innerFault, innerPassed, innerEnded⟩ := inside begun
    have sameFault : body.stepFault left = body.stepFault right := by
      rw [stepFault, stepFault, innerFault, sameContext]
    have ended : related (body.stepEnd left) (body.stepEnd right) := by
      rw [stepEnd, stepEnd, sameContext, sameFault]
      exact ends _ _ _ _ innerEnded
    have sameEntry (leftRest rightRest : Transcript)
        (same : leftRest.seen view = rightRest.seen view) :
        (body.stepEntry left leftRest).seen view = (body.stepEntry right rightRest).seen view := by
      simp only [stepEntry, Transcript.seen, sameContext, sameFault, innerTranscript, same]
    obtain ⟨transcript, fault, passed, finished⟩ := later ended
    cases stops : (body.stepFault right).isSome && !tolerated with
    | true =>
      constructor <;> simp only [run_step, moments, sameFault, stops, if_true]
      · exact sameEntry _ _ rfl
      · exact List.rel_append (.cons begun innerPassed) (.cons ended .nil)
      · exact ended
    | false =>
      constructor <;> simp only [run_step, moments, sameFault, stops, Bool.false_eq_true,
        if_false, Run.transcript_prepend, Run.fault_prepend, Run.session_prepend]
      · exact sameEntry _ _ transcript
      · exact fault
      · exact List.rel_append (.cons begun innerPassed) (.cons ended passed)
      · exact finished

/-- The program shows the same from both sessions and passes through related moments. -/
structure Program.RunsAlike (related : Session → Session → Prop) (program : Program)
    (left right : Session) : Prop where
  transcript : (program.run left).transcript = (program.run right).transcript
  fault : (program.run left).fault = (program.run right).fault
  moments : List.Forall₂ related (program.moments left) (program.moments right)
  session : related (program.run left).session (program.run right).session

/-- What operations and both ends of a step show alike, programs show alike. -/
theorem Program.runsAlike {related : Session → Session → Prop}
    (performs : ∀ operation : Operation, operation.perform.Agrees related)
    (begins : ∀ left right, related left right →
      left.nextStep = right.nextStep ∧ related left.beginStep right.beginStep)
    (ends : ∀ left right context failed, related left right →
      related (left.endStep context failed) (right.endStep context failed))
    (program : Program) {left right : Session} (before : related left right) :
    program.RunsAlike related left right := by
  have everything (operation : Operation) :
      Exec.Agrees related ((fun value => value) <$> operation.perform) := by
    rw [id_map']
    exact performs operation
  obtain ⟨transcript, fault, moments, session⟩ :=
    program.runsAlikeSeen everything begins ends before
  rw [Transcript.seen_unchanged, Transcript.seen_unchanged] at transcript
  exact ⟨transcript, fault, moments, session⟩

/-! ## The log has no influence -/

/-- Two sessions that are equal but for what was logged before some moment in the past. -/
inductive Session.SameSince (leftLog rightLog : Array Event) : Session → Session → Prop where
  | since (machine : Machine) (events : Array Event) (saved : Option Machine) :
      SameSince leftLog rightLog ⟨machine, leftLog ++ events, saved⟩
        ⟨machine, rightLog ++ events, saved⟩

/-- A change of the machine is the same in two sessions with equal machines. -/
theorem Exec.agrees_update (leftLog rightLog : Array Event) (change : Machine → Machine) :
    (update change).Agrees (Session.SameSince leftLog rightLog) := by
  rintro _ _ ⟨machine, events, saved⟩
  exact .ok () (.since (change machine) events saved)

/-- No change that operations make depends on what was logged before. -/
theorem Exec.Composed.agrees_since {α : Type} {action : Exec α} (composed : Composed action)
    (leftLog rightLog : Array Event) :
    action.Agrees (Session.SameSince leftLog rightLog) := by
  induction composed with
  | value value => exact fun _ _ before => .ok value before
  | require result =>
    cases result with
    | ok value => exact fun _ _ before => .ok value before
    | error fault => exact fun _ _ before => .error fault before
  | machine =>
    rintro _ _ ⟨machine, events, saved⟩
    exact .ok machine (.since machine events saved)
  | setRegisters registers => exact agrees_update leftLog rightLog _
  | setMemory memory => exact agrees_update leftLog rightLog _
  | setFlags flags => exact agrees_update leftLog rightLog _
  | count change => exact agrees_update leftLog rightLog _
  | emit event =>
    rintro _ _ ⟨machine, events, saved⟩
    rw [run_emit, run_emit, Array.push_append, Array.push_append]
    exact .ok () (.since machine (events.push event) saved)
  | advance => exact agrees_update leftLog rightLog _
  | branchTo target =>
    rintro _ _ ⟨machine, events, saved⟩
    rw [run_branchTo, run_branchTo]
    cases Machine.checkTarget target with
    | ok pc => exact .ok () (.since _ events saved)
    | error fault => exact .error fault (.since machine events saved)
  | reset =>
    rintro _ _ ⟨machine, events, saved⟩
    rw [run_reset, run_reset]
    cases Machine.ofConfig machine.config with
    | ok booted =>
      simp only [Array.push_append]
      exact .ok () (.since booted (events.push (.machineReset booted.pc)) saved)
    | error fault => exact .error fault (.since _ events saved)
  | save =>
    rintro _ _ ⟨machine, events, saved⟩
    exact .ok () (.since machine events (some machine))
  | restore =>
    rintro _ _ ⟨machine, events, saved⟩
    rw [run_restore, run_restore]
    cases saved with
    | none => exact .ok false (.since machine events none)
    | some copy => exact .ok true (.since copy events (some copy))
  | bind left right leftAgrees rightAgrees => exact leftAgrees.bind rightAgrees

/-- A program does the same whatever was logged before it. -/
theorem Program.runsAlike_since (program : Program) (machine : Machine)
    (saved : Option Machine) (leftLog rightLog : Array Event) :
    program.RunsAlike (Session.SameSince leftLog rightLog) ⟨machine, leftLog, saved⟩
      ⟨machine, rightLog, saved⟩ := by
  refine program.runsAlike ?_ ?_ ?_ ?_
  · exact fun operation => operation.composed.agrees_since leftLog rightLog
  · rintro _ _ ⟨machine, events, saved⟩
    exact ⟨rfl, .since _ events saved⟩
  · rintro _ _ context failed ⟨machine, events, saved⟩
    cases failed with
    | true => exact .since _ events saved
    | false =>
      simp only [Session.endStep, Bool.false_eq_true, if_false]
      split
      · rw [Array.push_append, Array.push_append]
        exact .since _ _ saved
      · exact .since _ events saved
  · have start : Session.SameSince leftLog rightLog ⟨machine, leftLog ++ #[], saved⟩
        ⟨machine, rightLog ++ #[], saved⟩ := .since machine #[] saved
    simpa only [Array.append_empty] using start

end Datapath
