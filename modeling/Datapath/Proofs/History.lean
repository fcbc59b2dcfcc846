import Datapath.Proofs.Effects
import Mathlib.Data.List.DropRight

/-!
# The history of a run

A transcript is a tree, since a step stands with what its body did. Its history is
a list: every operation with its result, and every step twice, where it begins and
where it ends. An entry of the history belongs to each moment of the run, so a run
is a walk along its history, one move for each entry. What was counted or written
up to a point of the run can then be read off the part of the history that lies
before this point, however deep in steps the point is.

Some results hold only as long as the machine is not replaced by another one. They
are proved by one induction, which leaves to each of them what a new machine is
like and what a single effect and the two ends of a step keep.
-/

namespace Datapath

/-- Something that happens in a run. -/
inductive Happening where
  | performed (operation : Operation) (result : Except Fault Value)
  | began (context : StepContext)
  | ended (context : StepContext) (fault : Option Fault)

/-- Everything that a transcript reports, in the order in which it happened. -/
def Transcript.history : Transcript → List Happening
  | done => []
  | call operation result rest => .performed operation result :: rest.history
  | step context body fault rest =>
    .began context :: body.history ++ .ended context fault :: rest.history

/-- Everything that happens when a program is run in a session. -/
def Program.history (program : Program) (session : Session) : List Happening :=
  (program.run session).transcript.history

/-- What an operation answers in a session. -/
def Operation.answer (operation : Operation) (session : Session) : Except Fault Value :=
  match operation.perform.run session with
  | .ok value _ => .ok value
  | .error fault _ => .error fault

/-! ## Walks -/

/-- The happening leads from one session to the next. -/
inductive Happening.Leads (session : Session) : Happening → Session → Prop where
  | performed (operation : Operation) :
      Leads session (.performed operation (operation.answer session))
        (operation.perform.final session)
  | began : Leads session (.began session.nextStep) session.beginStep
  | ended (context : StepContext) (fault : Option Fault) :
      Leads session (.ended context fault) (session.endStep context fault.isSome)

/-- The happenings lead from the session through the listed moments, one after another. -/
inductive Walk : Session → List Happening → List Session → Prop where
  | stay (session : Session) : Walk session [] []
  | move {session next : Session} {happening : Happening} {history : List Happening}
      {moments : List Session} (leads : happening.Leads session next)
      (onward : Walk next history moments) :
      Walk session (happening :: history) (next :: moments)

/-- A walk goes on where another one ended. -/
theorem Walk.append {session : Session} {early late : List Happening}
    {before after : List Session} (first : Walk session early before)
    (second : Walk (before.getLastD session) late after) :
    Walk session (early ++ late) (before ++ after) := by
  induction first with
  | stay session => exact second
  | move leads onward joined =>
    rw [List.getLastD_cons] at second
    exact .move leads (joined second)

namespace Program

/-- A run is a walk along its history.

Proof: by induction over the program. Whatever comes after a step, the walk through its body and
over its end leads there. -/
theorem walk (program : Program) (session : Session) :
    Walk session (program.history session) (program.moments session) := by
  induction program generalizing session with
  | done => exact .stay session
  | call operation tolerated rest later =>
    have leads : Happening.Leads session (.performed operation (operation.answer session))
        (operation.perform.final session) := .performed operation
    simp only [history, moments, run_call]
    cases ran : operation.perform.run session with
    | ok value after =>
      rw [Operation.answer, ran, Exec.final_of_ok ran] at leads
      exact .move leads (later after)
    | error fault after =>
      rw [Operation.answer, ran, Exec.final_of_error ran] at leads
      cases tolerated with
      | true => exact .move leads (later after)
      | false => exact .move leads (.stay after)
  | step body tolerated rest inside later =>
    have ends : Happening.Leads ((body.moments session.beginStep).getLastD session.beginStep)
        (.ended session.nextStep (body.stepFault session)) (body.stepEnd session) := by
      rw [getLast_moments]
      exact .ended _ _
    have closed (history : List Happening) (moments : List Session)
        (onward : Walk (body.stepEnd session) history moments) :
        Walk session (.began session.nextStep :: body.history session.beginStep ++
            .ended session.nextStep (body.stepFault session) :: history)
          (session.beginStep :: body.moments session.beginStep ++
            body.stepEnd session :: moments) :=
      .move .began ((inside session.beginStep).append (.move ends onward))
    simp only [history, moments, run_step]
    split
    · exact closed _ _ (.stay _)
    · exact closed _ _ (later _)

end Program

/-! ## Points -/

/-- A point of a run: everything that happened up to there, and the session there. -/
structure Point where
  past : List Happening
  session : Session

/-- The points of a run, from the one where it begins to the one where it ends. -/
def Program.points (program : Program) (session : Session) : List Point :=
  List.zipWith Point.mk (program.history session).inits (session :: program.moments session)

/-- A run begins at the point where nothing has happened yet. -/
theorem Program.start_mem_points (program : Program) (session : Session) :
    ⟨[], session⟩ ∈ program.points session := by
  unfold points
  cases program.history session <;> exact List.mem_cons_self

/-- What each move between the given points keeps holds at all of them that a walk passes.

Proof: by induction over the walk. The points after the first are those of the rest of the walk,
with the first happening in front of their pasts. -/
theorem Walk.points_keep {points : List Point} {holds : Point → Prop}
    (keeps : ∀ past session happening next, ⟨past, session⟩ ∈ points →
      ⟨past ++ [happening], next⟩ ∈ points → happening.Leads session next →
      holds ⟨past, session⟩ → holds ⟨past ++ [happening], next⟩)
    {session : Session} {history : List Happening} {moments : List Session}
    (walk : Walk session history moments) {past : List Happening}
    (among : ∀ point ∈ List.zipWith Point.mk history.inits (session :: moments),
      ⟨past ++ point.past, point.session⟩ ∈ points)
    (start : holds ⟨past, session⟩) :
    ∀ point ∈ List.zipWith Point.mk history.inits (session :: moments),
      holds ⟨past ++ point.past, point.session⟩ := by
  induction walk generalizing past with
  | stay session => simpa using start
  | @move session next happening history moments leads onward later =>
    have further : List.zipWith Point.mk (history.inits.map (happening :: ·)) (next :: moments) =
        (List.zipWith Point.mk history.inits (next :: moments)).map
          fun point => ⟨happening :: point.past, point.session⟩ := by
      rw [List.map_zipWith, List.zipWith_map_left]
    rw [List.inits, List.zipWith_cons_cons, further, List.forall_mem_cons,
      List.forall_mem_map] at among
    have here : ⟨past, session⟩ ∈ points := by simpa using among.1
    have rest : ∀ point ∈ List.zipWith Point.mk history.inits (next :: moments),
        ⟨past ++ [happening] ++ point.past, point.session⟩ ∈ points := by
      simpa using among.2
    have there : ⟨past ++ [happening], next⟩ ∈ points := by
      have first : ⟨[], next⟩ ∈ List.zipWith Point.mk history.inits (next :: moments) := by
        cases history <;> exact List.mem_cons_self
      simpa using rest _ first
    have moved := keeps past session happening next here there leads start
    rw [List.inits, List.zipWith_cons_cons, further, List.forall_mem_cons, List.forall_mem_map]
    refine ⟨by simpa using start, ?_⟩
    simpa using later rest moved

/-- What holds where a run begins, and what each move from one of its points to the next
keeps, holds at all its points. -/
theorem Program.points_induction (program : Program) {session : Session} {holds : Point → Prop}
    (start : holds ⟨[], session⟩)
    (keeps : ∀ past session' happening next, ⟨past, session'⟩ ∈ program.points session →
      ⟨past ++ [happening], next⟩ ∈ program.points session → happening.Leads session' next →
      holds ⟨past, session'⟩ → holds ⟨past ++ [happening], next⟩) :
    ∀ point ∈ program.points session, holds point := by
  have kept : ∀ point ∈ program.points session, holds ⟨[] ++ point.past, point.session⟩ :=
    (program.walk session).points_keep keeps (fun _ member => member) start
  exact kept

/-! ## Kinds of happenings in a past -/

namespace Happening

variable (kind : Happening → Bool) (past : List Happening) (happening : Happening)

/-- Nothing of a kind has happened just if nothing of it had happened before and the last happening
is not of it. -/
theorem none_concat :
    (∀ other ∈ past ++ [happening], kind other = false) ↔
      (∀ other ∈ past, kind other = false) ∧ kind happening = false := by
  rw [List.forall_mem_append, List.forall_mem_singleton]

/-- A further happening ends what happened since the last one of a kind if it is of this kind, and
otherwise belongs to it. -/
theorem since_concat :
    (past ++ [happening]).rtakeWhile (fun other => !kind other) =
      if kind happening then [] else past.rtakeWhile (fun other => !kind other) ++ [happening] := by
  rw [List.rtakeWhile_concat]
  cases kind happening <;> rfl

end Happening

/-! ## Runs of one machine -/

/-- The machine was replaced by the copy set aside. -/
def Happening.replaces : Happening → Bool
  | .performed .restore (.ok (.truth true)) => true
  | _ => false

/-- All of it happened to one machine, which was never replaced. -/
def OneMachine (past : List Happening) : Prop :=
  ∀ happening ∈ past, happening.replaces = false

instance (past : List Happening) : Decidable (OneMachine past) :=
  inferInstanceAs (Decidable (∀ happening ∈ past, happening.replaces = false))

/-- The machine was never replaced just if it was not replaced before nor by the last happening. -/
theorem oneMachine_concat {past : List Happening} {happening : Happening} :
    OneMachine (past ++ [happening]) ↔ OneMachine past ∧ happening.replaces = false :=
  Happening.none_concat ..

/-- An operation of a machine that can be booted succeeds, or it fails and changes nothing. -/
theorem Operation.run_cases (operation : Operation) {session : Session}
    (bootable : session.machine.config.Bootable) :
    (∃ value after, operation.perform.run session = .ok value after) ∨
      ∃ fault, operation.perform.run session = .error fault session := by
  cases ran : operation.perform.run session with
  | ok value after => exact .inl ⟨value, after, rfl⟩
  | error fault after =>
    refine .inr ⟨fault, ?_⟩
    by_cases resets : operation = .reset
    · subst resets
      obtain ⟨restarted, succeeded⟩ := Exec.reset_succeeds bootable
      simp only [perform, EStateM.run_bind, succeeded, EStateM.run_pure] at ran
      cases ran
    · rw [operation.atomic_perform resets session fault after ran]

/-- How a run that stays with one machine gets from a point to the next one. -/
inductive Point.Move : Point → Point → Prop where
  | succeeded {past : List Happening} {session after : Session} {operation : Operation}
      {value : Value} (ran : operation.perform.run session = .ok value after)
      (stays : (Happening.performed operation (.ok value)).replaces = false) :
      Move ⟨past, session⟩ ⟨past ++ [.performed operation (.ok value)], after⟩
  | failed {past : List Happening} {session : Session} {operation : Operation} {fault : Fault}
      (ran : operation.perform.run session = .error fault session) :
      Move ⟨past, session⟩ ⟨past ++ [.performed operation (.error fault)], session⟩
  | began (past : List Happening) (session : Session) :
      Move ⟨past, session⟩ ⟨past ++ [.began session.nextStep], session.beginStep⟩
  | ended (past : List Happening) (session : Session) (context : StepContext)
      (fault : Option Fault) :
      Move ⟨past, session⟩
        ⟨past ++ [.ended context fault], session.endStep context fault.isSome⟩

/-- No move brings another configuration. -/
theorem Point.Move.config_eq {before after : Point} (move : before.Move after) :
    after.session.machine.config = before.session.machine.config := by
  cases move with
  | succeeded ran stays =>
    obtain same | ⟨rfl, rfl⟩ := (Operation.effect_of_ok _ ran).config_eq
    · exact same
    · cases stays
  | failed ran => rfl
  | began past session => rfl
  | ended past session context fault => cases fault <;> rfl

/-- A happening that does not replace a machine that can be booted is a move. -/
theorem Happening.Leads.move {happening : Happening} {session next : Session}
    (leads : happening.Leads session next) (bootable : session.machine.config.Bootable)
    (stays : happening.replaces = false) (past : List Happening) :
    Point.Move ⟨past, session⟩ ⟨past ++ [happening], next⟩ := by
  cases leads with
  | performed operation =>
    obtain ⟨value, after, ran⟩ | ⟨fault, ran⟩ := operation.run_cases bootable
    · rw [Operation.answer, ran] at stays ⊢
      rw [Exec.final_of_ok ran]
      exact .succeeded ran stays
    · rw [Operation.answer, ran, Exec.final_of_error ran]
      exact .failed ran
  | began => exact .began past session
  | ended context fault => exact .ended past session context fault

/-- What holds where a run of a new machine begins, and what each move from one of its
points to the next keeps, holds at all its points up to a replacement of the machine. The
configuration stays the same up to there. -/
theorem Program.points_move (program : Program) {config : Config} {session : Session}
    {holds : Point → Prop} (built : Machine.ofConfig config = .ok session.machine)
    (start : holds ⟨[], session⟩)
    (keeps : ∀ before ∈ program.points session, ∀ after ∈ program.points session,
      before.Move after → before.session.machine.config = config → holds before → holds after) :
    ∀ point ∈ program.points session, OneMachine point.past → holds point := by
  have all : ∀ point ∈ program.points session, OneMachine point.past →
      point.session.machine.config = config ∧ holds point := by
    refine program.points_induction ?start ?keeps
    case start => exact fun _ => ⟨Machine.config_of_ofConfig built, start⟩
    case keeps =>
      intro past session happening next here there leads before unreplaced
      obtain ⟨unreplacedBefore, stays⟩ := oneMachine_concat.1 unreplaced
      obtain ⟨same, held⟩ := before unreplacedBefore
      have move := leads.move ⟨_, same ▸ built⟩ stays past
      exact ⟨move.config_eq.trans same, keeps _ here _ there move same held⟩
  exact fun point member unreplaced => (all point member unreplaced).2

section Following

variable {config : Config} {holds : List Happening → Machine → Prop}
  (fresh : ∀ machine, Machine.ofConfig config = .ok machine → holds [] machine)
  (succeeds : ∀ past machine operation value after, holds past machine →
    machine.config = config → Operation.Effect machine operation value after →
    (Happening.performed operation (.ok value)).replaces = false →
    holds (past ++ [.performed operation (.ok value)]) after)
  (fails : ∀ past machine operation fault, holds past machine →
    holds (past ++ [.performed operation (.error fault)]) machine)
  (begins : ∀ past (session : Session), holds past session.machine →
    holds (past ++ [.began session.nextStep]) session.beginStep.machine)
  (ends : ∀ past (session : Session) context fault, holds past session.machine →
    holds (past ++ [.ended context fault]) (session.endStep context fault.isSome).machine)

include fresh succeeds fails begins ends

/-- What holds of a new machine, and what effects and both ends of a step keep, holds
at every point of a run as long as the machine was not replaced. -/
theorem Program.points_follow (program : Program) {session : Session}
    (built : Machine.ofConfig config = .ok session.machine) :
    ∀ point ∈ program.points session, OneMachine point.past →
      holds point.past point.session.machine := by
  refine program.points_move built ?start ?keeps
  case start => exact fresh _ built
  case keeps =>
    intro before _ after _ move same held
    cases move with
    | succeeded ran stays =>
      exact succeeds _ _ _ _ _ held same (Operation.effect_of_ok _ ran) stays
    | failed ran => exact fails _ _ _ _ held
    | began past session => exact begins past session held
    | ended past session context fault => exact ends past session context fault held

end Following

end Datapath
