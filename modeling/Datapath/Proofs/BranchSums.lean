import Datapath.Proofs.RelativeBranches

/-!
# Branches add up

A relative branch and the advance to the next instruction move the program counter by a
number of instructions, modulo the size of the address space. Moves add up like words, also
where an offset, the sum of two offsets or a scaled offset wraps around. What a branch
makes of its move is only to refuse some of the targets, and this depends on the target alone.
Two branches in a row are therefore as good as one by the sum of their offsets, if the first
one is not refused, and a branch ahead leads to where as many advances lead.
-/

namespace Datapath

namespace Session

/-- The session with its program counter moved by a number of instructions. -/
def moved (session : Session) (offset : Word) : Session :=
  { session with
    machine := { session.machine with pc := session.machine.pc + offset * Machine.stride } }

/-- A session moved by nothing is the session itself. -/
theorem moved_zero (session : Session) : session.moved 0 = session := by
  have stays : session.machine.pc + 0 * Machine.stride = session.machine.pc := by
    simp
  rw [moved, stays]

/-- Two moves add up, modulo the size of the address space. -/
theorem moved_moved (session : Session) (first second : Word) :
    (session.moved first).moved second = session.moved (first + second) := by
  have sum : session.machine.pc + first * Machine.stride + second * Machine.stride =
      session.machine.pc + (first + second) * Machine.stride := by
    rw [BitVec.add_mul, BitVec.add_assoc]
  simp only [moved, sum]

end Session

namespace Exec

/-- A relative branch moves the program counter, unless its target is refused. -/
theorem run_branchRelative_eq_moved (session : Session) (offset : Word) :
    (branchRelative offset).run session =
      match Machine.checkTarget (session.moved offset).machine.pc with
      | .ok _ => .ok () (session.moved offset)
      | .error fault => .error fault session := by
  rw [run_branchRelative_eq_branchTo, run_branchTo, Session.moved]
  cases checked : Machine.checkTarget (session.machine.pc + offset * Machine.stride) with
  | error fault => rfl
  | ok pc =>
    obtain ⟨rfl, _⟩ := Machine.checkTarget_eq_ok_iff.1 checked
    rfl

/-- A relative branch to an allowed target moves the program counter. -/
theorem run_branchRelative_of_allowed {session : Session} {offset pc : Word}
    (allowed : Machine.checkTarget (session.moved offset).machine.pc = .ok pc) :
    (branchRelative offset).run session = .ok () (session.moved offset) := by
  rw [run_branchRelative_eq_moved, allowed]

/-- A relative branch that is not refused has moved the program counter. -/
theorem eq_moved_of_ok {session after : Session} {offset : Word}
    (succeeded : (branchRelative offset).run session = .ok () after) :
    after = session.moved offset := by
  rw [run_branchRelative_eq_moved] at succeeded
  split at succeeded <;> cases succeeded
  rfl

/-- To go on to the next instruction is to move by one. -/
theorem run_advance (session : Session) : advance.run session = .ok () (session.moved 1) := by
  have one : 1 * Machine.stride = Machine.stride := by decide
  simp only [advance, run_update, Session.moved, one]

/-- Go on to the next instruction a number of times. -/
def advances : Nat → Exec Unit
  | 0 => pure ()
  | count + 1 => do
    advance
    advances count

/-- To go on a number of times is to move by this number. -/
theorem run_advances (count : Nat) (session : Session) :
    (advances count).run session = .ok () (session.moved (BitVec.ofNat 64 count)) := by
  induction count generalizing session with
  | zero => exact congrArg (EStateM.Result.ok ()) session.moved_zero.symm
  | succ count further =>
    have sum : 1 + BitVec.ofNat 64 count = BitVec.ofNat 64 (count + 1) := by
      rw [BitVec.ofNat_add, BitVec.add_comm]
      rfl
    rw [advances, EStateM.run_bind, run_advance]
    dsimp only
    rw [further, Session.moved_moved, sum]

end Exec

/-- If a relative branch succeeds, then a second one after it does what one branch by the sum of
both offsets, modulo 2 ^ 64, does from the beginning: it succeeds and leaves everything the
same, the program counter included, or it fails with the same fault, which names the same
address. After any number of advances up to 2 ^ 63 - 1 the program counter is four times this
number further on, modulo 2 ^ 64, and a branch by this number leads there if it succeeds. -/
theorem branches_add_up (session : Session) :
    (∀ (first second : Word) (between : Session),
      (Exec.branchRelative first).run session = .ok () between →
      (∀ after, (Exec.branchRelative second).run between = .ok () after ↔
        (Exec.branchRelative (first + second)).run session = .ok () after) ∧
      ∀ fault, (∃ stopped, (Exec.branchRelative second).run between = .error fault stopped) ↔
        ∃ stopped, (Exec.branchRelative (first + second)).run session = .error fault stopped) ∧
    ∀ count : Nat, count ≤ 2 ^ 63 - 1 →
      ∃ ahead, (Exec.advances count).run session = .ok () ahead ∧
        ahead.machine.pc.toNat = (session.machine.pc.toNat + 4 * count) % 2 ^ 64 ∧
        (BitVec.ofNat 64 count).toInt = count ∧
        ∀ after, (Exec.branchRelative (BitVec.ofNat 64 count)).run session = .ok () after →
          after = ahead := by
  constructor
  · intro first second between succeeded
    obtain rfl := Exec.eq_moved_of_ok succeeded
    rw [Exec.run_branchRelative_eq_moved, Exec.run_branchRelative_eq_moved session,
      Session.moved_moved]
    cases Machine.checkTarget (session.moved (first + second)).machine.pc with
    | ok pc => simp
    | error fault => simp
  · intro count small
    have signed : (BitVec.ofNat 64 count).toInt = count := by
      rw [BitVec.toInt_eq_toNat_cond, BitVec.toNat_ofNat]
      omega
    refine ⟨_, Exec.run_advances count session, ?_, signed, fun _ => Exec.eq_moved_of_ok⟩
    have exact := Machine.toNat_relative session.machine.pc (BitVec.ofNat 64 count)
    rw [signed] at exact
    change (session.machine.pc + BitVec.ofNat 64 count * Machine.stride).toNat = _
    omega

/-- The first branch leads once around the address space and back to address 8. The second one
is by one instruction back, or by three, which is refused. So are the sums of the offsets. -/
theorem branch_around_adds_up :
    let session : Session := { machine := { pc := 8 } }
    let around : Word := BitVec.ofNat 64 (2 ^ 62)
    (Exec.branchRelative around).run session = .ok () session ∧
    (∃ after, (Exec.branchRelative (-1)).run session = .ok () after ∧
      (Exec.branchRelative (around + -1)).run session = .ok () after) ∧
    (∃ stopped, (Exec.branchRelative (around + -3)).run session =
      .error (.invalidProgramCounter (-4)) stopped) ∧
    3 ≤ 2 ^ 63 - 1 ∧
    ∃ ahead, (Exec.advances 3).run session = .ok () ahead ∧ ahead.machine.pc.toNat = 20 := by
  intro session around
  have there : (Exec.branchRelative around).run session = .ok () session := by
    have whole : around * Machine.stride = 0#64 := by decide
    have stays : session.moved around = session := by
      simp only [Session.moved, whole, BitVec.add_zero]
    have allowed : Machine.checkTarget (session.moved around).machine.pc = .ok 8 := by decide
    rw [Exec.run_branchRelative_of_allowed allowed, stays]
  have near : (Exec.branchRelative (-1)).run session = .ok () (session.moved (-1)) := by
    have allowed : Machine.checkTarget (session.moved (-1)).machine.pc = .ok 4 := by decide
    exact Exec.run_branchRelative_of_allowed allowed
  have back : (Exec.branchRelative (-3)).run session =
      .error (.invalidProgramCounter (-4)) session := by
    have refused : Machine.checkTarget (session.moved (-3)).machine.pc =
        .error (.invalidProgramCounter (-4)) := by decide
    rw [Exec.run_branchRelative_eq_moved, refused]
  obtain ⟨sums, counts⟩ := branches_add_up session
  obtain ⟨lands, _⟩ := sums around (-1) session there
  obtain ⟨_, refused⟩ := sums around (-3) session there
  obtain ⟨ahead, advanced, pc, _⟩ := counts 3 (by omega)
  exact ⟨there, ⟨_, near, (lands _).1 near⟩, (refused _).1 ⟨_, back⟩, by omega, ahead, advanced, pc⟩

end Datapath
