import Datapath.Proofs.Reachability
import Datapath.Proofs.SignExtension
import Mathlib.Algebra.Ring.Int.Defs
import Mathlib.Algebra.Ring.Nat

/-!
# Relative branches are exact

Instructions stand at the multiples of four, and every way to set the program counter
keeps it there: a checked address is a multiple of four, and so is the distance to the
next instruction and every scaled offset, also where the sum leaves the address space
and comes back at its other end. A relative branch can therefore fail for the sign of
its target only.

The offset of a branch is scaled and added modulo 2 ^ 64, so an absurd offset can come
back as a target in range. An offset out of an instruction's field cannot: the field is
short enough for the exact sum to differ by less than 2 ^ 64 from an address in range.
-/

namespace Datapath

namespace Machine

/-! ## Targets -/

/-- The targets of branches are the multiples of four in the lower half of the address space. -/
theorem checkTarget_eq (target : Word) :
    checkTarget target =
      if target.toNat < 2 ^ 63 ∧ target.toNat % 4 = 0 then .ok target
      else .error (.invalidProgramCounter target) := by
  have refused_iff : target.toInt < 0 ∨ target.toNat % instructionBytes ≠ 0 ↔
      ¬ (target.toNat < 2 ^ 63 ∧ target.toNat % 4 = 0) := by
    rw [BitVec.toInt_neg_iff, instructionBytes]
    omega
  unfold checkTarget
  by_cases accepted : target.toNat < 2 ^ 63 ∧ target.toNat % 4 = 0
  · rw [if_pos accepted, if_neg fun refused => refused_iff.1 refused accepted]
  · rw [if_neg accepted, if_pos (refused_iff.2 accepted)]

/-- A branch that is not refused goes to its target. -/
theorem checkTarget_eq_ok_iff {target pc : Word} :
    checkTarget target = .ok pc ↔
      pc = target ∧ target.toNat < 2 ^ 63 ∧ target.toNat % 4 = 0 := by
  rw [checkTarget_eq]
  split
  case isTrue accepted =>
    constructor
    · intro same
      cases same
      exact ⟨rfl, accepted⟩
    · rintro ⟨rfl, _⟩
      rfl
  case isFalse refused =>
    constructor
    · intro same
      cases same
    · rintro ⟨_, accepted⟩
      exact absurd accepted refused

/-- A scaled offset leads to the exact sum, modulo the size of the address space. -/
theorem toNat_relative (pc offset : Word) :
    ((pc + offset * stride).toNat : Int) = (pc.toNat + 4 * offset.toInt) % 2 ^ 64 := by
  have scale : stride.toNat = 4 := rfl
  have reading : offset.toInt = offset.toNat ∨ offset.toInt = offset.toNat - 2 ^ 64 := by
    rw [BitVec.toInt_eq_toNat_cond]
    split
    · exact .inl rfl
    · exact .inr rfl
  rw [BitVec.toNat_add, BitVec.toNat_mul, scale]
  omega

/-- The next instruction is four bytes ahead, modulo the size of the address space. -/
theorem toNat_next (pc : Word) : (pc + stride).toNat = (pc.toNat + 4) % 2 ^ 64 :=
  BitVec.toNat_add pc stride

/-! ## Every reachable machine stands at a multiple of four -/

/-- The program counter can be the address of an instruction, if not of a branch's target. -/
def Aligned (machine : Machine) : Prop := machine.pc.toNat % 4 = 0

/-- A new machine starts at an accepted target. -/
theorem checkTarget_pc_of_ofConfig {config : Config} {machine : Machine}
    (built : ofConfig config = .ok machine) : checkTarget machine.pc = .ok machine.pc := by
  obtain ⟨checked, _⟩ := start_of_ofConfig built
  obtain ⟨same, _⟩ := checkTarget_eq_ok_iff.1 checked
  rw [← same] at checked
  exact checked

/-- Whatever clients do with a machine, its program counter is a multiple of four. -/
theorem Reachable.aligned {machine : Machine} (reachable : machine.Reachable) :
    machine.Aligned := by
  obtain ⟨session, reached, rfl⟩ := reachable
  have among : session.Throughout Aligned := by
    refine reached.throughout ?stays ?advances ?jumps ?fresh
    case fresh =>
      intro config machine built
      obtain ⟨_, _, aligned⟩ := checkTarget_eq_ok_iff.1 (checkTarget_pc_of_ofConfig built)
      exact aligned
    case stays =>
      intro machine other samePc _ aligned
      rw [Aligned, samePc]
      exact aligned
    case advances =>
      intro machine aligned
      change (machine.pc + stride).toNat % 4 = 0
      have before : machine.pc.toNat % 4 = 0 := aligned
      rw [toNat_next]
      omega
    case jumps =>
      intro machine target pc checked _
      obtain ⟨rfl, _, aligned⟩ := checkTarget_eq_ok_iff.1 checked
      exact aligned
  exact among.machine

end Machine

/-! ## The run of a relative branch -/

/-- From a multiple of four, a relative branch fails for a target in the upper half of the
address space only. -/
theorem Exec.run_branchRelative {session : Session} (aligned : session.machine.Aligned)
    (offset : Word) :
    (branchRelative offset).run session =
      let target := session.machine.pc + offset * Machine.stride
      if target.toNat < 2 ^ 63 then
        .ok () { session with machine := { session.machine with pc := target } }
      else .error (.invalidProgramCounter target) session := by
  have alignedTarget : (session.machine.pc + offset * Machine.stride).toNat % 4 = 0 := by
    have sum := Machine.toNat_relative session.machine.pc offset
    unfold Machine.Aligned at aligned
    omega
  rw [run_branchRelative_eq_branchTo, run_branchTo, Machine.checkTarget_eq]
  by_cases low : (session.machine.pc + offset * Machine.stride).toNat < 2 ^ 63
  · rw [if_pos ⟨low, alignedTarget⟩]
    dsimp only
    rw [if_pos low]
  · rw [if_neg fun both => low both.1]
    dsimp only
    rw [if_neg low]

/-- In every reachable state the program counter is a multiple of four, and a relative branch goes
to the residue of the exact target modulo 2 ^ 64 if this residue is below 2 ^ 63. Otherwise it
fails, changes nothing, and names an address whose signed reading is the residue less 2 ^ 64, a
negative multiple of four. If the program counter is below 2 ^ 63 and the offset comes from a field
of at most 62 bits, the branch succeeds exactly for an exact target in the lower half of the address
space, and goes there.

Proof: both directions go through the residue of the exact target. A field of at most 62 bits is too
short for an exact target below zero to come back in range. -/
theorem relative_branches_are_exact {session : Session} (reachable : session.machine.Reachable)
    (offset : Word) :
    let exact : Int := session.machine.pc.toNat + 4 * offset.toInt
    let residue : Int := exact % 2 ^ 64
    session.machine.pc.toNat % 4 = 0 ∧
    (∃ target : Word, (target.toNat : Int) = residue ∧
      (Exec.branchRelative offset).run session =
        (if residue < 2 ^ 63 then
          .ok () { session with machine := { session.machine with pc := target } }
        else .error (.invalidProgramCounter target) session) ∧
      (¬ residue < 2 ^ 63 →
        target.toInt = residue - 2 ^ 64 ∧ target.toInt < 0 ∧ target.toInt % 4 = 0)) ∧
    (∀ (immediate : Immediate) (bits : Nat), bits ≤ 62 → immediate.extend bits = .ok offset →
      session.machine.pc.toNat < 2 ^ 63 →
      ((∃ after, (Exec.branchRelative offset).run session = .ok () after) ↔
        0 ≤ exact ∧ exact ≤ 2 ^ 63 - 1) ∧
      ∀ after, (Exec.branchRelative offset).run session = .ok () after →
        (after.machine.pc.toNat : Int) = exact) := by
  intro exact residue
  let target : Word := session.machine.pc + offset * Machine.stride
  have aligned : session.machine.pc.toNat % 4 = 0 := reachable.aligned
  have sum : (target.toNat : Int) = residue := Machine.toNat_relative session.machine.pc offset
  have low : residue < 2 ^ 63 ↔ target.toNat < 2 ^ 63 := by omega
  have run : (Exec.branchRelative offset).run session =
      if residue < 2 ^ 63 then
        .ok () { session with machine := { session.machine with pc := target } }
      else .error (.invalidProgramCounter target) session := by
    rw [Exec.run_branchRelative reachable.aligned]
    simp only [low]
    rfl
  refine ⟨aligned, ⟨target, sum, run, ?_⟩, ?_⟩
  · intro high
    have wraps : ¬ 2 * target.toNat < 2 ^ 64 := by omega
    have signed : target.toInt = residue - 2 ^ 64 := by
      rw [BitVec.toInt_eq_toNat_cond, if_neg wraps, sum]
      rfl
    refine ⟨signed, ?_, ?_⟩ <;> omega
  · intro immediate bits narrow extended started
    have small : -2 ^ 61 ≤ offset.toInt ∧ offset.toInt < 2 ^ 61 := by
      obtain ⟨lower, upper⟩ := Immediate.toInt_bounds_of_extend extended
      have power : (2 : Int) ^ (bits - 1) ≤ 2 ^ 61 := by
        exact_mod_cast Nat.pow_le_pow_right (by decide) (by omega : bits - 1 ≤ 61)
      omega
    have inRange : residue < 2 ^ 63 ↔ 0 ≤ exact ∧ exact ≤ 2 ^ 63 - 1 := by omega
    rw [run]
    constructor
    · rw [← inRange]
      split
      case isTrue below => exact iff_of_true ⟨_, rfl⟩ below
      case isFalse high =>
        refine iff_of_false ?_ high
        rintro ⟨after, succeeded⟩
        cases succeeded
    · intro after succeeded
      split at succeeded
      case isTrue below =>
        cases succeeded
        change (target.toNat : Int) = exact
        have bounds := inRange.1 below
        omega
      case isFalse => cases succeeded

/-- A step goes to address 8. From there the field of 26 bits that stands for three
instructions back leads below zero: the branch is refused with the address -4. -/
theorem short_branch_below_zero_is_refused :
    let program : Program := .step (.call (.branchTo 8) false .done) false .done
    let session := (program.run {}).session
    session.machine.pc = 8 ∧ (Immediate.uint32 0x3FFFFFD).extend 26 = .ok (-3) ∧
      (∃ target : Word, target.toInt = -4 ∧
        (Exec.branchRelative (-3)).run session =
          .error (.invalidProgramCounter target) session) ∧
      ¬ ∃ after, (Exec.branchRelative (-3)).run session = .ok () after := by
  intro program session
  have reachable : session.machine.Reachable :=
    ⟨session, Session.Reachable.default.run program, rfl⟩
  have there : session.machine.pc = 8 := rfl
  have field : (Immediate.uint32 0x3FFFFFD).extend 26 = .ok (-3) := rfl
  obtain ⟨_, ⟨target, _, run, refused⟩, short⟩ := relative_branches_are_exact reachable (-3)
  obtain ⟨succeeds, _⟩ := short _ 26 (by decide) field (by rw [there]; decide)
  rw [there] at run refused succeeds
  obtain ⟨address, _⟩ := refused (by decide)
  refine ⟨there, field, ⟨target, ?_, ?_⟩, ?_⟩
  · rw [address]
    decide
  · rw [run, if_neg (by decide)]
  · rw [succeeds]
    decide

end Datapath
