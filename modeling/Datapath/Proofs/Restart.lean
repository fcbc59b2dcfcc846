import Datapath.Proofs.Agreement

/-!
# Reset is a fresh start

Building a machine and resetting one are two ways into the configured state. They
lead to the same machine, whatever the history of the machine that is reset: not
even the hidden slot of the zero register keeps a trace. That a reset cannot fail
rests on the invariant of reachable machines, since a reset clears first and
checks the start address afterwards.
-/

namespace Datapath

/-- A machine that is never booted equals the one built from the default configuration. -/
theorem ofConfig_default : Machine.ofConfig {} = .ok {} := rfl

/-- A reset of a reachable machine succeeds and leaves the machine that its
configuration builds. Whatever program comes next, it answers, passes through the
same machines and logs as on that new machine; only what was logged earlier differs. -/
theorem reset_is_fresh_start {session : Session} (reachable : session.machine.Reachable) :
    (∃ fresh after,
      Machine.ofConfig session.machine.config = .ok fresh ∧
      Exec.reset.run session = .ok () after ∧
      after.machine = fresh ∧
      after.saved = session.saved ∧
      after.log = session.log.push (.machineReset fresh.pc) ∧
      ∀ (program : Program) (log : Array Event),
        program.RunsAlike (Session.SameSince after.log log) after
          { machine := fresh, log, saved := session.saved }) ∧
    Machine.ofConfig {} = .ok {} := by
  obtain ⟨fresh, built⟩ := reachable.bootable
  let after : Session :=
    { session with machine := fresh, log := session.log.push (.machineReset fresh.pc) }
  refine ⟨⟨fresh, after, built, ?_, rfl, rfl, rfl, ?_⟩, ofConfig_default⟩
  · rw [Exec.run_reset, built]
  · intro program log
    exact program.runsAlike_since fresh session.saved after.log log

/-- A machine that starts at 64 is left at 8 by a failing step, which also wrote to
the hidden slot. A reset brings back the machine as it was built. -/
theorem failed_step_is_reset :
    let config : Config :=
      { general := { startPc := 64 }, registers := { initialSp := some 4096 } }
    let program : Program :=
      .step (.call (.pokeRegister 31 5) false
        (.call (.branchTo 8) false (.call (.load 1 (-8)) false .done))) false .done
    ∃ fresh, Machine.ofConfig config = .ok fresh ∧
      let session := (program.run { machine := fresh }).session
      session.machine.pc = 8 ∧ session.machine.registers.slots[31] = 5 ∧
        ∃ after, Exec.reset.run session = .ok () after ∧ after.machine = fresh ∧
          after.machine.pc = 64 ∧ after.machine.registers.slots[31] = 0 := by
  intro config program
  have checked : Machine.checkTarget 64 = .ok 64 := by decide
  have built : Machine.ofConfig config = .ok
      { pc := 64, registers := RegisterFile.cleared.set 28 4096, config } := by
    simp only [Machine.ofConfig, Machine.boot, config, checked]
    rfl
  refine ⟨_, built, rfl, by decide, ?_⟩
  have reachable := (Session.Reachable.built built).run program
  obtain ⟨⟨fresh, after, rebuilt, succeeded, same, _⟩, _⟩ :=
    reset_is_fresh_start ⟨_, reachable, rfl⟩
  have equal : fresh = { pc := 64, registers := RegisterFile.cleared.set 28 4096, config } :=
    Except.ok.inj (rebuilt.symm.trans built)
  subst equal
  refine ⟨after, succeeded, same, ?_, ?_⟩
  · rw [same]
  · rw [same]
    decide

end Datapath
