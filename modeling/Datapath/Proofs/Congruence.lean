import Datapath.Proofs.Agreement

/-!
# Congruences

To compare two runs that begin in different sessions one says which sessions are related
and shows that every operation answers alike in related sessions and leaves related ones.
All operations are made of the same few looks and changes. A relation is a congruence if
the looks see the same in related sessions and the changes keep sessions related, and then
every operation agrees. Only two operations need more than this: they tell settings of the
machine, which a congruence may leave open.
-/

namespace Datapath

/-- What operations can see of the two machines is the same, but perhaps for settings. -/
structure Machine.LooksLike (left right : Machine) : Prop where
  /-- Of the registers only what they show is seen. -/
  shown : left.registers.get = right.registers.get
  memory : left.memory = right.memory
  flags : left.flags = right.flags
  statistics : left.statistics = right.statistics
  pc : left.pc = right.pc
  cycle : left.cycle = right.cycle

/-- Related sessions look the same, and each change that operations are made of leads from
related sessions to related ones. -/
structure Session.Congruence (related : Session → Session → Prop) : Prop where
  looks (left right : Session) (same : related left right) :
    left.machine.LooksLike right.machine
  /-- To write a register goes on from the other registers as they are. -/
  setRegister (register : RegisterIndex) (value : Word) :
    (Exec.update fun machine =>
      { machine with registers := machine.registers.set register value }).Agrees related
  clearRegisters :
    (Exec.update fun machine =>
      { machine with registers := RegisterFile.cleared }).Agrees related
  setMemory (memory : Memory) :
    (Exec.update fun machine => { machine with memory }).Agrees related
  setFlags (flags : Flags) : (Exec.update fun machine => { machine with flags }).Agrees related
  setPc (pc : Word) : (Exec.update fun machine => { machine with pc }).Agrees related
  count (change : Statistics → Statistics) : (Exec.count change).Agrees related
  emit (event : Event) : (Exec.emit event).Agrees related
  reset : Exec.reset.Agrees related
  save : Exec.save.Agrees related
  restore : Exec.restore.Agrees related

namespace Exec

variable {α β : Type} {related : Session → Session → Prop}

/-! ## What agrees under any relation -/

/-- An action that only answers agrees in sessions however they are related. -/
theorem agrees_pure (value : α) : Agrees related (pure value) :=
  fun _ _ before => .ok value before

/-- To demand that a result is no fault agrees, as the result is the same for both sessions. -/
theorem agrees_require (result : Except Fault α) : Agrees related (require result) := by
  intro left right before
  cases result with
  | ok value => exact .ok value before
  | error fault => exact .error fault before

/-- To look at the machine agrees if what is made of it is the same in related sessions. -/
theorem agrees_look {γ : Type} (view : Machine → γ) (next : γ → Exec α)
    (same : ∀ left right, related left right → view left.machine = view right.machine)
    (further : ∀ seen, (next seen).Agrees related) :
    Agrees related (machine >>= fun found => next (view found)) := by
  intro left right before
  simp only [EStateM.run_bind, run_machine, same left right before]
  exact further _ left right before

/-- To answer with what a look shows agrees if it shows the same in related sessions. -/
theorem agrees_show (view : Machine → α)
    (same : ∀ left right, related left right → view left.machine = view right.machine) :
    Agrees related (do return view (← machine)) :=
  agrees_look view pure same agrees_pure

end Exec

namespace Session.Congruence

open Exec

variable {α : Type} {related : Session → Session → Prop} (congruence : Congruence related)

include congruence

/-! ## Registers and memory -/

/-- Reading a register agrees, since of the registers it uses only what they show. -/
theorem readRegister (index : Int) : (readRegister index).Agrees related :=
  agrees_look (fun found => found.registers.get)
    (fun shown => require ((RegisterFile.slotOf index .read).map shown))
    (fun left right same => (congruence.looks left right same).shown) fun _ => agrees_require _

/-- A raw write to a register agrees: the number alone decides whether there is such a register. -/
theorem pokeRegister (index : Int) (value : Word) : (pokeRegister index value).Agrees related := by
  intro left right before
  simp only [Exec.pokeRegister, EStateM.run_bind, run_machine, run_require, RegisterFile.write]
  cases RegisterFile.slotOf index .write with
  | error fault => exact .error fault before
  | ok register => exact congruence.setRegister register value left right before

/-- Reading memory agrees, since the memories are the same. -/
theorem readMemory (address : Word) : (readMemory address).Agrees related :=
  agrees_look Machine.memory (fun memory => require (memory.read address))
    (fun left right same => (congruence.looks left right same).memory) fun _ => agrees_require _

/-- Writing memory agrees, since the memories are the same and the address alone can be refused. -/
theorem writeMemory (address value : Word) : (writeMemory address value).Agrees related :=
  agrees_look Machine.memory
    (fun memory => do
      let memory ← require (memory.write address value)
      update fun machine => { machine with memory })
    (fun _ _ same => (congruence.looks _ _ same).memory)
    fun _ => (agrees_require _).bind fun memory => congruence.setMemory memory

/-- Writing a result back agrees, whether it is kept or discarded. -/
theorem writeBack (index : Int) (value : Word) : (writeBack index value).Agrees related := by
  unfold Exec.writeBack
  split
  · exact (congruence.count _).bind fun _ => congruence.emit _
  · exact (congruence.pokeRegister index value).bind fun _ => congruence.emit _

/-! ## Instructions -/

/-- An evaluation agrees. The event of an unknown operation tells where the machine is, and that is
the same in related sessions. -/
theorem execute (operation : Alu.Operation) (destination : Int) (a b : Word) (setFlags : Bool) :
    (execute operation destination a b setFlags).Agrees related := by
  refine (agrees_require _).bind fun outcome => ?_
  dsimp only
  split
  case isTrue defect =>
    refine agrees_look (fun found => (found.pc, found.cycle))
      (fun place => do
        Exec.emit (.unknownOperation place.1 place.2 destination)
        Exec.count fun counters => { counters with aluOperations := counters.aluOperations + 1 }
        return outcome) ?_ ?_
    · exact fun _ _ same => by
        rw [(congruence.looks _ _ same).pc, (congruence.looks _ _ same).cycle]
    · exact fun _ => (congruence.emit _).bind fun _ =>
        (congruence.count _).bind fun _ => agrees_pure _
  case isFalse understood =>
    refine (congruence.writeBack destination outcome.result).bind fun _ => ?_
    refine (congruence.count _).bind fun _ => ?_
    split
    · exact (congruence.setFlags _).bind fun _ => (congruence.count _).bind fun _ => agrees_pure _
    · exact agrees_pure _

/-- An instruction on registers agrees, as both its reads and its evaluation do. -/
theorem executeRegisters (operation : Alu.Operation) (destination first second : Int)
    (setFlags : Bool) :
    (executeRegisters operation destination first second setFlags).Agrees related :=
  (congruence.readRegister first).bind fun a => (congruence.readRegister second).bind fun b =>
    congruence.execute operation destination a b setFlags

/-- A load agrees, as its read and its write do. -/
theorem load (destination : Int) (address : Word) : (load destination address).Agrees related :=
  (congruence.readMemory address).bind fun value =>
    (congruence.writeBack destination value).bind fun _ =>
      (congruence.count _).bind fun _ => (congruence.emit _).bind fun _ => agrees_pure _

/-- A store agrees, as its read and its write do. -/
theorem store (source : Int) (address : Word) : (store source address).Agrees related :=
  (congruence.readRegister source).bind fun value =>
    (congruence.writeMemory address value).bind fun _ =>
      (congruence.count _).bind fun _ => congruence.emit _

/-! ## The program counter -/

/-- Advancing agrees, since it sets both program counters to the same word. -/
theorem advance : advance.Agrees related := by
  intro left right before
  have moved := congruence.setPc (left.machine.pc + Machine.stride) left right before
  rw [run_update, run_update] at moved
  rw [Exec.advance, run_update, run_update, ← (congruence.looks _ _ before).pc]
  exact moved

/-- A branch agrees: the target alone decides whether it is allowed. -/
theorem branchTo (target : Word) : (branchTo target).Agrees related :=
  (agrees_require _).bind fun pc => congruence.setPc pc

/-- A relative branch agrees, since it starts from the same program counter. -/
theorem branchRelative (offset : Word) : (branchRelative offset).Agrees related :=
  agrees_look Machine.pc (fun pc => Exec.branchTo (pc + offset * Machine.stride))
    (fun left right same => (congruence.looks left right same).pc) fun pc =>
      congruence.branchTo (pc + offset * Machine.stride)

/-- A conditional branch agrees, since the flags decide alike whether it is taken. -/
theorem branchIf (condition : Condition) (offset : Word) :
    (branchIf condition offset).Agrees related := by
  refine agrees_look (fun found => condition.holds found.flags)
    (fun holds => do
      if holds then Exec.branchRelative offset else Exec.advance
      return holds) ?_ fun holds => ?_
  · exact fun _ _ same => by rw [(congruence.looks _ _ same).flags]
  · cases holds with
    | true => exact (congruence.branchRelative offset).bind fun _ => agrees_pure _
    | false => exact congruence.advance.bind fun _ => agrees_pure _

end Session.Congruence

/-! ## Operations -/

/-- Two register files whose registers show the same are listed alike. -/
theorem RegisterFile.listing_eq_of_shown {left right : RegisterFile}
    (same : left.get = right.get) : left.listing = right.listing := by
  have line : Listing.registerLine left = Listing.registerLine right := by
    funext row
    simp only [Listing.registerLine, Listing.registerColumn, same]
  rw [listing, listing, line]

/-- Two register files whose registers show the same have the same snapshot. -/
theorem RegisterFile.snapshot_eq_of_shown {left right : RegisterFile}
    (same : left.get = right.get) : left.snapshot = right.snapshot := by
  apply Vector.ext
  intro number inside
  calc left.snapshot[number]
    _ = left.get ⟨number, inside⟩ := left.getElem_snapshot ⟨number, inside⟩
    _ = right.get ⟨number, inside⟩ := by rw [same]
    _ = right.snapshot[number] := (right.getElem_snapshot ⟨number, inside⟩).symm

/-- Whether the answer of an operation tells settings that make no difference to execution. -/
def Operation.tellsSettings : Operation → Bool
  | readConfig | listMemory => true
  | _ => false

/-- Every operation that tells no settings agrees under a congruence. -/
theorem Session.Congruence.perform {related : Session → Session → Prop}
    (congruence : Congruence related) (operation : Operation)
    (discreet : operation.tellsSettings = false) : operation.perform.Agrees related := by
  have answers {α : Type} {action : Exec α} (agrees : action.Agrees related)
      (answer : α → Value) : Exec.Agrees related (do return answer (← action)) :=
    agrees.bind fun _ => Exec.agrees_pure _
  cases operation with
  | readRegister index => exact answers (congruence.readRegister index) .word
  | writeBack index value => exact answers (congruence.writeBack index value) fun _ => .done
  | execute operation destination a b setFlags =>
    exact answers (congruence.execute operation destination a b setFlags) .outcome
  | executeRegisters operation destination first second setFlags =>
    exact answers (congruence.executeRegisters operation destination first second setFlags)
      .outcome
  | load destination address => exact answers (congruence.load destination address) .word
  | store source address => exact answers (congruence.store source address) fun _ => .done
  | branchTo target => exact answers (congruence.branchTo target) fun _ => .done
  | branchRelative offset => exact answers (congruence.branchRelative offset) fun _ => .done
  | branchIf condition offset => exact answers (congruence.branchIf condition offset) .truth
  | advance => exact answers congruence.advance fun _ => .done
  | reset => exact answers congruence.reset fun _ => .done
  | pokeRegister index value => exact answers (congruence.pokeRegister index value) fun _ => .done
  | clearRegisters => exact answers congruence.clearRegisters fun _ => .done
  | registerSnapshot =>
    exact Exec.agrees_show (fun found => Value.registers found.registers.snapshot)
      fun _ _ same => by rw [RegisterFile.snapshot_eq_of_shown (congruence.looks _ _ same).shown]
  | readMemory address => exact answers (congruence.readMemory address) .word
  | writeMemory address value =>
    exact answers (congruence.writeMemory address value) fun _ => .done
  | clearMemory => exact answers (congruence.setMemory Memory.empty) fun _ => .done
  | memorySnapshot =>
    exact Exec.agrees_show (fun found => Value.entries found.memory.snapshot)
      fun _ _ same => by rw [(congruence.looks _ _ same).memory]
  | assignFlags flags => exact answers (congruence.setFlags flags) fun _ => .done
  | listRegisters =>
    exact Exec.agrees_show (fun found => Value.text found.registerListing)
      fun _ _ same => by
        rw [Machine.registerListing, Machine.registerListing,
          RegisterFile.listing_eq_of_shown (congruence.looks _ _ same).shown]
  | reportStatistics =>
    exact Exec.agrees_show (fun found => Value.text found.statistics.fullReport)
      fun _ _ same => by rw [(congruence.looks _ _ same).statistics]
  | save => exact answers congruence.save fun _ => .done
  | restore => exact answers congruence.restore .truth
  | fail fault => exact Exec.agrees_require (.error fault)
  | readConfig | listMemory => cases discreet

end Datapath
