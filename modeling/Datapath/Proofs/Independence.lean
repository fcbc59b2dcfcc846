import Datapath.Proofs.Footprints

/-!
# Independent transfers commute

A transfer moves a result, a word of memory or a register's content. It writes at most one
register or word, and the flags if it latches them; it reads at most one register or word.
Counters are neither read nor written, only counted up, and counts can be made in any order.

So the footprint of a transfer is the same in two machines that hold the same where it
reads. Of two transfers, neither of which writes what the other one reads or writes, each has
the same answer and the same footprint before and after the other, and where both change a
place they count it up. This gives the same machine in both orders. Addresses need only
differ: words of memory do not overlap.
-/

namespace Datapath

/-! ## What bounds a footprint -/

/-- All changes of the footprint are made where it may write, except that it counts. -/
def Footprint.Within (footprint : Footprint) (writes : Place → Prop) : Prop :=
  ∀ place, footprint place = none ∨ writes place ∨
    ∃ counter, place = .counter counter ∧ footprint place = some .countUp

namespace Footprint

variable {writes : Place → Prop}

/-- The empty footprint is within every bound. -/
theorem within_nothing : nothing.Within writes := fun _ => .inl rfl

/-- Counting up is within every bound, since counts are exempt from it. -/
theorem within_count (counter : Counter) : (count (.counter counter)).Within writes := by
  intro place
  by_cases same : place = .counter counter
  · exact .inr (.inr ⟨counter, same, if_pos same⟩)
  · exact .inl (if_neg same)

/-- A new content is within the bound if its place may be written. -/
theorem within_put {target : Place} {content : Content} (may : writes target) :
    (put target content).Within writes := by
  intro place
  by_cases same : place = target
  · exact .inr (.inl (same ▸ may))
  · exact .inl (if_neg same)

/-- Two footprints within a bound are within it together. -/
theorem Within.and {first second : Footprint} (early : first.Within writes)
    (late : second.Within writes) : (first.and second).Within writes := by
  intro place
  unfold Footprint.and
  obtain absent | may | ⟨counter, same, counts⟩ := early place
  · rw [absent, Option.none_or]
    exact late place
  · exact .inr (.inl may)
  · exact .inr (.inr ⟨counter, same, by rw [counts, Option.some_or]⟩)

/-- A footprint that depends on a result is within a bound if it is for every value that can be
found. -/
theorem within_given {α : Type} (found : Except Fault α) {next : α → Footprint}
    (within : ∀ value, (next value).Within writes) : (given found next).Within writes := by
  cases found with
  | error fault => exact within_nothing
  | ok value => exact within value

/-- The footprint of a result is within a bound under which the visible register that it names may
be written. -/
theorem within_result {index : Int} {value : Word}
    (may : ∀ register : RegisterIndex, index = register.val → register ≠ zeroRegister →
      writes (.slot register)) : (result index value).Within writes := by
  intro place
  obtain untouched | ⟨register, rfl, named, visible⟩ | ⟨discarded, counts⟩ :=
    result_cases index value place
  · exact .inl untouched
  · exact .inr (.inl (may register named visible))
  · exact .inr (.inr ⟨_, discarded, counts⟩)

/-- Two footprints that write apart from each other change a content in any order alike. -/
theorem changed_comm {first second : Footprint} {secondWrites : Place → Prop}
    (early : first.Within writes) (late : second.Within secondWrites)
    (apart : ∀ place, writes place → ¬ secondWrites place)
    (uncounted : ∀ counter, ¬ writes (.counter counter) ∧ ¬ secondWrites (.counter counter))
    (place : Place) (content : Content) :
    (content.changed (first place)).changed (second place) =
      (content.changed (second place)).changed (first place) := by
  obtain absent | written | ⟨counter, rfl, counts⟩ := early place
  · simp only [absent, Content.changed]
  · obtain absent | alsoWritten | ⟨counter, rfl, _⟩ := late place
    · simp only [absent, Content.changed]
    · exact absurd alsoWritten (apart place written)
    · exact absurd written (uncounted counter).1
  · obtain absent | written | ⟨_, _, alsoCounts⟩ := late (.counter counter)
    · simp only [absent, Content.changed]
    · exact absurd written (uncounted counter).2
    · rw [counts, alsoCounts]

end Footprint

/-! ## Transfers -/

/-- An operation that moves a result, a word of memory or a register's content. -/
inductive Transfer where
  | writeBack (index : Int) (value : Word)
  | execute (operation : Alu.Operation) (destination : Int) (a b : Word) (setFlags : Bool)
  | load (destination : Int) (address : Word)
  | store (source : Int) (address : Word)

namespace Transfer

/-- The transfer as an operation. -/
def operation : Transfer → Operation
  | writeBack index value => .writeBack index value
  | execute operation destination a b setFlags => .execute operation destination a b setFlags
  | load destination address => .load destination address
  | store source address => .store source address

/-- The fault that is due for the transfer, whatever the machine holds. -/
def due : Transfer → Option Fault
  | writeBack index _ => Exec.dueForRegister index .write
  | execute operation destination a b _ =>
    (Exec.dueForOperands operation a b).or (Exec.dueForDestination operation destination)
  | load destination address =>
    (Exec.dueForAddress address).or (Exec.dueForRegister destination .write)
  | store source address => (Exec.dueForRegister source .read).or (Exec.dueForAddress address)

/-- The places that the transfer reads. If it fails, it fails for its arguments alone. -/
def Reads (transfer : Transfer) (place : Place) : Prop :=
  transfer.due = none ∧
    match transfer, place with
    | load _ address, .word other => other = address
    | store source _, .slot register => source = register.val ∧ register ≠ zeroRegister
    | _, _ => False

/-- The places that the transfer writes: the register that gets its result, unless this is the
zero register, or the word that it stores, and the flags if it latches them. A transfer that
fails writes nothing, and neither does an operation that is not understood. -/
def Writes (transfer : Transfer) (place : Place) : Prop :=
  transfer.due = none ∧
    match transfer, place with
    | writeBack index _, .slot register | load index _, .slot register =>
      index = register.val ∧ register ≠ zeroRegister
    | execute operation destination _ _ _, .slot register =>
      operation.signalsDecodeDefect = false ∧ destination = register.val ∧ register ≠ zeroRegister
    | execute operation _ _ _ setFlags, .flags =>
      operation.signalsDecodeDefect = false ∧ setFlags = true
    | store _ address, .word other => other = address
    | _, _ => False

/-- Neither of the two writes what the other one reads or writes. -/
structure Independent (first second : Transfer) : Prop where
  writes : ∀ place, first.Writes place → ¬ second.Writes place
  reads : ∀ place, first.Writes place → ¬ second.Reads place
  isRead : ∀ place, second.Writes place → ¬ first.Reads place

/-- What the transfer changes of a machine: nothing if it fails. -/
def footprint (transfer : Transfer) (machine : Machine) : Footprint :=
  if transfer.due = none then transfer.operation.footprint machine else .nothing

/-- What the transfer answers to a machine. -/
def reply (transfer : Transfer) (machine : Machine) : Except Fault Value :=
  match transfer.due with
  | some fault => .error fault
  | none =>
    match transfer with
    | writeBack _ _ | store _ _ => .ok .done
    | execute operation _ a b _ => (Alu.compute operation a b).map .outcome
    | load _ address => (machine.memory.read address).map .word

/-! ### One transfer -/

/-- No transfer writes a counter, it only counts. -/
theorem not_writes_counter (transfer : Transfer) (counter : Counter) :
    ¬ transfer.Writes (.counter counter) := by
  rintro ⟨_, written⟩
  cases transfer <;> exact written

/-- A transfer writes where it may and otherwise only counts. -/
theorem within_footprint (transfer : Transfer) (machine : Machine) :
    (transfer.footprint machine).Within transfer.Writes := by
  unfold footprint
  split
  case isFalse failing => exact Footprint.within_nothing
  case isTrue fine =>
    cases transfer with
    | writeBack index value =>
      exact Footprint.within_result fun register named visible => ⟨fine, named, visible⟩
    | execute operation destination a b setFlags =>
      refine Footprint.within_given _ fun outcome => ?_
      cases defect : operation.signalsDecodeDefect with
      | true => exact Footprint.within_count _
      | false =>
        refine (Footprint.within_result fun register named visible =>
          ⟨fine, defect, named, visible⟩).and ((Footprint.within_count _).and ?_)
        cases setFlags with
        | true => exact (Footprint.within_put ⟨fine, defect, rfl⟩).and (Footprint.within_count _)
        | false => exact Footprint.within_nothing
    | load destination address =>
      refine Footprint.within_given _ fun value => ?_
      exact (Footprint.within_result fun register named visible =>
        ⟨fine, named, visible⟩).and (Footprint.within_count _)
    | store source address =>
      refine Footprint.within_given _ fun value => ?_
      exact (Footprint.within_put ⟨fine, rfl⟩).and (Footprint.within_count _)

section Locality

variable {transfer : Transfer} {left right : Machine}
  (same : ∀ place, transfer.Reads place → left.content place = right.content place)

include same

/-- A load that is not refused reads memory alike in two machines that hold the same where it reads.
-/
theorem read_memory_congr {destination : Int} {address : Word}
    (loads : transfer = .load destination address) (fine : transfer.due = none) :
    left.memory.read address = right.memory.read address := by
  subst loads
  have word : left.memory.find? address = right.memory.find? address :=
    Content.stored.inj (same (.word address) ⟨fine, rfl⟩)
  rw [Memory.find?, Memory.find?] at word
  simp only [Memory.read, Memory.get, word]

/-- A store that is not refused reads its source alike in two machines that hold the same where it
reads. -/
theorem read_registers_congr {source : Int} {address : Word}
    (stores : transfer = .store source address) (fine : transfer.due = none) :
    left.registers.read source = right.registers.read source := by
  subst stores
  unfold RegisterFile.read
  cases named : RegisterFile.slotOf source .read with
  | error fault => rfl
  | ok register =>
    have shown : left.registers.get register = right.registers.get register := by
      by_cases hidden : register = zeroRegister
      · simp [RegisterFile.get, hidden]
      · have slot := Content.value.inj (same (.slot register)
          ⟨fine, RegisterFile.slotOf_eq_ok_iff.1 named, hidden⟩)
        rw [RegisterFile.get, RegisterFile.get, if_neg hidden, if_neg hidden]
        exact slot
    simp only [Except.map, shown]

/-- The footprint of a transfer depends on nothing but what it reads. -/
theorem footprint_congr : transfer.footprint left = transfer.footprint right := by
  unfold footprint
  split
  case isFalse failing => rfl
  case isTrue fine =>
    cases transfer with
    | writeBack index value => rfl
    | execute operation destination a b setFlags => rfl
    | load destination address =>
      simp only [operation, Operation.footprint, read_memory_congr same rfl fine]
    | store source address =>
      simp only [operation, Operation.footprint, read_registers_congr same rfl fine]

/-- The answer of a transfer depends on nothing but what it reads. -/
theorem reply_congr : transfer.reply left = transfer.reply right := by
  cases fine : transfer.due with
  | some fault => simp only [reply, fine]
  | none =>
    cases transfer with
    | load destination address => simp only [reply, fine, read_memory_congr same rfl fine]
    | _ => rfl

end Locality

/-- A transfer fails with the fault that is due for it. -/
theorem failsWith (transfer : Transfer) :
    Exec.FailsWith transfer.operation.perform transfer.due := by
  cases transfer with
  | writeBack index value =>
    exact (Exec.failsWith_writeBack index value).then_total fun _ => Exec.total_pure _
  | execute operation destination a b setFlags =>
    exact (Exec.failsWith_execute operation destination a b setFlags).then_total
      fun _ => Exec.total_pure _
  | load destination address =>
    exact (Exec.failsWith_load destination address).then_total fun _ => Exec.total_pure _
  | store source address =>
    exact (Exec.failsWith_store source address).then_total fun _ => Exec.total_pure _

/-- A success answers what the machine before determines. -/
theorem reply_of_effect {transfer : Transfer} {machine after : Machine} {value : Value}
    (fine : transfer.due = none)
    (effect : Operation.Effect machine transfer.operation value after) :
    transfer.reply machine = .ok value := by
  simp only [reply, fine]
  cases transfer with
  | writeBack index value =>
    cases effect with
    | observed observes => cases observes
    | wroteBack register value => rfl
  | execute operation destination a b setFlags =>
    cases effect with
    | observed observes => cases observes
    | dropped computed defect => simp only [computed, Except.map]
    | executed register setFlags computed understood => simp only [computed, Except.map]
  | load destination address =>
    cases effect with
    | observed observes => cases observes
    | loaded register found => simp only [found, Except.map]
  | store source address =>
    cases effect with
    | observed observes => cases observes
    | stored register written => rfl

/-- Well or badly, a transfer leaves a machine that differs from the one before by its
footprint, and its answer is the one that the machine before determines. -/
theorem fits_final (transfer : Transfer) (session : Session) :
    transfer.operation.answer session = transfer.reply session.machine ∧
      (transfer.footprint session.machine).Fits session.machine
        (transfer.operation.perform.final session).machine := by
  have other : transfer.operation ≠ .reset := by cases transfer <;> nofun
  cases due : transfer.due with
  | some fault =>
    obtain ⟨after, failed⟩ := (transfer.failsWith session fault).2 due
    have unchanged := transfer.operation.atomic_perform other session fault after failed
    rw [Exec.final_of_error failed, unchanged]
    constructor
    · simp only [Operation.answer, failed, reply, due]
    · simp only [footprint, due, reduceCtorEq, if_false]
      exact Footprint.fits_nothing session.machine
  | none =>
    obtain ⟨value, after, ran⟩ := (due ▸ transfer.failsWith).total session
    have effect := Operation.effect_of_ok transfer.operation ran
    have stays : (Happening.performed transfer.operation (.ok value)).replaces = false := by
      cases transfer <;> rfl
    rw [Exec.final_of_ok ran]
    constructor
    · rw [Operation.answer, ran]
      exact (reply_of_effect due effect).symm
    · rw [footprint, if_pos due]
      exact effect.fits stays

/-! ## Two transfers -/

/-- Independence does not depend on which of the two transfers is called the first. -/
theorem Independent.symm {first second : Transfer} (independent : first.Independent second) :
    second.Independent first :=
  ⟨fun place written also => independent.writes place also written, independent.isRead,
    independent.reads⟩

/-- Where a transfer reads, an independent one leaves things as they are. -/
theorem Independent.kept {first second : Transfer} (independent : first.Independent second)
    (session : Session) (place : Place) (read : first.Reads place) :
    (second.operation.perform.final session).machine.content place =
      session.machine.content place := by
  obtain ⟨_, fits⟩ := second.fits_final session
  obtain untouched | written | ⟨counter, rfl, _⟩ :=
    second.within_footprint session.machine place
  · rw [fits place, untouched]
    rfl
  · exact absurd read (independent.isRead place written)
  · obtain ⟨_, read⟩ := read
    cases first <;> cases read

/-! ### Words and registers -/

section Places

variable {index : Int} {address : Word} {place : Place}

/-- A store writes no place but the word under its address. -/
theorem eq_word_of_writes (written : (store index address).Writes place) :
    place = .word address := by
  obtain ⟨_, written⟩ := written
  cases place with
  | word other => exact congrArg Place.word written
  | _ => cases written

/-- A load reads no place but the word under its address. -/
theorem eq_word_of_reads (read : (load index address).Reads place) : place = .word address := by
  obtain ⟨_, read⟩ := read
  cases place with
  | word other => exact congrArg Place.word read
  | _ => cases read

/-- A load writes no place but the slot of the register that it names. -/
theorem eq_slot_of_writes (written : (load index address).Writes place) :
    ∃ register : RegisterIndex, place = .slot register ∧ index = register.val := by
  obtain ⟨_, written⟩ := written
  cases place with
  | slot register => exact ⟨register, rfl, written.1⟩
  | _ => cases written

/-- A store reads no place but the slot of the register that it names. -/
theorem eq_slot_of_reads (read : (store index address).Reads place) :
    ∃ register : RegisterIndex, place = .slot register ∧ index = register.val := by
  obtain ⟨_, read⟩ := read
  cases place with
  | slot register => exact ⟨register, rfl, read.1⟩
  | _ => cases read

end Places

/-- Stores under different addresses are independent. -/
theorem independent_stores {address other : Word} (different : address ≠ other)
    (source register : Int) : (store source address).Independent (store register other) where
  writes place written also := by
    obtain rfl := eq_word_of_writes written
    exact different (Place.word.inj (eq_word_of_writes also))
  reads place written read := by
    obtain rfl := eq_word_of_writes written
    obtain ⟨_, slot, _⟩ := eq_slot_of_reads read
    cases slot
  isRead place written read := by
    obtain rfl := eq_word_of_writes written
    obtain ⟨_, slot, _⟩ := eq_slot_of_reads read
    cases slot

/-- A store is independent of a load from a different address into a different register. -/
theorem independent_store_load {address other : Word} (different : address ≠ other)
    {source destination : Int} (apart : source ≠ destination) :
    (store source address).Independent (load destination other) where
  writes place written also := by
    obtain rfl := eq_word_of_writes written
    obtain ⟨_, slot, _⟩ := eq_slot_of_writes also
    cases slot
  reads place written read := by
    obtain rfl := eq_word_of_writes written
    exact different (Place.word.inj (eq_word_of_reads read))
  isRead place written read := by
    obtain ⟨register, rfl, target⟩ := eq_slot_of_writes written
    obtain ⟨_, slot, named⟩ := eq_slot_of_reads read
    cases slot
    exact apart (named.trans target.symm)

end Transfer

open Transfer in
/-- Two transfers, neither of which writes a register that the other reads or writes or a word
that the other loads or stores, and which do not both latch the flags, can be made in either
order: each has the same answer, or fails with the same fault, and the machines in the end are
the same in all their parts. For words it is enough that the addresses differ, however near
they are: two stores are then independent, and so are a store and a load of another register. -/
theorem independent_transfers_commute :
    (∀ first second : Transfer, first.Independent second → ∀ session : Session,
      let afterFirst := first.operation.perform.final session
      let afterSecond := second.operation.perform.final session
      first.operation.answer afterSecond = first.operation.answer session ∧
      second.operation.answer afterFirst = second.operation.answer session ∧
      (second.operation.perform.final afterFirst).machine =
        (first.operation.perform.final afterSecond).machine) ∧
    ∀ address other : Word, address ≠ other → ∀ source register : Int,
      (store source address).Independent (store register other) ∧
      (source ≠ register → (store source address).Independent (load register other)) := by
  constructor
  · intro first second independent session afterFirst afterSecond
    obtain ⟨firstAnswer, firstFits⟩ := first.fits_final session
    obtain ⟨secondAnswer, secondFits⟩ := second.fits_final session
    obtain ⟨firstAgain, firstLater⟩ := first.fits_final afterSecond
    obtain ⟨secondAgain, secondLater⟩ := second.fits_final afterFirst
    have firstKept : ∀ place, first.Reads place →
        afterSecond.machine.content place = session.machine.content place :=
      independent.kept session
    have secondKept : ∀ place, second.Reads place →
        afterFirst.machine.content place = session.machine.content place :=
      independent.symm.kept session
    refine ⟨?_, ?_, Machine.ext_content fun place => ?_⟩
    · rw [firstAgain, firstAnswer, reply_congr firstKept]
    · rw [secondAgain, secondAnswer, reply_congr secondKept]
    · rw [secondLater place, firstFits place, firstLater place, secondFits place,
        footprint_congr firstKept, footprint_congr secondKept]
      exact Footprint.changed_comm (first.within_footprint session.machine)
        (second.within_footprint session.machine) independent.writes
        (fun counter => ⟨first.not_writes_counter counter, second.not_writes_counter counter⟩)
        place _
  · intro address other different source register
    exact ⟨independent_stores different source register, independent_store_load different⟩

/-- A register is stored and another one is loaded from four bytes further on, where a word
lies. The load finds it in both orders, and the machines in the end are the same. -/
theorem near_store_and_load_commute :
    let session : Session := { machine := { registers := RegisterFile.cleared.set 3 7 } }
    let before := (Exec.writeMemory 12 9).final session
    let store : Operation := .store 3 8
    let load : Operation := .load 5 12
    load.answer (store.perform.final before) = .ok (.word 9) ∧
      load.answer before = .ok (.word 9) ∧
      (load.perform.final (store.perform.final before)).machine =
        (store.perform.final (load.perform.final before)).machine := by
  intro session before store load
  have independent : (Transfer.store 3 8).Independent (.load 5 12) :=
    (independent_transfers_commute.2 8 12 (by decide) 3 5).2 (by decide)
  obtain ⟨_, sameAnswer, sameMachine⟩ :=
    independent_transfers_commute.1 _ _ independent before
  have answered : load.answer before = .ok (.word 9) := by decide +kernel
  exact ⟨sameAnswer.trans answered, answered, sameMachine⟩

end Datapath
