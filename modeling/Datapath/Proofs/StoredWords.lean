import Datapath.Memory
import Mathlib.Data.List.DropRight
import Mathlib.Data.List.Induction

/-!
# Memory holds the last writes

The contents of a memory are a partial map of addresses to words, and it is the
requests made of the memory that determine this map: an address has the word of
the last successful write to exactly that address since everything was cleared.
The order of writes to different addresses leaves no trace. `Memory.Represents`
says how all readings of a memory follow from the map.

Addresses are ordered as unsigned words in the tree that holds them. No negative
address is ever stored, so their order is the signed one as well.
-/

namespace Datapath.Memory

/-! ## What a memory shows of its contents -/

/-- Everything that can be read off the memory is determined by the partial map. -/
structure Represents (memory : Memory) (contents : Word → Option Word) : Prop where
  /-- Reading fails at the negative addresses and nowhere else. -/
  refuses : ∀ address fault, memory.read address = .error fault ↔
    address.toInt < 0 ∧ fault = .negativeAddress address
  /-- What was never stored reads as zero. -/
  reads : ∀ address, 0 ≤ address.toInt →
    memory.read address = .ok ((contents address).getD 0)
  ascending : memory.snapshot.Pairwise fun lower higher => lower.1.toInt < higher.1.toInt
  /-- Exactly the contents are listed, an explicit zero like any other word. -/
  lists : ∀ address value, (address, value) ∈ memory.snapshot ↔ contents address = some value
  nonnegative : ∀ address value, contents address = some value → 0 ≤ address.toInt
  size : memory.size = memory.snapshot.length
  isEmpty : memory.isEmpty = true ↔ memory.snapshot = []

/-- Below an address that is not negative both readings give the same order. -/
theorem toInt_lt_of_compare {lower higher : Word} (positive : 0 ≤ higher.toInt)
    (before : compare lower higher = .lt) : lower.toInt < higher.toInt := by
  have unsigned : lower.toNat < higher.toNat :=
    BitVec.lt_def.1 (compareOfLessAndEq_eq_lt.1 before)
  have bound : higher.toNat < 2 ^ 64 := higher.isLt
  rw [BitVec.toInt_eq_toNat_cond] at positive ⊢
  rw [BitVec.toInt_eq_toNat_cond]
  grind

/-- Reading is refused as writing is. -/
theorem read_eq_error_iff {memory : Memory} {address : Word} {fault : Fault} :
    memory.read address = .error fault ↔
      address.toInt < 0 ∧ fault = .negativeAddress address := by
  unfold read
  split
  case isTrue negative => simp [negative, eq_comm]
  case isFalse positive => exact ⟨nofun, fun refused => absurd refused.1 positive⟩

/-- No word is found under a negative address. -/
theorem nonnegative_of_getElem? {memory : Memory} {address value : Word}
    (found : memory.words[address]? = some value) : 0 ≤ address.toInt :=
  memory.nonnegative address (Std.ExtTreeMap.mem_iff_isSome_getElem?.2 (by simp [found]))

/-- A memory represents the map that its tree holds. -/
theorem represents_words (memory : Memory) :
    memory.Represents fun address => memory.words[address]? where
  refuses address fault := read_eq_error_iff
  reads address positive := by
    rw [read, if_neg (Int.not_lt.2 positive), get]
  ascending := by
    have ordered : memory.snapshot.Pairwise fun lower higher =>
        compare lower.1 higher.1 = .lt := Std.ExtTreeMap.ordered_keys_toList
    refine ordered.imp_of_mem fun {lower higher} _ member => toInt_lt_of_compare ?_
    exact nonnegative_of_getElem? (Std.ExtTreeMap.mem_toList_iff_getElem?_eq_some.1 member)
  lists address value := Std.ExtTreeMap.mem_toList_iff_getElem?_eq_some
  nonnegative address value := nonnegative_of_getElem?
  size := Std.ExtTreeMap.length_toList.symm
  isEmpty := by
    rw [isEmpty, ← Std.ExtTreeMap.isEmpty_toList, List.isEmpty_iff]
    rfl

/-! ## What requests put into a memory -/

/-- What a client asks of a memory. -/
inductive Request where
  | read (address : Word)
  | write (address value : Word)
  | clear
deriving DecidableEq, Repr

/-- The memory after a request. Reading changes nothing, and neither does a write that
is refused. -/
def after (memory : Memory) : Request → Memory
  | .read _ => memory
  | .write address value =>
    match memory.write address value with
    | .ok written => written
    | .error _ => memory
  | .clear => empty

/-- The memory that requests leave behind, if the first one is made of a new memory. -/
def replay (requests : List Request) : Memory := requests.foldl after empty

/-- The word that a request puts under an address. A write to a negative address puts none. -/
def Request.puts (address : Word) : Request → Option Word
  | .write target value => if target = address ∧ 0 ≤ target.toInt then some value else none
  | _ => none

/-- The word of the last successful write to an address since the memory was last cleared. -/
def lastWrite (address : Word) (requests : List Request) : Option Word :=
  (requests.rtakeWhile (· ≠ .clear)).findSomeRev? (Request.puts address)

/-- A clear forgets all writes. Any other request counts as the last one if it puts a
word under the address. -/
theorem lastWrite_concat (address : Word) (requests : List Request) (request : Request) :
    lastWrite address (requests ++ [request]) =
      if request = .clear then none else (request.puts address).or (lastWrite address requests) := by
  by_cases clears : request = .clear
  · simp [lastWrite, clears]
  · rw [if_neg clears, lastWrite, List.rtakeWhile_concat, if_pos (by simpa using clears)]
    cases put : request.puts address <;>
      simp [put, lastWrite, List.findSomeRev?_eq_findSome?_reverse]

/-- The tree changes with a request as the last writes do. -/
theorem getElem?_after (memory : Memory) (request : Request) (address : Word) :
    (memory.after request).words[address]? =
      if request = .clear then none else (request.puts address).or memory.words[address]? := by
  cases request with
  | read target => simp [after, Request.puts]
  | clear => simp [after, empty]
  | write target value =>
    rw [if_neg Request.noConfusion]
    by_cases negative : target.toInt < 0
    · have outside : ¬ 0 ≤ target.toInt := Int.not_le.2 negative
      simp [after, write, Request.puts, negative, outside]
    · have inside : 0 ≤ target.toInt := Int.not_lt.1 negative
      simp only [after, write, negative, dite_false, Request.puts, inside, and_true,
        Std.ExtTreeMap.getElem?_insert, Std.LawfulEqCmp.compare_eq_iff_eq]
      split <;> rfl

/-- The tree holds the last writes. -/
theorem getElem?_replay (requests : List Request) (address : Word) :
    (replay requests).words[address]? = lastWrite address requests := by
  induction requests using List.reverseRecOn with
  | nil => simp [replay, empty, lastWrite]
  | append_singleton requests request before =>
    have next : replay (requests ++ [request]) = (replay requests).after request := by
      simp [replay]
    rw [next, getElem?_after, before, lastWrite_concat]

/-! ## Refinement of the last writes -/

/-- Whatever is asked of a new memory, well or badly, it represents the last
successful writes. Requests with the same last writes leave the same memory. -/
theorem memory_represents_last_writes (requests : List Request) :
    ((replay requests).Represents fun address => lastWrite address requests) ∧
    (∀ memory : Memory, ∀ address value,
      (∃ written, memory.write address value = .ok written) ↔ 0 ≤ address.toInt) ∧
    ∀ others, (∀ address, lastWrite address others = lastWrite address requests) →
      replay others = replay requests := by
  refine ⟨?_, ?_, ?_⟩
  · have represented := (replay requests).represents_words
    simpa only [getElem?_replay] using represented
  · intro memory address value
    unfold write
    split
    case isTrue negative => simp [negative]
    case isFalse positive => simpa using positive
  · intro others same
    refine ext_words (Std.ExtTreeMap.ext_getElem? fun address => ?_)
    rw [getElem?_replay, getElem?_replay, same]

/-- A word overwritten by zero, a neighbour written before it, a refused write and a
read leave the memory that the two last writes leave in the other order. -/
theorem overwritten_word_is_zero :
    let requests : List Request :=
      [.write 0 4, .clear, .write 8 1, .write 9 2, .write (-8) 3, .read 16, .write 8 0]
    replay [.write 8 0, .write 9 2] = replay requests ∧
      (replay requests).read 8 = .ok 0 ∧ (8, 0) ∈ (replay requests).snapshot ∧
      (replay requests).read 0 = .ok 0 ∧ ∀ value, (0, value) ∉ (replay requests).snapshot := by
  intro requests
  obtain ⟨represents, _, determined⟩ := memory_represents_last_writes requests
  refine ⟨determined _ ?_, ?_, ?_, ?_, ?_⟩
  · intro address
    by_cases eight : 8#64 = address
    · subst eight
      rfl
    by_cases nine : 9#64 = address
    · subst nine
      rfl
    simp [lastWrite, requests, List.rtakeWhile, List.findSome?_cons, Request.puts, eight, nine]
  · rw [represents.reads 8 (by decide)]
    rfl
  · exact (represents.lists 8 0).2 rfl
  · rw [represents.reads 0 (by decide)]
    rfl
  · intro value listed
    cases (represents.lists 0 value).1 listed

end Datapath.Memory
