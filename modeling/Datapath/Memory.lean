import Datapath.Fault
import Std.Data.ExtTreeMap

/-!
# Data memory

Memory maps addresses to words. An address selects exactly the word stored under
it: neighbouring and misaligned addresses are unrelated. A word that was never
stored reads as zero, yet a stored zero is kept and listed. Addresses whose
signed reading is negative are refused, so none is ever stored, and the order of
the addresses is the same under both readings.
-/

namespace Datapath

/-- A finite map from addresses to words. Two memories with the same stored
words are equal, whatever the order of the writes. -/
structure Memory where
  words : Std.ExtTreeMap Word Word
  nonnegative : ∀ address ∈ words, 0 ≤ address.toInt

namespace Memory

/-- Memory in which nothing is stored. -/
def empty : Memory where
  words := ∅
  nonnegative _ stored := absurd stored Std.ExtTreeMap.not_mem_empty

instance : Inhabited Memory := ⟨empty⟩

/-- Memories are told apart by their stored words alone. -/
theorem ext_words {left right : Memory} (same : left.words = right.words) : left = right := by
  cases left
  cases right
  cases same
  rfl

/-- The word stored under an address, if one is. -/
def find? (memory : Memory) (address : Word) : Option Word := memory.words[address]?

/-- The word stored under an address, or zero. -/
def get (memory : Memory) (address : Word) : Word := memory.words[address]?.getD 0

/-- Read the word under an address. -/
def read (memory : Memory) (address : Word) : Except Fault Word :=
  if address.toInt < 0 then .error (.negativeAddress address) else .ok (memory.get address)

/-- Store a word under an address. -/
def write (memory : Memory) (address value : Word) : Except Fault Memory :=
  if negative : address.toInt < 0 then
    .error (.negativeAddress address)
  else
    .ok {
      words := memory.words.insert address value
      nonnegative := by
        intro stored isStored
        rcases Std.ExtTreeMap.mem_insert.1 isStored with equal | before
        · rw [← Std.LawfulEqOrd.eq_of_compare equal]
          omega
        · exact memory.nonnegative stored before }

/-- The stored words with their addresses, by ascending address. -/
def snapshot (memory : Memory) : List (Word × Word) := memory.words.toList

/-- The number of stored words, explicit zeros included. -/
def size (memory : Memory) : Nat := memory.words.size

/-- Whether nothing is stored. -/
def isEmpty (memory : Memory) : Bool := memory.words.isEmpty

/-- Only a negative address is refused. -/
theorem write_eq_error_iff {memory : Memory} {address value : Word} {fault : Fault} :
    memory.write address value = .error fault ↔
      address.toInt < 0 ∧ fault = .negativeAddress address := by
  unfold write
  split <;> simp_all [eq_comm]

end Memory
end Datapath
