import Datapath.Proofs.StoredWords
import Datapath.Proofs.TextReading
import Mathlib.Data.List.Sort

/-!
# Memory listings show what they claim to

The text of a memory listing can be read back, and no text but that of a listing can be. What is
found in it are the stored words that the filter lets through, by ascending address, and
nothing else. A word that is zero reads as if it had never been stored, so it is no loss to leave
it out: two listings without zeros are equal just if the two memories read alike.
-/

namespace Datapath

namespace Listing

open Text

/-! ## Reading a listing -/

/-- The line of a stored word without its end. -/
def entryLine (entry : Word × Word) : List Char :=
  (Hex.long entry.1).toList ++ ": ".toList ++ (Hex.long entry.2).toList

/-- Read the line of a stored word. -/
def readLine? (line : List Char) : Option (Word × Word) :=
  if (line.drop 18).take 2 = ": ".toList then do
    let address ← Hex.readLong? (line.take 18)
    let value ← Hex.readLong? (line.drop 20)
    return (address, value)
  else none

/-- Reading a line gives back the entry that it was written for, and no other text is read as this
entry. -/
theorem readLine?_readsBack : ReadsBack readLine? entryLine :=
  Hex.readLong?_readsBack.pair Hex.readLong?_readsBack Hex.length_long ": ".toList

/-- Read a listing. -/
def readMemory? (text : List Char) : Option (List (Word × Word)) :=
  if text = "(empty)\n".toList then some []
  else (lines? text).bind (List.mapM readLine?)

/-- Listed words stand one below the other. -/
theorem toList_memoryText {entries : List (Word × Word)} (present : entries ≠ []) :
    (memoryText entries).toList = unlines (entries.map entryLine) := by
  have line (entry : Word × Word) : (memoryLine entry).toList = entryLine entry ++ ['\n'] := by
    simp [memoryLine, entryLine]
  simp [memoryText, present, unlines, String.toList_join, List.flatMap_map, line]

/-- The line of a stored word does not end early. -/
theorem newline_notMem_entryLine (entry : Word × Word) : '\n' ∉ entryLine entry := by
  simp [entryLine, Hex.newline_notMem_long]

/-- A listing that shows any words has one line for each of them. -/
theorem lines?_memoryText {entries : List (Word × Word)} (present : entries ≠ []) :
    lines? (memoryText entries).toList = some (entries.map entryLine) := by
  rw [toList_memoryText present]
  refine lines?_unlines (by simpa using present) fun line member => ?_
  obtain ⟨entry, _, rfl⟩ := List.mem_map.1 member
  exact newline_notMem_entryLine entry

/-- No line of a listing says that there is none. -/
theorem memoryText_ne_empty {entries : List (Word × Word)} (present : entries ≠ []) :
    (memoryText entries).toList ≠ "(empty)\n".toList := by
  intro same
  have lines := lines?_memoryText present
  have single : lines? "(empty)\n".toList = some ["(empty)".toList] := by decide
  rw [same, single] at lines
  cases entries with
  | nil => exact present rfl
  | cons first rest =>
    have line : "(empty)".toList = entryLine first := by
      simp only [List.map_cons, Option.some.injEq, List.cons.injEq] at lines
      exact lines.1
    have refused : readLine? "(empty)".toList = none := by decide
    rw [(readLine?_readsBack _ first).2 line] at refused
    cases refused

/-- Listings are read back, and nothing else is. -/
theorem readMemory?_readsBack :
    ReadsBack readMemory? fun entries => (memoryText entries).toList := by
  intro text entries
  constructor
  · intro accepted
    unfold readMemory? at accepted
    split at accepted
    case isTrue nothing =>
      obtain rfl := Option.some.inj accepted
      exact nothing
    case isFalse =>
      obtain ⟨lines, found, read⟩ := Option.bind_eq_some_iff.1 accepted
      obtain ⟨present, rfl⟩ := unlines_of_lines? found
      obtain rfl := (readLine?_readsBack.mapM lines entries).1 read
      exact (toList_memoryText (by simpa using present)).symm
  · intro written
    rw [written]
    unfold readMemory?
    by_cases nothing : entries = []
    · subst nothing
      rfl
    · rw [if_neg (memoryText_ne_empty nothing), lines?_memoryText nothing]
      exact (readLine?_readsBack.mapM _ entries).2 rfl

/-- The line shows a stored word: its address, a colon and a blank, its value. -/
def LineShows (line : List Char) (entry : Word × Word) : Prop :=
  ∃ address value, line = address ++ ": ".toList ++ value ∧
    Hex.Shows address entry.1.toInt ∧ Hex.Shows value entry.2.toInt

/-- The line of an entry shows its address and its word in long form. -/
theorem lineShows_entryLine (entry : Word × Word) : LineShows (entryLine entry) entry :=
  ⟨_, _, rfl, Hex.shows_long entry.1, Hex.shows_long entry.2⟩

end Listing

namespace Memory

/-! ## What a listing lists -/

/-- The filter lets a word through if it is not left out by either condition. -/
theorem mem_entries (memory : Memory) (filter : Listing.Filter) (address value : Word) :
    (address, value) ∈ memory.entries filter ↔ (address, value) ∈ memory.snapshot ∧
      (filter.nonzeroOnly = true → value ≠ 0) ∧
      (filter.alignedOnly = true → 8 ∣ address.toInt) := by
  rw [entries, List.mem_filter]
  refine and_congr_right fun stored => ?_
  have represented := memory.represents_words
  have nonnegative : 0 ≤ address.toInt :=
    represented.nonnegative address value ((represented.lists address value).1 stored)
  have reading : address.toInt = address.toNat := by
    rw [BitVec.toInt_eq_toNat_cond] at nonnegative ⊢
    have bound : address.toNat < 2 ^ 64 := address.isLt
    grind
  have aligned : 8 ∣ address.toInt ↔ address.toNat % 8 = 0 := by omega
  rw [aligned]
  cases nonzero : filter.nonzeroOnly <;> cases grid : filter.alignedOnly <;>
    simp [Listing.Filter.admits, nonzero, grid, wordBytes]

/-- The order of addresses is kept. -/
theorem entries_ascending (memory : Memory) (filter : Listing.Filter) :
    (memory.entries filter).Pairwise fun lower higher => lower.1.toInt < higher.1.toInt :=
  memory.represents_words.ascending.filter filter.admits

/-- Listings with the same words are equal. -/
theorem entries_eq_of_mem_iff {left right : Memory} {filter : Listing.Filter}
    (same : ∀ entry, entry ∈ left.entries filter ↔ entry ∈ right.entries filter) :
    left.entries filter = right.entries filter := by
  have distinct (memory : Memory) : (memory.entries filter).Nodup :=
    (memory.entries_ascending filter).imp fun lower equal => by
      rw [equal] at lower
      exact Int.lt_irrefl _ lower
  refine List.Perm.eq_of_pairwise ?_ (left.entries_ascending filter)
    (right.entries_ascending filter) ?_
  · intro lower higher _ _ below above
    omega
  · exact (List.perm_ext_iff_of_nodup (distinct left) (distinct right)).2 same

/-! ## Memories that read alike -/

/-- Nothing is stored under an address that cannot be read. -/
theorem get_of_negative {address : Word} (negative : address.toInt < 0) (memory : Memory) :
    memory.get address = 0 := by
  cases found : memory.words[address]? with
  | none => rw [get, found, Option.getD_none]
  | some value =>
    have nonnegative := nonnegative_of_getElem? found
    omega

/-- Memories read alike if they hold the same words, where an explicit zero counts for nothing. -/
theorem read_eq_iff_get_eq {left right : Memory} :
    (∀ address, left.read address = right.read address) ↔
      ∀ address, left.get address = right.get address := by
  refine forall_congr' fun address => ?_
  unfold read
  split
  case isTrue negative => simp [get_of_negative negative]
  case isFalse => exact ⟨Except.ok.inj, congrArg Except.ok⟩

/-- A listing without zeros has the words that are read and are not zero. -/
theorem mem_nonzero_entries (memory : Memory) (address value : Word) :
    (address, value) ∈ memory.entries { nonzeroOnly := true, alignedOnly := false } ↔
      memory.get address = value ∧ value ≠ 0 := by
  rw [mem_entries, memory.represents_words.lists, get]
  cases memory.words[address]? with
  | none =>
    constructor
    · rintro ⟨⟨⟩, _⟩
    · rintro ⟨rfl, nonzero⟩
      exact absurd rfl nonzero
  | some stored => simp

/-- Memories are listed alike without their zeros just if they read alike at every address. -/
theorem nonzero_entries_eq_iff {left right : Memory} :
    left.entries { nonzeroOnly := true, alignedOnly := false } =
        right.entries { nonzeroOnly := true, alignedOnly := false } ↔
      ∀ address, left.read address = right.read address := by
  rw [read_eq_iff_get_eq]
  constructor
  · intro same address
    have agree (value : Word) : left.get address = value ∧ value ≠ 0 ↔
        right.get address = value ∧ value ≠ 0 := by
      rw [← mem_nonzero_entries, ← mem_nonzero_entries, same]
    by_cases zero : left.get address = 0
    · by_contra different
      have other : right.get address ≠ 0 := fun also => different (zero.trans also.symm)
      exact different ((agree _).2 ⟨rfl, other⟩).1
    · exact ((agree _).1 ⟨rfl, zero⟩).1.symm
  · intro same
    refine entries_eq_of_mem_iff ?_
    rintro ⟨address, value⟩
    rw [mem_nonzero_entries, mem_nonzero_entries, same]

/-- A listing has exactly the stored words that its filter lets through, by ascending address,
and they are found again in its text. The text says that there is none just if there is none,
and otherwise has a line for each word in turn, with address and value as sixteen lower-case
digits of their two's complement. Without zeros, and with all addresses let through, two
memories have the same text just if they read alike everywhere. -/
theorem memory_listing_is_faithful :
    (∀ (memory : Memory) (filter : Listing.Filter),
      (∀ address value, (address, value) ∈ memory.entries filter ↔
        (address, value) ∈ memory.snapshot ∧ (filter.nonzeroOnly = true → value ≠ 0) ∧
          (filter.alignedOnly = true → 8 ∣ address.toInt)) ∧
      ((memory.entries filter).Pairwise fun lower higher => lower.1.toInt < higher.1.toInt) ∧
      (∀ entries, Listing.readMemory? (memory.listing filter).toList = some entries ↔
        entries = memory.entries filter) ∧
      (memory.listing filter = "(empty)\n" ↔ memory.entries filter = []) ∧
      (memory.entries filter ≠ [] →
        ∃ lines, Text.lines? (memory.listing filter).toList = some lines ∧
          List.Forall₂ Listing.LineShows lines (memory.entries filter))) ∧
    ∀ left right : Memory,
      left.listing { nonzeroOnly := true, alignedOnly := false } =
          right.listing { nonzeroOnly := true, alignedOnly := false } ↔
        ∀ address, left.read address = right.read address := by
  have textOf {left right : List (Word × Word)} :
      Listing.memoryText left = Listing.memoryText right ↔ left = right := by
    rw [← String.toList_inj]
    exact Listing.readMemory?_readsBack.write_inj
  constructor
  · intro memory filter
    refine ⟨memory.mem_entries filter, memory.entries_ascending filter, ?_, ?_, ?_⟩
    · intro entries
      rw [Listing.readMemory?_readsBack, listing, String.toList_inj, textOf, eq_comm]
    · have none : "(empty)\n" = Listing.memoryText [] := rfl
      rw [none, listing, textOf]
    · intro present
      refine ⟨_, Listing.lines?_memoryText present, ?_⟩
      rw [List.forall₂_map_left_iff, List.forall₂_same]
      exact fun entry _ => Listing.lineShows_entryLine entry
  · intro left right
    rw [listing, listing, textOf, nonzero_entries_eq_iff]

/-- Of a negative word, a word off the grid and an explicit zero, only the first one is listed by
default. Where the zero never was, everything reads the same. -/
theorem only_negative_word_is_listed :
    let memory := replay [.write 8 (-1), .write 13 5, .write 16 0]
    let without := replay [.write 13 5, .write 8 0, .write 8 (-1)]
    memory.entries {} ≠ [] ∧
      memory.listing {} = "0x0000000000000008: 0xffffffffffffffff\n" ∧
      Listing.readMemory? (memory.listing {}).toList = some [(8, -1)] ∧
      (∃ lines, Text.lines? (memory.listing {}).toList = some lines ∧
        List.Forall₂ Listing.LineShows lines [(8, -1)]) ∧
      memory.snapshot ≠ without.snapshot ∧
      ∀ address, memory.read address = without.read address := by
  intro memory without
  have listed : memory.entries {} = [(8, -1)] := by decide +kernel
  have present : memory.entries {} ≠ [] := by
    rw [listed]
    nofun
  have text : memory.listing {} = "0x0000000000000008: 0xffffffffffffffff\n" := by decide +kernel
  have hidden : memory.snapshot ≠ without.snapshot := by decide +kernel
  obtain ⟨faithful, observable⟩ := memory_listing_is_faithful
  obtain ⟨_, _, found, _, shown⟩ := faithful memory {}
  refine ⟨present, text, ?_, ?_, hidden, (observable memory without).1 (by decide +kernel)⟩
  · exact (found [(8, -1)]).2 listed.symm
  · have lines := shown present
    rwa [listed] at lines

end Memory
end Datapath
