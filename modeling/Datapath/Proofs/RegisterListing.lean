import Datapath.Proofs.Congruence
import Datapath.Proofs.Delimiting

/-!
# Register listings show what the registers show

A register listing has sixteen lines, and each of them names two neighbouring registers and shows
their values. No two registers have the same name, and the blanks that fill a name's column up are
no part of any name. So all values are found again in the text, each beside the register that it
belongs to, and listings are equal just if all registers read alike. The slot of the zero register
does not show.
-/

namespace Datapath

open Text

/-! ## Names -/

/-- A name is that of one of two roles or has a number. -/
theorem registerName_cases (number : Nat) :
    (number = 28 ∧ registerName number = "SP") ∨ (number = 31 ∧ registerName number = "XZR") ∨
      registerName number = "X" ++ toString number := by
  unfold registerName
  split
  case isTrue stack => exact .inl ⟨stack, rfl⟩
  case isFalse =>
    split
    case isTrue zero => exact .inr (.inl ⟨zero, rfl⟩)
    case isFalse => exact .inr (.inr rfl)

/-- The stack pointer's name begins unlike that of a numbered register. -/
theorem numbered_ne_stackPointer (number : Nat) : "X" ++ toString number ≠ "SP" := by
  intro same
  have first := congrArg (fun name => name.toList.head?) same
  simp at first

/-- The zero register's name goes on with a letter. -/
theorem numbered_ne_zeroRegister (number : Nat) : "X" ++ toString number ≠ "XZR" := by
  have parts : "XZR" = "X" ++ "ZR" := rfl
  rw [parts, Ne, String.append_right_inj]
  intro same
  have letter : 'Z' ∈ (toString number).toList := by
    rw [same]
    decide
  have digit := isDigit_of_mem_natural letter
  exact absurd digit (by decide)

/-- The number of the register that a name belongs to. -/
def registerNumber (name : String) : Nat :=
  if name = "SP" then 28
  else if name = "XZR" then 31
  else Nat.ofDigitChars 10 name.toList.tail 0

/-- A name is found to belong to its register. -/
theorem registerNumber_registerName (number : Nat) :
    registerNumber (registerName number) = number := by
  rcases registerName_cases number with ⟨rfl, name⟩ | ⟨rfl, name⟩ | name <;>
    rw [registerNumber, name]
  · rfl
  · rfl
  · rw [if_neg (numbered_ne_stackPointer number), if_neg (numbered_ne_zeroRegister number)]
    simp

/-- Registers of different numbers have different names. -/
theorem registerName_inj {left right : Nat} :
    registerName left = registerName right ↔ left = right := by
  refine ⟨fun same => ?_, congrArg registerName⟩
  rw [← registerNumber_registerName left, ← registerNumber_registerName right, same]

/-- A name is made of letters and digits. -/
theorem all_isAlphanum_registerName (number : Nat) :
    (registerName number).toList.all Char.isAlphanum = true := by
  rcases registerName_cases number with ⟨-, name⟩ | ⟨-, name⟩ | name <;> rw [name]
  · rfl
  · rfl
  · rw [String.toList_append, List.all_append, Bool.and_eq_true]
    refine ⟨rfl, List.all_eq_true.2 fun character member => ?_⟩
    rw [Char.isAlphanum, isDigit_of_mem_natural member, Bool.or_true]

/-- A name has no characters but letters and digits, so it has no blank and no line end. -/
theorem notMem_registerName {character : Char} (neither : character.isAlphanum = false)
    (number : Nat) : character ∉ (registerName number).toList := by
  intro member
  have letterOrDigit := List.all_eq_true.1 (all_isAlphanum_registerName number) character member
  rw [neither] at letterOrDigit
  cases letterOrDigit

/-- The names of all registers fit into a column. -/
theorem length_registerName_le (register : RegisterIndex) :
    (registerName register.val).length ≤ 3 := by
  rcases registerName_cases register.val with ⟨-, name⟩ | ⟨-, name⟩ | name <;> rw [name]
  · decide
  · decide
  · have digits : (toString register.val).length ≤ 2 :=
      (Nat.length_repr_le_iff (by decide)).2 (by omega)
    rw [String.length_append]
    exact Nat.add_le_add_left digits 1

/-- A snapshot has what the registers show. -/
theorem RegisterFile.get_snapshot (file : RegisterFile) (register : RegisterIndex) :
    file.snapshot.get register = file.get register :=
  file.getElem_snapshot register

namespace Listing

/-! ## Columns and lines -/

/-- A text that fits is as long as the column once it is filled up. -/
theorem length_padRight {width : Nat} {text : String} (fits : text.length ≤ width) :
    (padRight width text).toList.length = width := by
  rw [String.length_toList, padRight, String.length_append, String.length_ofList,
    List.length_replicate]
  omega

/-- The blanks that fill up a column can be told from a text without blanks. -/
theorem padRight_inj {width : Nat} {left right : String} (noBlank : ' ' ∉ left.toList)
    (alsoNot : ' ' ∉ right.toList) (same : padRight width left = padRight width right) :
    left = right := by
  have unpadded {text : String} (none : ' ' ∉ text.toList) :
      (padRight width text).toList.takeWhile (· ≠ ' ') = text.toList := by
    rw [padRight, String.toList_append, takeWhile_append_of_absent none]
    simp
  rw [← String.toList_inj, ← unpadded noBlank, ← unpadded alsoNot, same]

/-- A register with its value, as they stand in a line. -/
def column (entry : RegisterIndex × Word) : List Char :=
  (padRight 3 (registerName entry.1.val)).toList ++ ": ".toList ++ (Hex.long entry.2).toList

/-- A line with two registers, without its end. -/
def rowLine (entries : (RegisterIndex × Word) × RegisterIndex × Word) : List Char :=
  column entries.1 ++ "    ".toList ++ column entries.2

/-- Every column is twenty-three characters wide: three for the name, two between and eighteen for
the word. -/
theorem length_column (entry : RegisterIndex × Word) : (column entry).length = 23 := by
  have name := length_padRight (length_registerName_le entry.1)
  rw [column, List.length_append, List.length_append, name, Hex.length_long]
  rfl

/-- The register of which the name fills a column so. -/
def readName? (text : List Char) : Option RegisterIndex :=
  (List.finRange 32).find? fun register => (padRight 3 (registerName register.val)).toList = text

/-- Read a register with its value. -/
def readColumn? : List Char → Option (RegisterIndex × Word) :=
  readPair? 3 ": ".toList readName? Hex.readLong?

/-- Read a line with two registers. -/
def readRow? : List Char → Option ((RegisterIndex × Word) × RegisterIndex × Word) :=
  readPair? 23 "    ".toList readColumn? readColumn?

/-- Read the registers with their values off the lines of a listing. -/
def readRegisters? (text : List Char) : Option (List (RegisterIndex × Word)) :=
  ((lines? text).bind (List.mapM readRow?)).map (List.flatMap fun row => [row.1, row.2])

/-- Reading a padded name gives back its register, and no other text is read as this register. -/
theorem readName?_readsBack :
    ReadsBack readName? fun register => (padRight 3 (registerName register.val)).toList := by
  refine ReadsBack.of_find? List.mem_finRange fun left right same => ?_
  have names := padRight_inj (notMem_registerName rfl left.val)
    (notMem_registerName rfl right.val) (String.toList_inj.1 same)
  exact Fin.ext (registerName_inj.1 names)

/-- Reading a column gives back its register and word, and no other text is read as them. -/
theorem readColumn?_readsBack : ReadsBack readColumn? column :=
  readName?_readsBack.pair Hex.readLong?_readsBack
    (fun register => length_padRight (length_registerName_le register)) ": ".toList

/-- Reading a line gives back its two registers with their words, and no other text is read as them.
-/
theorem readRow?_readsBack : ReadsBack readRow? rowLine :=
  readColumn?_readsBack.pair readColumn?_readsBack length_column "    ".toList

/-! ## The lines of a listing -/

/-- The even number of a row is the number of a register. -/
theorem evenNumber_lt (row : Fin 16) : 2 * row.val < 32 := by omega

/-- The odd number of a row is the number of a register. -/
theorem oddNumber_lt (row : Fin 16) : 2 * row.val + 1 < 32 := by omega

/-- The register of an even number and the one after it. -/
def pairOf (row : Fin 16) : RegisterIndex × RegisterIndex :=
  (⟨2 * row.val, evenNumber_lt row⟩, ⟨2 * row.val + 1, oddNumber_lt row⟩)

/-- What the registers of a line show. -/
def rowEntries (file : RegisterFile) (row : Fin 16) :
    (RegisterIndex × Word) × RegisterIndex × Word :=
  (((pairOf row).1, file.get (pairOf row).1), (pairOf row).2, file.get (pairOf row).2)

/-- A listing consists of sixteen lines, each with the entries of its row. -/
theorem toList_listing (file : RegisterFile) :
    file.listing.toList =
      unlines ((List.finRange 16).map fun row => rowLine (rowEntries file row)) := by
  have line (row : Fin 16) :
      (registerLine file row).toList = rowLine (rowEntries file row) ++ ['\n'] := by
    simp [registerLine, registerColumn, rowLine, column, rowEntries, pairOf]
  simp [RegisterFile.listing, unlines, String.toList_join, List.flatMap_map, line]

/-- The line of a row does not end early. -/
theorem newline_notMem_rowLine (entries : (RegisterIndex × Word) × RegisterIndex × Word) :
    '\n' ∉ rowLine entries := by
  have name (register : RegisterIndex) :
      '\n' ∉ (padRight 3 (registerName register.val)).toList := by
    simp [padRight, notMem_registerName]
  simp [rowLine, column, name, Hex.newline_notMem_long]

/-- A listing has sixteen lines, one for each row. -/
theorem lines?_listing (file : RegisterFile) :
    lines? file.listing.toList =
      some ((List.finRange 16).map fun row => rowLine (rowEntries file row)) := by
  rw [toList_listing]
  refine lines?_unlines (by simp [← List.length_eq_zero_iff]) fun line member => ?_
  obtain ⟨row, -, rfl⟩ := List.mem_map.1 member
  exact newline_notMem_rowLine _

/-- All registers are found in the listing in order, and what they show.

Proof: line after line, the registers come in the order of their numbers. -/
theorem readRegisters?_listing (file : RegisterFile) :
    readRegisters? file.listing.toList =
      some ((List.finRange 32).map fun register => (register, file.get register)) := by
  have rows : (List.finRange 16).flatMap (fun row => [(pairOf row).1, (pairOf row).2]) =
      List.finRange 32 := by decide
  have read : List.mapM readRow? ((List.finRange 16).map fun row => rowLine (rowEntries file row)) =
      some ((List.finRange 16).map (rowEntries file)) := by
    refine (readRow?_readsBack.mapM _ _).2 ?_
    rw [List.map_map]
    rfl
  rw [readRegisters?, lines?_listing, Option.bind_some, read, Option.map_some, ← rows,
    List.map_flatMap, List.flatMap_map]
  rfl

/-- The column names a register of this number and shows a value. -/
def ColumnShows (text : List Char) (number : Nat) (value : Word) : Prop :=
  ∃ blanks digits, text =
      (registerName number).toList ++ List.replicate blanks ' ' ++ ": ".toList ++ digits ∧
    (registerName number).length + blanks = 3 ∧ Hex.Shows digits value.toInt

/-- The line shows the two registers of a row, with their values in a snapshot. -/
def RowShows (snapshot : Vector Word 32) (line : List Char) (row : Fin 16) : Prop :=
  ∃ left right, line = left ++ "    ".toList ++ right ∧
    ColumnShows left (2 * row.val) (snapshot.get (pairOf row).1) ∧
    ColumnShows right (2 * row.val + 1) (snapshot.get (pairOf row).2)

/-- The column of a register shows its name and its word. -/
theorem columnShows_column (register : RegisterIndex) (value : Word) :
    ColumnShows (column (register, value)) register.val value := by
  refine ⟨3 - (registerName register.val).length, _, ?_, ?_, Hex.shows_long value⟩
  · rw [column, padRight, String.toList_append, String.toList_ofList]
  · have fits := length_registerName_le register
    omega

/-- The line of a row shows the even register and the odd one after it, as the file shows them. -/
theorem rowShows_rowLine (file : RegisterFile) (row : Fin 16) :
    RowShows file.snapshot (rowLine (rowEntries file row)) row := by
  rw [RowShows, file.get_snapshot, file.get_snapshot]
  exact ⟨_, _, rfl, columnShows_column (pairOf row).1 _, columnShows_column (pairOf row).2 _⟩

end Listing

namespace RegisterFile

/-- A listing says of every register what it reads as, and nothing else. -/
theorem listing_eq_iff {left right : RegisterFile} :
    left.listing = right.listing ↔
      ∀ register : RegisterIndex, left.read register.val = right.read register.val := by
  simp only [read_register, Except.ok.injEq]
  constructor
  · intro same register
    have read := Listing.readRegisters?_listing left
    rw [same, Listing.readRegisters?_listing right, Option.some.injEq, List.map_inj_left] at read
    exact (Prod.mk.inj (read register (List.mem_finRange register))).2.symm
  · exact fun same => listing_eq_of_shown (funext same)

/-- What is written to the zero register does not show. -/
theorem listing_set_zeroRegister (file : RegisterFile) (value : Word) :
    (file.set zeroRegister value).listing = file.listing := by
  refine listing_eq_of_shown (funext fun register => ?_)
  rw [get_set, if_neg fun ⟨same, visible⟩ => visible same.symm]

/-- Whatever was written to a register file, its listing has sixteen lines, and each of them shows
the values of two neighbouring registers as sixteen hexadecimal digits, beside names that fill
three characters. All registers and values of the snapshot are found again in the text. The stack
pointer and the zero register are named for their role, the others by their numbers, and no two
registers alike. So two files have the same listing just if they read alike at all registers,
and what the slot of the zero register holds makes no difference. -/
theorem register_listing_is_faithful :
    (∀ file : RegisterFile,
      (∃ lines, Text.lines? file.listing.toList = some lines ∧ lines.length = 16 ∧
        List.Forall₂ (Listing.RowShows file.snapshot) lines (List.finRange 16)) ∧
      Listing.readRegisters? file.listing.toList =
        some ((List.finRange 32).map fun register => (register, file.snapshot.get register))) ∧
    (registerName 28 = "SP" ∧ registerName 31 = "XZR" ∧
      (∀ number, number ≠ 28 → number ≠ 31 → registerName number = "X" ++ toString number) ∧
      ∀ left right, registerName left = registerName right ↔ left = right) ∧
    (∀ left right : RegisterFile, left.listing = right.listing ↔
      ∀ register : RegisterIndex, left.read register.val = right.read register.val) ∧
    ∀ (file : RegisterFile) (value : Word),
      (file.set zeroRegister value).listing = file.listing := by
  refine ⟨fun file => ⟨⟨_, Listing.lines?_listing file, ?_, ?_⟩, ?_⟩, ⟨rfl, rfl, ?_, ?_⟩, ?_, ?_⟩
  · rw [List.length_map, List.length_finRange]
  · rw [List.forall₂_map_left_iff, List.forall₂_same]
    exact fun row _ => Listing.rowShows_rowLine file row
  · simp only [get_snapshot]
    exact Listing.readRegisters?_listing file
  · intro number notStack notZero
    rcases registerName_cases number with ⟨stack, -⟩ | ⟨zero, -⟩ | name
    · exact absurd stack notStack
    · exact absurd zero notZero
    · exact name
  · exact fun left right => registerName_inj
  · exact fun left right => listing_eq_iff
  · exact listing_set_zeroRegister

/-- A word in the slot of the zero register is listed as if it were not there, beside a number
that is no role. -/
theorem hidden_word_is_not_listed :
    let file := RegisterFile.cleared.set stackPointer (-1)
    let other := file.set zeroRegister 85
    file ≠ other ∧ other.listing = file.listing ∧ registerName 30 = "X30" := by
  intro file other
  obtain ⟨-, ⟨-, -, numbered, -⟩, -, hidden⟩ := register_listing_is_faithful
  exact ⟨by decide, hidden file 85, numbered 30 (by decide) (by decide)⟩

/-- The line of the stack pointer. -/
example : Listing.registerLine (cleared.set stackPointer (-1)) ⟨14, by decide⟩ =
    "SP : 0xffffffffffffffff    X29: 0x0000000000000000\n" := by decide +kernel

end RegisterFile
end Datapath
