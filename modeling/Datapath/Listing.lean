import Datapath.Memory
import Datapath.RegisterFile

/-!
# Listings of registers and memory

A register listing has sixteen lines with two registers each. A memory listing
has one line for each stored word that its filter lets through, by ascending
address, and says so when there is none. Words are written with all sixteen
hexadecimal digits, so columns line up.
-/

namespace Datapath

/-- The name of a register in assembly text. Two registers are named for their
role; numbers beyond the register file are named like the others. -/
def registerName (number : Nat) : String :=
  if number = stackPointer.val then "SP"
  else if number = zeroRegister.val then "XZR"
  else "X" ++ toString number

namespace Listing

/-- A text followed by as many blanks as it takes to fill a column. -/
def padRight (width : Nat) (text : String) : String :=
  text ++ String.ofList (List.replicate (width - text.length) ' ')

/-- Which stored words a memory listing shows. -/
structure Filter where
  /-- Leave out words that are zero. -/
  nonzeroOnly : Bool := true
  /-- Leave out addresses that are no multiple of the word size. -/
  alignedOnly : Bool := true
deriving DecidableEq, Repr

/-- Whether the filter lets a stored word through. -/
def Filter.admits (filter : Filter) (entry : Word × Word) : Bool :=
  (!filter.nonzeroOnly || entry.2 != 0) &&
    (!filter.alignedOnly || entry.1.toNat % wordBytes == 0)

/-- A register's name and value as they stand in a line. -/
def registerColumn (file : RegisterFile) (register : RegisterIndex) : String :=
  padRight 3 (registerName register.val) ++ ": " ++ Text.Hex.long (file.get register)

/-- The line of two neighbouring registers, the first of which has an even number. -/
def registerLine (file : RegisterFile) (row : Fin 16) : String :=
  registerColumn file ⟨2 * row.val, by omega⟩ ++ "    " ++
    registerColumn file ⟨2 * row.val + 1, by omega⟩ ++ "\n"

/-- The line of a stored word. -/
def memoryLine (entry : Word × Word) : String :=
  Text.Hex.long entry.1 ++ ": " ++ Text.Hex.long entry.2 ++ "\n"

/-- The text of listed words, or a line that says there is none. -/
def memoryText (entries : List (Word × Word)) : String :=
  if entries.isEmpty then "(empty)\n" else String.join (entries.map memoryLine)

end Listing

/-- All registers as text, two to a line. -/
def RegisterFile.listing (file : RegisterFile) : String :=
  String.join ((List.finRange 16).map (Listing.registerLine file))

/-- The stored words that a filter lets through, by ascending address. -/
def Memory.entries (memory : Memory) (filter : Listing.Filter) : List (Word × Word) :=
  memory.snapshot.filter filter.admits

/-- The stored words that a filter lets through, as text. -/
def Memory.listing (memory : Memory) (filter : Listing.Filter) : String :=
  Listing.memoryText (memory.entries filter)

end Datapath
