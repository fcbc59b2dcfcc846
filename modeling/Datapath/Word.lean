/-!
# Words and the fixed sizes of the architecture

Registers, memory cells, addresses and operands are words of 64 bits. A word has
a signed reading (`BitVec.toInt`) and an unsigned one (`BitVec.toNat`); each
definition that depends on the choice names the reading it takes.
-/

namespace Datapath

/-- A machine word: 64 bits, read as signed or unsigned by the operation at hand. -/
abbrev Word := BitVec 64

/-- The number of bits in a word. -/
def wordBits : Nat := 64

/-- The number of bytes in a word, which is also the alignment of a word address. -/
def wordBytes : Nat := 8

/-- The number of bytes that one instruction takes, hence the stride of the program counter. -/
def instructionBytes : Nat := 4

/-- A shift takes only the low six bits of its amount, so the amount is below the word size. -/
def shiftMask : Word := 63

/-- The number of general-purpose registers. -/
def registerCount : Nat := 32

/-- A register number that names one of the 32 slots. -/
abbrev RegisterIndex := Fin 32

/-- The register that holds the stack pointer. -/
def stackPointer : RegisterIndex := 28

/-- The register that holds the frame pointer. -/
def framePointer : RegisterIndex := 29

/-- The register that holds the return address of a call. -/
def linkRegister : RegisterIndex := 30

/-- The register that reads as zero. -/
def zeroRegister : RegisterIndex := 31

end Datapath
