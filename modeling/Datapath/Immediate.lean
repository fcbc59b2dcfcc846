import Datapath.Fault

/-!
# Immediates

An instruction carries its immediate in a field of fewer bits than a word. The
field is the low end of an integer of one of four types. Extension reads the
field as a two's complement number, so the bits above it never matter and the
four types agree wherever their low bits do.
-/

namespace Datapath

/-- An integer out of which an immediate's field is taken. -/
inductive Immediate where
  | int32 (value : Int32)
  | uint32 (value : UInt32)
  | int64 (value : Int64)
  | uint64 (value : UInt64)

namespace Immediate

/-- The number of bits of the integer's type. -/
def width : Immediate → Nat
  | int32 _ | uint32 _ => 32
  | int64 _ | uint64 _ => 64

/-- The integer itself. -/
def value : Immediate → Int
  | int32 value => value.toInt
  | uint32 value => value.toNat
  | int64 value => value.toInt
  | uint64 value => value.toNat

/-- The integer's own bits, with zeros above them. -/
def rawBits : Immediate → Word
  | int32 value => value.toBitVec.setWidth 64
  | uint32 value => value.toBitVec.setWidth 64
  | int64 value => value.toBitVec
  | uint64 value => value.toBitVec

/-- The integer's own bits read as two's complement, whether or not its type is signed. -/
def toWord : Immediate → Word
  | int32 value => value.toBitVec.signExtend 64
  | uint32 value => value.toBitVec.signExtend 64
  | int64 value => value.toBitVec
  | uint64 value => value.toBitVec

/-- The low `bits` bits set, and no others. -/
def fieldMask (bits : Nat) : Word := (1 <<< bits) - 1

/-- The low `bits` bits of a word read as two's complement, for a field that is narrower than
the word. The bits above the field become copies of its top bit. -/
def extendField (raw : Word) (bits : Nat) : Word :=
  if (raw >>> (bits - 1)) &&& 1 = 1 then raw ||| ~~~fieldMask bits else raw &&& fieldMask bits

/-- The low `bits` bits read as two's complement. A field has at least one bit
and fits its integer's type. One that fills the type is the whole integer. -/
def extend (immediate : Immediate) (bits : Nat) : Except Fault Word :=
  if bits = 0 ∨ immediate.width < bits then
    .error (.invalidBitWidth bits immediate.width)
  else if bits = immediate.width then
    .ok immediate.toWord
  else
    .ok (extendField immediate.rawBits bits)

end Immediate
end Datapath
