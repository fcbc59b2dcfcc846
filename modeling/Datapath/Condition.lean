import Datapath.Flags

/-!
# Branch conditions

A conditional branch names one of fifteen conditions on the flags. After a
comparison, which is a subtraction that keeps only its flags, the conditions
decide equality and both orders of the operands: the carry of a subtraction is
the absence of a borrow, and a signed order is the sign of the difference,
turned around when the difference left the signed range.
-/

namespace Datapath

/-- A condition on the flags. -/
inductive Condition where
  /-- Equal. -/
  | eq
  /-- Not equal. -/
  | ne
  /-- Unsigned higher or same. -/
  | hs
  /-- Unsigned lower. -/
  | lo
  /-- Minus. -/
  | mi
  /-- Plus or zero. -/
  | pl
  /-- Overflow set. -/
  | vs
  /-- Overflow clear. -/
  | vc
  /-- Unsigned higher. -/
  | hi
  /-- Unsigned lower or same. -/
  | ls
  /-- Signed greater or equal. -/
  | ge
  /-- Signed less. -/
  | lt
  /-- Signed greater. -/
  | gt
  /-- Signed less or equal. -/
  | le
  /-- Always. -/
  | al
deriving DecidableEq, Repr

namespace Condition

/-- The condition that a field of four bits encodes. The upper half of the byte
that carries the field is not looked at, and both of the last two codes mean always. -/
def ofBits (bits : BitVec 8) : Condition :=
  match (bits &&& 15).toNat with
  | 0 => eq
  | 1 => ne
  | 2 => hs
  | 3 => lo
  | 4 => mi
  | 5 => pl
  | 6 => vs
  | 7 => vc
  | 8 => hi
  | 9 => ls
  | 10 => ge
  | 11 => lt
  | 12 => gt
  | 13 => le
  | _ => al

/-- The condition's suffix in assembly text. -/
def mnemonic : Condition → String
  | eq => "EQ"
  | ne => "NE"
  | hs => "HS"
  | lo => "LO"
  | mi => "MI"
  | pl => "PL"
  | vs => "VS"
  | vc => "VC"
  | hi => "HI"
  | ls => "LS"
  | ge => "GE"
  | lt => "LT"
  | gt => "GT"
  | le => "LE"
  | al => "AL"

/-- Whether the flags satisfy the condition. -/
def holds (flags : Flags) : Condition → Bool
  | eq => flags.zero
  | ne => !flags.zero
  | hs => flags.carry
  | lo => !flags.carry
  | mi => flags.negative
  | pl => !flags.negative
  | vs => flags.overflow
  | vc => !flags.overflow
  | hi => flags.carry && !flags.zero
  | ls => !flags.carry || flags.zero
  | ge => flags.negative == flags.overflow
  | lt => flags.negative != flags.overflow
  | gt => !flags.zero && flags.negative == flags.overflow
  | le => flags.zero || flags.negative != flags.overflow
  | al => true

/-- The conditions of the sixteen codes, in the order of the codes. -/
def encoded : List Condition := (List.range 16).map fun code => ofBits (BitVec.ofNat 8 code)

/-- The conditions among the sixteen codes that the flags satisfy, in the order of the codes. -/
def held (flags : Flags) : List Condition := encoded.filter (holds flags)

end Condition
end Datapath
