/-!
# Operations of the arithmetic-logic unit

Each operation is carried out by at most one of three sub-units. Two operations
belong to none: `idle` asks for no work, and `unknown` stands for a control word
that the decoder did not understand.
-/

namespace Datapath.Alu

/-- What the arithmetic-logic unit is asked to compute. -/
inductive Operation where
  | add
  | sub
  | and
  | orr
  | eor
  | lsl
  | lsr
  | asr
  | mov
  | passA
  | mul
  | smulh
  | umulh
  | sdiv
  | udiv
  | idle
  | unknown
deriving DecidableEq, Repr

/-- The parts of the arithmetic-logic unit. -/
inductive Part where
  | arithmetic
  | logic
  | shifter
deriving DecidableEq, Repr

namespace Operation

/-- Every operation, in the order of the control codes. -/
def all : List Operation :=
  [add, sub, and, orr, eor, lsl, lsr, asr, mov, passA, mul, smulh, umulh, sdiv, udiv, idle,
    unknown]

/-- The name of the operation in assembly text and listings. -/
def mnemonic : Operation → String
  | add => "ADD"
  | sub => "SUB"
  | and => "AND"
  | orr => "ORR"
  | eor => "EOR"
  | lsl => "LSL"
  | lsr => "LSR"
  | asr => "ASR"
  | mov => "MOV"
  | passA => "PASS_A"
  | mul => "MUL"
  | smulh => "SMULH"
  | umulh => "UMULH"
  | sdiv => "SDIV"
  | udiv => "UDIV"
  | idle => "IDLE"
  | unknown => "UNKNOWN"

/-- The operation of a given name. -/
def ofMnemonic? (name : String) : Option Operation :=
  all.find? fun operation => operation.mnemonic == name

/-- Addition and subtraction are the operations whose carry and overflow mean something. -/
def isArithmetic : Operation → Bool
  | add | sub => true
  | _ => false

/-- Whether the operation shows that decoding went wrong. -/
def signalsDecodeDefect : Operation → Bool
  | unknown => true
  | _ => false

/-- The part that carries out the operation. -/
def owner : Operation → Option Part
  | add | sub | mul | smulh | umulh | sdiv | udiv => some .arithmetic
  | and | orr | eor | mov | passA => some .logic
  | lsl | lsr | asr => some .shifter
  | idle | unknown => none

end Operation
end Datapath.Alu
