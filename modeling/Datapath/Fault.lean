import Datapath.Text.Hex

/-!
# Faults

A fault names the cause of a failed operation together with the values that
identify it. A step surrounds the fault that ends it with the program counter
and the cycle at which the step began. Context is attached once: a fault that
already carries one keeps it, so the innermost step is the one reported.
-/

namespace Datapath

/-- Whether a register was to be read or written. -/
inductive Access where
  | read
  | write
deriving DecidableEq, Repr

/-- The verb of an access as it stands in a message. -/
def Access.text : Access → String
  | .read => "read"
  | .write => "write"

/-- The causes for which an operation fails, and the context that a step adds to one of them. -/
inductive Fault where
  /-- The number names no register. -/
  | invalidRegister (index : Int) (access : Access)
  /-- The signed reading of the address is below zero. -/
  | negativeAddress (address : Word)
  /-- An immediate has no field of this width; the widest field it has is `widest`. -/
  | invalidBitWidth (width widest : Nat)
  /-- The divisor of a signed or unsigned division is zero. -/
  | divisionByZero (dividend divisor : Word)
  /-- The address cannot be the address of an instruction. -/
  | invalidProgramCounter (address : Word)
  /-- The step that began at `pc` as cycle number `cycle` ended with `source`. -/
  | simulation (pc : Word) (cycle : Nat) (source : Fault)
deriving DecidableEq, Repr

namespace Fault

/-- The text of a fault. Addresses of memory are signed decimals, while program
counters are hexadecimal: short for a rejected target, long for a step's context. -/
def message : Fault → String
  | invalidRegister index access =>
    "invalid register index " ++ toString index ++ " on " ++ access.text
  | negativeAddress address => "negative memory address " ++ toString address.toInt
  | invalidBitWidth width widest =>
    "invalid bit width " ++ toString width ++ " (expected 1..=" ++ toString widest ++ ")"
  | divisionByZero dividend divisor =>
    "division by zero (" ++ toString dividend.toInt ++ " / " ++ toString divisor.toInt ++ ")"
  | invalidProgramCounter address => "invalid program counter " ++ Text.Hex.short address
  | simulation pc cycle source =>
    "simulation failure at pc " ++ Text.Hex.long pc ++ ", cycle " ++ toString cycle ++ ": "
      ++ source.message

/-- Attach a step's context. A fault that has one already is left as it is. -/
def withContext (pc : Word) (cycle : Nat) : Fault → Fault
  | simulation innerPc innerCycle source => simulation innerPc innerCycle source
  | fault => simulation pc cycle fault

/-- The cause below all contexts. -/
def root : Fault → Fault
  | simulation _ _ source => source.root
  | fault => fault

/-- The faults below this one, from the nearest source to the root. A fault without
context has none. -/
def sources : Fault → List Fault
  | simulation _ _ source => source :: source.sources
  | _ => []

end Fault
end Datapath
