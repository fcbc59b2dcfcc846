import Datapath.Flags
import Datapath.Word

/-!
# Events

A machine logs what it does as events. An event has a level, a message and named
fields; the fields are texts, with addresses of instructions unsigned and all
other numbers signed.
-/

namespace Datapath

/-- How much an event matters. -/
inductive Level where
  | trace
  | debug
  | warn
deriving DecidableEq, Repr

/-- The name of a level. -/
def Level.text : Level → String
  | trace => "TRACE"
  | debug => "DEBUG"
  | warn => "WARN"

/-- Something that a machine logs. -/
inductive Event where
  /-- The machine is back in its configured state. -/
  | machineReset (pc : Word)
  /-- A result was meant for the zero register. -/
  | writeDiscarded (value : Word)
  /-- A result went to a register. -/
  | writeBack (register : Int) (value : Word)
  /-- The arithmetic-logic unit was given an operation that the decoder did not understand. -/
  | unknownOperation (pc : Word) (cycle : Nat) (destination : Int)
  /-- A word came from memory. -/
  | load (address value : Word)
  /-- A word went to memory. -/
  | store (address value : Word)
  /-- The step that began at `pc` as cycle number `cycle` ended well, with these flags. -/
  | stepRetired (pc : Word) (cycle : Nat) (flags : Flags)
deriving DecidableEq, Repr

namespace Event

/-- The level of an event. -/
def level : Event → Level
  | machineReset _ | stepRetired _ _ _ => .debug
  | unknownOperation _ _ _ => .warn
  | _ => .trace

/-- The message of an event, which is the same for all events of its kind. -/
def message : Event → String
  | machineReset _ => "machine reset"
  | writeDiscarded _ => "write to XZR discarded"
  | writeBack _ _ => "write-back"
  | unknownOperation _ _ _ => "ALU received an unknown operation"
  | load _ _ => "load"
  | store _ _ => "store"
  | stepRetired _ _ _ => "step retired"

/-- The fields of an event with their names. -/
def fields : Event → List (String × String)
  | machineReset pc => [("pc", toString pc.toNat)]
  | writeDiscarded value => [("value", toString value.toInt)]
  | writeBack register value =>
    [("reg", toString register), ("value", toString value.toInt)]
  | unknownOperation pc cycle destination =>
    [("pc", toString pc.toNat), ("cycle", toString cycle), ("rd", toString destination)]
  | load address value | store address value =>
    [("address", toString address.toInt), ("value", toString value.toInt)]
  | stepRetired pc cycle flags =>
    [("pc", toString pc.toNat), ("cycle", toString cycle), ("flags", flags.text)]

end Event
end Datapath
