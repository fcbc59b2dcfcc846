import Datapath.Fault

/-!
# The register file

Thirty-two slots hold the general-purpose registers. The slot of the zero
register stores what is written to it like any other, but no reading shows it:
reads and snapshots put zero in its place. Numbers outside the file are refused
before anything is looked at.
-/

namespace Datapath

/-- The contents of all register slots, the hidden one of the zero register included. -/
structure RegisterFile where
  slots : Vector Word 32 := Vector.replicate 32 0
deriving DecidableEq, Repr, Inhabited

namespace RegisterFile

/-- The slot that a register number names. -/
def slotOf (index : Int) (access : Access) : Except Fault RegisterIndex :=
  if inside : 0 ≤ index ∧ index < 32 then
    .ok ⟨index.toNat, by omega⟩
  else
    .error (.invalidRegister index access)

/-- What a register shows: its slot, except that the zero register shows zero. -/
def get (file : RegisterFile) (register : RegisterIndex) : Word :=
  if register = zeroRegister then 0 else file.slots[register]

/-- Store a word in a slot, the zero register's included. -/
def set (file : RegisterFile) (register : RegisterIndex) (value : Word) : RegisterFile :=
  ⟨file.slots.set register value⟩

/-- Read the register of a given number. -/
def read (file : RegisterFile) (index : Int) : Except Fault Word :=
  (slotOf index .read).map file.get

/-- Write the register of a given number. -/
def write (file : RegisterFile) (index : Int) (value : Word) : Except Fault RegisterFile :=
  (slotOf index .write).map fun register => file.set register value

/-- All registers at zero. -/
def cleared : RegisterFile := {}

/-- What every register shows, in the order of their numbers. -/
def snapshot (file : RegisterFile) : Vector Word 32 := file.slots.set zeroRegister 0

/-- A register shows a write to itself, except that the zero register goes on showing zero. -/
theorem get_set (file : RegisterFile) (register other : RegisterIndex) (value : Word) :
    (file.set register value).get other =
      if register = other ∧ other ≠ zeroRegister then value else file.get other := by
  by_cases hidden : other = zeroRegister
  · simp [get, hidden]
  · by_cases same : register = other
    · simp [get, set, hidden, same]
    · have apart : register.val ≠ other.val := fun equal => same (Fin.ext equal)
      simp [get, set, hidden, same, apart]

/-- Every register shows zero in a cleared file. -/
theorem get_cleared (register : RegisterIndex) : cleared.get register = 0 := by
  simp [get, cleared]

/-- A snapshot holds what the registers show. -/
theorem getElem_snapshot (file : RegisterFile) (register : RegisterIndex) :
    file.snapshot[register] = file.get register := by
  by_cases hidden : register = zeroRegister
  · simp [snapshot, get, hidden]
  · have apart : zeroRegister.val ≠ register.val := fun equal => hidden (Fin.ext equal.symm)
    simp [snapshot, get, hidden, apart]

end RegisterFile
end Datapath
