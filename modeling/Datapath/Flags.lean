/-!
# Condition flags

The four flags say of a result whether it is negative, whether it is zero,
whether an unsigned carry left the word, and whether the signed range was left.
Their text is four columns wide, one for each flag, with a dash for a clear one.
-/

namespace Datapath

/-- The flags that a data-path operation leaves behind; all are clear at first. -/
structure Flags where
  negative : Bool := false
  zero : Bool := false
  carry : Bool := false
  overflow : Bool := false
deriving DecidableEq, Repr, Inhabited

namespace Flags

/-- One column of the text: the flag's letter when it is set. -/
def column (isSet : Bool) (letter : Char) : Char := if isSet then letter else '-'

/-- The four columns in the order negative, zero, carry, overflow. -/
def text (flags : Flags) : String :=
  String.ofList
    [column flags.negative 'N', column flags.zero 'Z', column flags.carry 'C',
      column flags.overflow 'V']

end Flags
end Datapath
