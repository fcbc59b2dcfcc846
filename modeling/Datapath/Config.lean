import Datapath.Json.Record
import Datapath.Listing

/-!
# Configuration

A configuration says where execution starts, what the stack pointer holds at
first, whether retired steps are logged, and what a memory listing shows. It is
read from a document in which every part may be left out; what is left out keeps
its default.
-/

namespace Datapath

/-- Settings of execution as a whole. -/
structure GeneralConfig where
  /-- Whether an event is logged for every step that ends well. -/
  traceSteps : Bool := false
  /-- The address of the first instruction, not yet checked. -/
  startPc : Word := 0
deriving DecidableEq, Repr

/-- Settings of the register file. -/
structure RegisterConfig where
  /-- What the stack pointer holds at first, instead of zero. -/
  initialSp : Option Word := none
deriving DecidableEq, Repr

/-- All settings of a machine. -/
structure Config where
  general : GeneralConfig := {}
  registers : RegisterConfig := {}
  listing : Listing.Filter := {}
deriving DecidableEq, Repr

namespace Config

/-- The fields of the general settings. -/
def generalFields : List (Json.Field GeneralConfig) :=
  [.of "trace_steps" Json.Reader.boolean fun config value => { config with traceSteps := value },
    .of "start_pc" Json.Reader.unsignedWord fun config value => { config with startPc := value }]

/-- The fields of the register settings. -/
def registerFields : List (Json.Field RegisterConfig) :=
  [.of "initial_sp" Json.Reader.optionalSignedWord fun config value =>
    { config with initialSp := value }]

/-- The fields of the listing settings. -/
def listingFields : List (Json.Field Listing.Filter) :=
  [.of "nonzero_only" Json.Reader.boolean fun filter value => { filter with nonzeroOnly := value },
    .of "aligned_only" Json.Reader.boolean fun filter value =>
      { filter with alignedOnly := value }]

/-- The sections of a configuration, each a record of its own. -/
def sections : List (Json.Field Config) :=
  [.of "general" (Json.Record.reader "GeneralConfig" generalFields {}) fun config value =>
      { config with general := value },
    .of "registers" (Json.Record.reader "RegisterConfig" registerFields {}) fun config value =>
      { config with registers := value },
    .of "dump" (Json.Record.reader "DumpConfig" listingFields {}) fun config value =>
      { config with listing := value }]

/-- Reads a configuration. -/
def reader : Json.Reader Config := Json.Record.reader "Config" sections {}

/-- The configuration that a text describes, or the first problem of the text. -/
def ofText (text : String) : Except Json.Problem Config := reader.ofText text

end Config
end Datapath
