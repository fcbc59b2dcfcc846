/-!
# Execution statistics

Eight counters record what a machine did since its last reset. Their text comes
in three named sections. A report takes a list of section names: it shows the
sections whose name is in the list, always in the same order, and all of them
when the list is empty. Names of no section are passed over.
-/

namespace Datapath

/-- The counters; all start at zero. -/
structure Statistics where
  /-- Steps begun. -/
  cycles : Nat := 0
  /-- Steps that ended without a fault. -/
  stepsRetired : Nat := 0
  /-- Evaluations of the arithmetic-logic unit. -/
  aluOperations : Nat := 0
  /-- Evaluations whose flags were latched. -/
  flagSettings : Nat := 0
  /-- Words loaded from memory. -/
  loads : Nat := 0
  /-- Words stored to memory. -/
  stores : Nat := 0
  /-- Results that were meant for the zero register. -/
  discardedWrites : Nat := 0
  /-- Steps that ended with a fault. -/
  faults : Nat := 0
deriving DecidableEq, Repr, Inhabited

namespace Statistics

/-- A section of the report. -/
inductive Section where
  | summary
  | instructionMix
  | anomalies
deriving DecidableEq, Repr

/-- The name by which a section is asked for. -/
def Section.name : Section → String
  | .summary => "summary"
  | .instructionMix => "instruction_mix"
  | .anomalies => "anomalies"

/-- The sections in the order of the report. -/
def sections : List Section := [.summary, .instructionMix, .anomalies]

/-- A label and its counter as a line; the labels fill one column. -/
def line (label : String) (count : Nat) : String := label ++ toString count ++ "\n"

/-- The text of one section. -/
def block (statistics : Statistics) : Section → String
  | .summary =>
    line "sim_cycles               " statistics.cycles ++
      line "sim_steps                " statistics.stepsRetired
  | .instructionMix =>
    line "ops.alu                  " statistics.aluOperations ++
      line "ops.alu_set_flags        " statistics.flagSettings ++
      line "ops.load                 " statistics.loads ++
      line "ops.store                " statistics.stores
  | .anomalies =>
    line "xzr_writes_discarded     " statistics.discardedWrites ++
      line "faults                   " statistics.faults

/-- The sections that a list of names asks for, in the order of the report. -/
def selected (names : List String) : List Section :=
  sections.filter fun candidate => names.isEmpty || names.contains candidate.name

/-- The text of the sections that a list of names asks for. -/
def report (statistics : Statistics) (names : List String) : String :=
  String.join ((selected names).map statistics.block)

/-- The text of all sections. -/
def fullReport (statistics : Statistics) : String := statistics.report []

end Statistics
end Datapath
