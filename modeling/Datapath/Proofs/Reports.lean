import Datapath.Proofs.Delimiting
import Datapath.Proofs.Footprints
import Datapath.Statistics

/-!
# Reports of the statistics

A report has the sections that a list of names asks for, in an order of their own. Which names are
in the list is all that counts, and names of no section count for nothing. Each counter has a line
in its section, so the full report shows all of them, and the counts are found again in it.
-/

namespace Datapath

open Text

/-! ## Lines -/

/-- What stands in front of a count in its line. -/
def Counter.label : Counter → String
  | cycles => "sim_cycles               "
  | stepsRetired => "sim_steps                "
  | aluOperations => "ops.alu                  "
  | flagSettings => "ops.alu_set_flags        "
  | loads => "ops.load                 "
  | stores => "ops.store                "
  | discardedWrites => "xzr_writes_discarded     "
  | faults => "faults                   "

namespace Statistics

/-- The counters that a section shows, in the order of their lines. -/
def Section.counters : Section → List Counter
  | summary => [.cycles, .stepsRetired]
  | instructionMix => [.aluOperations, .flagSettings, .loads, .stores]
  | anomalies => [.discardedWrites, .faults]

/-- The line of a counter without its end. -/
def counterLine (statistics : Statistics) (counter : Counter) : List Char :=
  counter.label.toList ++ (toString (statistics.get counter)).toList

/-- A section has a line for each of its counters. -/
theorem toList_block (statistics : Statistics) (part : Section) :
    (statistics.block part).toList = unlines (part.counters.map statistics.counterLine) := by
  have ending : "\n".toList = ['\n'] := rfl
  cases part <;>
    simp only [block, line, Section.counters, unlines, counterLine, Counter.label, get,
      List.map_cons, List.map_nil, List.flatMap_cons, List.flatMap_nil, List.append_nil,
      String.toList_append, List.append_assoc, ending]

/-- The line of a counter does not end early. -/
theorem newline_notMem_counterLine (statistics : Statistics) (counter : Counter) :
    '\n' ∉ statistics.counterLine counter := by
  intro member
  rcases List.mem_append.1 member with label | count
  · cases counter <;> exact absurd label (by decide)
  · exact absurd (isDigit_of_mem_natural count) (by decide)

/-- The line of a counter shows its count. -/
theorem get_of_counterLine {left right : Statistics} {counter : Counter}
    (same : left.counterLine counter = right.counterLine counter) :
    left.get counter = right.get counter :=
  natural_inj (List.append_cancel_left same)

/-! ## Sections asked for -/

/-- A section is asked for by its name, and all of them are by no name. -/
theorem mem_selected {names : List String} {part : Section} :
    part ∈ selected names ↔ names = [] ∨ part.name ∈ names := by
  have listed : part ∈ sections := by cases part <;> decide
  simp [selected, listed]

/-- A report has a section or not, for each of them in turn. -/
theorem report_eq_join (statistics : Statistics) (names : List String) :
    statistics.report names = String.join (sections.map fun part =>
      if names = [] ∨ part.name ∈ names then statistics.block part else "") := by
  rw [report, selected]
  induction sections with
  | nil => rfl
  | cons part rest inductionHypothesis =>
    rw [List.map_cons, String.join_cons, ← inductionHypothesis]
    by_cases asked : names = [] ∨ part.name ∈ names
    · rw [if_pos asked, List.filter_cons_of_pos (by simpa using asked), List.map_cons,
        String.join_cons]
    · rw [if_neg asked, List.filter_cons_of_neg (by simpa using asked), String.empty_append]

/-- A section is not empty. -/
theorem block_ne_empty (statistics : Statistics) (part : Section) : statistics.block part ≠ "" := by
  intro empty
  have lines := statistics.toList_block part
  rw [empty] at lines
  cases part <;> simp [unlines, Section.counters] at lines

/-- A report is empty if no section was asked for. -/
theorem report_eq_empty_iff {statistics : Statistics} {names : List String} :
    statistics.report names = "" ↔ names ≠ [] ∧ ∀ part : Section, part.name ∉ names := by
  have nothing : statistics.report names = "" ↔ ∀ part, part ∉ selected names := by
    rw [← String.toList_inj, report, String.toList_join]
    simp [List.flatMap_eq_nil_iff, block_ne_empty]
  simp only [nothing, mem_selected]
  constructor
  · exact fun none => ⟨fun empty => none .summary (.inl empty),
      fun part asked => none part (.inr asked)⟩
  · rintro ⟨present, unknown⟩ part (empty | asked)
    · exact present empty
    · exact unknown part asked

/-- Names of the same sections make the same report, if there are any names. -/
theorem report_congr {left right : List String} (leftPresent : left ≠ [])
    (rightPresent : right ≠ []) (same : ∀ part : Section, part.name ∈ left ↔ part.name ∈ right)
    (statistics : Statistics) : statistics.report left = statistics.report right := by
  simp only [report_eq_join, leftPresent, rightPresent, false_or, same]

/-- With the names of all sections the report is full. -/
theorem report_of_all {names : List String} (all : ∀ part : Section, part.name ∈ names)
    (statistics : Statistics) : statistics.report names = statistics.fullReport := by
  simp only [fullReport, report_eq_join, all, or_true, true_or]

/-! ## The full report -/

/-- The full report has a line for each counter. -/
theorem toList_fullReport (statistics : Statistics) :
    statistics.fullReport.toList =
      unlines ((sections.flatMap Section.counters).map statistics.counterLine) := by
  have all : selected [] = sections := rfl
  rw [fullReport, report, all, String.toList_join, List.flatMap_map]
  simp only [toList_block, unlines, List.flatMap_map, List.map_flatMap, List.flatMap_assoc]

/-- The counts are found again in the full report. -/
theorem eq_of_fullReport {left right : Statistics} (same : left.fullReport = right.fullReport) :
    left = right := by
  have lines (statistics : Statistics) : lines? statistics.fullReport.toList =
      some ((sections.flatMap Section.counters).map statistics.counterLine) := by
    rw [toList_fullReport]
    refine lines?_unlines (List.cons_ne_nil _ _) fun line member => ?_
    obtain ⟨counter, -, rfl⟩ := List.mem_map.1 member
    exact statistics.newline_notMem_counterLine counter
  have agree := lines left
  rw [same, lines right, Option.some.injEq, List.map_inj_left] at agree
  refine ext_get fun counter => ?_
  have listed : counter ∈ sections.flatMap Section.counters := by cases counter <;> decide
  exact (get_of_counterLine (agree counter listed)).symm

/-- A report is put together from the summary, the mix of instructions and the anomalies, in this
order. Each of them is there if its name is in the list, and all of them are if the list is
empty. So for lists with names it only matters which sections are named: neither the order of the
names nor repeated or unknown ones make a difference. A report is empty just if there are names
but no section has one of them, and full with the names of all sections. The full reports of two
statistics are equal just if all their counters are. -/
theorem reports_select_sections :
    (∀ (statistics : Statistics) (names : List String), statistics.report names =
      (if names = [] ∨ "summary" ∈ names then statistics.block .summary else "") ++
      (if names = [] ∨ "instruction_mix" ∈ names then statistics.block .instructionMix else "") ++
      (if names = [] ∨ "anomalies" ∈ names then statistics.block .anomalies else "")) ∧
    (∀ (statistics : Statistics) (left right : List String), left ≠ [] → right ≠ [] →
      (∀ part : Section, part.name ∈ left ↔ part.name ∈ right) →
      statistics.report left = statistics.report right) ∧
    (∀ (statistics : Statistics) (names : List String), statistics.report names = "" ↔
      names ≠ [] ∧ ∀ part : Section, part.name ∉ names) ∧
    (∀ (statistics : Statistics) (names : List String), (∀ part : Section, part.name ∈ names) →
      statistics.report names = statistics.fullReport) ∧
    ∀ left right : Statistics, left.fullReport = right.fullReport ↔ left = right := by
  refine ⟨?_, ?_, fun statistics names => report_eq_empty_iff, ?_, ?_⟩
  · intro statistics names
    rw [report_eq_join]
    simp only [sections, List.map_cons, List.map_nil, String.join_cons, String.join_nil,
      String.append_empty, String.append_assoc]
    rfl
  · exact fun statistics left right first second same => report_congr first second same statistics
  · exact fun statistics names all => report_of_all all statistics
  · exact fun left right => ⟨eq_of_fullReport, congrArg fullReport⟩

/-- Two sections are asked for out of order, one of them twice, and among names of none. -/
theorem named_sections_are_reported :
    let statistics : Statistics := { cycles := 10, stepsRetired := 9, faults := 1 }
    statistics.report ["anomalies", "nope", "summary", "anomalies"] =
        statistics.report ["summary", "anomalies"] ∧
      statistics.report ["anomalies", "Summary", "instruction_mix", "summary"] =
        statistics.fullReport := by
  intro statistics
  obtain ⟨-, congr, -, full, -⟩ := reports_select_sections
  refine ⟨congr statistics _ _ (List.cons_ne_nil _ _) (List.cons_ne_nil _ _) ?_,
    full statistics _ ?_⟩
  · intro part
    cases part <;> decide
  · intro part
    cases part <;> decide

end Statistics
end Datapath
