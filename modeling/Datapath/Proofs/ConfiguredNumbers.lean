import Datapath.Proofs.ConfigSchema
import Datapath.Proofs.RegisterContents
import Datapath.Proofs.RelativeBranches

/-!
# Configured numbers reach the machine unchanged

An integer of any size that a document gives in plain decimal for the start address or for
the stack pointer arrives in the machine as this integer, or it is refused: by the reader if
no word of the right kind holds it, and by the machine if no branch could go there. Nothing
between the text and the machine rounds it or brings it back into range.

The text is that of a document with one numeral, so reading it is a case of the schema. What
is left is decimal notation and the check of the start address.
-/

namespace Datapath

namespace Json

/-! ## Decimal notation -/

/-- A further digit is added to ten times the value of those before it. -/
theorem Digit.value_concat (digits : List Digit) (digit : Digit) :
    value (digits ++ [digit]) = 10 * value digits + digit.val := by
  rw [value, List.foldl_append]
  rfl

/-- The decimal digits of a number denote it, and none of them is superfluous.

Proof: by strong induction, from the number without its last digit. A zero in front of it would be
all of its digits, but then it is zero, and the last digit would stand alone. -/
theorem Digit.exists_row (number : Nat) :
    ∃ digits : List Digit, digits.map toChar = Nat.toDigits 10 number ∧
      value digits = number ∧ digits ≠ [] ∧ (digits.head? = some 0 → digits = [0]) := by
  induction number using Nat.strongRecOn with
  | ind number shorter =>
    by_cases single : number < 10
    · refine ⟨[⟨number, single⟩], ?_, ?_, by simp, ?_⟩
      · rw [Nat.toDigits_of_lt_base single]
        rfl
      · simp [value]
      · intro zero
        rw [Option.some.inj zero]
    · obtain ⟨digits, chars, denoted, nonempty, leading⟩ := shorter (number / 10) (by omega)
      refine ⟨digits ++ [⟨number % 10, by omega⟩], ?_, ?_, by simp, ?_⟩
      · rw [Nat.toDigits_of_base_le (by decide) (by omega), ← chars, List.map_append]
        rfl
      · rw [value_concat, denoted]
        dsimp only
        omega
      · intro zero
        rw [List.head?_append_of_ne_nil _ nonempty] at zero
        rw [leading zero] at denoted
        have none : value [0] = 0 := rfl
        omega

/-- The plain decimal form of an integer is a numeral that denotes it. -/
theorem Numeral.exists_plain (value : Int) :
    ∃ numeral : Numeral, numeral.Proper ∧ numeral.Spells (toString value).toList ∧
      numeral.Denotes value := by
  obtain ⟨digits, chars, denoted, nonempty, leading⟩ := Digit.exists_row value.natAbs
  rw [Int.toString_eq_repr, Int.repr_eq_if]
  by_cases negative : value < 0
  · refine ⟨{ negative := true, whole := digits }, ⟨nonempty, leading, nofun⟩, ?_, rfl, rfl, ?_, ?_⟩
    · have magnitude : (-value).toNat = value.natAbs := by omega
      have spelled : Spells { negative := true, whole := digits } _ := .digits .none
      rw [if_neg (by omega), magnitude, String.toList_append, Nat.toList_repr, ← chars]
      simpa using spelled
    · rw [denoted]
      simp only [if_true]
      omega
    · rw [denoted]
      omega
  · refine ⟨{ negative := false, whole := digits }, ⟨nonempty, leading, nofun⟩, ?_, rfl, rfl, ?_,
      nofun⟩
    · have magnitude : value.toNat = value.natAbs := by omega
      have spelled : Spells { negative := false, whole := digits } _ := .digits .none
      rw [if_pos (by omega), magnitude, Nat.toList_repr, ← chars]
      simpa using spelled
    · rw [denoted]
      simp only [Bool.false_eq_true, if_false]
      omega

/-- An integer stands for itself alone. -/
theorem Tree.isInteger_number_iff {numeral : Numeral} {proper : numeral.Proper} {value other : Int}
    (denotes : numeral.Denotes value) :
    (Tree.number numeral proper).IsInteger other ↔ other = value := by
  constructor
  · rintro ⟨_, same⟩
    exact same.value.trans denotes.value.symm
  · rintro rfl
    exact .number proper denotes

end Json

open Json

/-! ## A document with one numeral -/

/-- The text of a document that gives one field of one section an integer in plain decimal. -/
def Config.textOf (sectionName field : String) (value : Int) : String :=
  "\x7b\"" ++ sectionName ++ "\":\x7b\"" ++ field ++ "\":" ++ toString value ++ "\x7d\x7d"

/-- The document that gives one field of one section a part. -/
def Config.treeOf (sectionName field : String)
    (plainSection : Piece.ArePlain sectionName.toList) (plainField : Piece.ArePlain field.toList)
    (part : Tree) : Tree :=
  .object [(.plain sectionName plainSection, .object [(.plain field plainField, part)])]

/-- The text in which one field is given an integer is one of the document that gives this field the
integer. -/
theorem Config.exists_spells_textOf (sectionName field : String)
    (plainSection : Piece.ArePlain sectionName.toList) (plainField : Piece.ArePlain field.toList)
    (value : Int) :
    ∃ part : Tree, (∀ other, part.IsInteger other ↔ other = value) ∧
      (treeOf sectionName field plainSection plainField part).Spells
        (textOf sectionName field value) := by
  obtain ⟨numeral, proper, spelled, denotes⟩ := Numeral.exists_plain value
  have spelledAll : Token.SpellAll
      (treeOf sectionName field plainSection plainField (.number numeral proper)).tokens _ :=
    .token .openBrace <| .token (Spelling.plain_spells sectionName plainSection) <|
      .token .colon <| .token .openBrace <| .token (Spelling.plain_spells field plainField) <|
      .token .colon <| .token (.number proper spelled) <| .token .closeBrace <|
      .token .closeBrace .nil
  refine ⟨.number numeral proper, fun other => Tree.isInteger_number_iff denotes, ?_⟩
  rw [Tree.Spells]
  simpa [textOf] using spelledAll

/-- A start address is read if an unsigned word holds it, and everything else keeps its default. -/
theorem Config.ofText_startPc_eq_ok_iff {value : Int} {config : Config} :
    ofText (textOf "general" "start_pc" value) = .ok config ↔
      ∃ word : Word, (word.toNat : Int) = value ∧ config = { general := { startPc := word } } := by
  obtain ⟨part, isInteger_iff, spelled⟩ :=
    exists_spells_textOf "general" "start_pc" (by decide) (by decide) value
  rw [ofText_eq_ok_iff spelled]
  constructor
  · rintro ⟨-, general, registers, listing⟩
    obtain ⟨-, traceSteps, startPc⟩ := given_some_iff.1 general
    have meant : part.MeansUnsigned config.general.startPc := given_some_iff.1 startPc
    refine ⟨config.general.startPc, (isInteger_iff _).1 meant, ?_⟩
    obtain ⟨⟨_, _⟩, _, _⟩ := config
    obtain rfl := given_none_iff.1 traceSteps
    obtain rfl := given_none_iff.1 registers
    obtain rfl := given_none_iff.1 listing
    rfl
  · rintro ⟨word, same, rfl⟩
    have sections : ∀ name ∈ schema.names, ["general"].count name ≤ 1 := by decide
    have fields : ∀ name ∈ GeneralConfig.schema.names, ["start_pc"].count name ≤ 1 := by decide
    have meant : part.MeansUnsigned word := (isInteger_iff _).2 same
    exact ⟨sections, .given ⟨fields, .omitted, .given meant⟩, .omitted, .omitted⟩

/-- Every start address below 2 ^ 64 is read, and no other integer is. -/
theorem Config.exists_ofText_startPc_iff (value : Int) :
    (∃ config, ofText (textOf "general" "start_pc" value) = .ok config) ↔
      0 ≤ value ∧ value < 2 ^ 64 := by
  constructor
  · rintro ⟨config, read⟩
    obtain ⟨word, same, -⟩ := ofText_startPc_eq_ok_iff.1 read
    have below := word.isLt
    omega
  · rintro ⟨least, most⟩
    exact ⟨_, ofText_startPc_eq_ok_iff.2 ⟨_, Word.toNat_ofInt least most, rfl⟩⟩

/-- A stack pointer is read if a signed word holds it, and everything else keeps its default. -/
theorem Config.ofText_initialSp_eq_ok_iff {value : Int} {config : Config} :
    ofText (textOf "registers" "initial_sp" value) = .ok config ↔
      ∃ word : Word, word.toInt = value ∧ config = { registers := { initialSp := some word } } := by
  obtain ⟨part, isInteger_iff, spelled⟩ :=
    exists_spells_textOf "registers" "initial_sp" (by decide) (by decide) value
  rw [ofText_eq_ok_iff spelled]
  constructor
  · rintro ⟨-, general, registers, listing⟩
    obtain ⟨-, initialSp⟩ := given_some_iff.1 registers
    have meant : part.MeansSigned config.registers.initialSp := given_some_iff.1 initialSp
    obtain ⟨_, ⟨_⟩, _⟩ := config
    obtain rfl := given_none_iff.1 general
    obtain rfl := given_none_iff.1 listing
    cases meant with
    | nothing => nomatch (isInteger_iff value).2 rfl
    | integer isInteger => exact ⟨_, (isInteger_iff _).1 isInteger, rfl⟩
  · rintro ⟨word, same, rfl⟩
    have sections : ∀ name ∈ schema.names, ["registers"].count name ≤ 1 := by decide
    have fields : ∀ name ∈ RegisterConfig.schema.names, ["initial_sp"].count name ≤ 1 := by decide
    have meant : part.MeansSigned (some word) := .integer ((isInteger_iff _).2 same)
    exact ⟨sections, .omitted, .given ⟨fields, .given meant⟩, .omitted⟩

/-- Every stack pointer between -2 ^ 63 and 2 ^ 63 - 1 is read, and no other integer is. -/
theorem Config.exists_ofText_initialSp_iff (value : Int) :
    (∃ config, ofText (textOf "registers" "initial_sp" value) = .ok config) ↔
      -2 ^ 63 ≤ value ∧ value < 2 ^ 63 := by
  constructor
  · rintro ⟨config, read⟩
    obtain ⟨word, same, -⟩ := ofText_initialSp_eq_ok_iff.1 read
    have lower := word.le_toInt
    have upper := word.toInt_lt
    omega
  · rintro ⟨least, most⟩
    exact ⟨_, ofText_initialSp_eq_ok_iff.2 ⟨_, Word.toInt_ofInt least most, rfl⟩⟩

/-! ## From the configuration to the machine -/

/-- A machine can be built if its start address is an accepted target, and only then. -/
theorem Machine.ofConfig_eq (config : Config) :
    ofConfig config =
      if config.general.startPc.toNat < 2 ^ 63 ∧ config.general.startPc.toNat % 4 = 0 then
        .ok { pc := config.general.startPc, registers := config.registersAtBoot, config }
      else .error (.invalidProgramCounter config.general.startPc) := by
  unfold ofConfig boot
  dsimp only
  rw [checkTarget_eq]
  by_cases accepted : config.general.startPc.toNat < 2 ^ 63 ∧ config.general.startPc.toNat % 4 = 0
  · rw [if_pos accepted, if_pos accepted]
    rfl
  · rw [if_neg accepted, if_neg accepted]
    rfl

/-- No run changes the configuration of its machine, and neither does a copy set aside in it. -/
theorem Program.config_of_moments (program : Program) (machine : Machine) :
    ∀ moment ∈ program.moments { machine }, moment.machine.config = machine.config := by
  have start : Session.Throughout (fun other => other.config = machine.config) { machine } :=
    ⟨rfl, nofun⟩
  intro moment among
  refine (program.moments_throughout ?restarts ?stays ?advances ?jumps start moment among).machine
  case restarts =>
    intro other booted same built
    exact (Machine.config_of_ofConfig built).trans same
  case stays => exact fun _ _ _ sameConfig same => sameConfig.trans same
  case advances => exact fun _ same => same
  case jumps => exact fun _ _ _ _ same => same

/-- In a new machine every register reads as its configured value. -/
theorem Exec.run_readRegister_of_ofConfig {config : Config} {session : Session}
    (built : Machine.ofConfig config = .ok session.machine) (register : RegisterIndex) :
    (readRegister register.val).run session = .ok (config.initialValue register) session := by
  rw [run_readRegister, Machine.eq_of_ofConfig built, Config.get_registersAtBoot]

/-- The machine stands at an address, and resets bring it back there: from every moment of every
run of it, and whatever else was done to it that left its configuration alone. -/
structure Machine.StartsAt (machine : Machine) (address : Int) : Prop where
  pc : (machine.pc.toNat : Int) = address
  /-- No run of the machine leaves the sessions from which a reset returns. -/
  keeps : ∀ program : Program, ∀ moment ∈ program.moments { machine },
    moment.machine.config = machine.config
  returns : ∀ session : Session, session.machine.config = machine.config →
    ∃ after, Exec.reset.run session = .ok () after ∧ (after.machine.pc.toNat : Int) = address

/-- A new machine starts at its configured address. -/
theorem Machine.startsAt_of_ofConfig {config : Config} {machine : Machine}
    (built : ofConfig config = .ok machine) : machine.StartsAt config.general.startPc.toNat where
  pc := by rw [eq_of_ofConfig built]
  keeps program := program.config_of_moments machine
  returns session same := by
    rw [config_of_ofConfig built] at same
    rw [Exec.run_reset, same, built]
    refine ⟨_, rfl, ?_⟩
    dsimp only
    rw [eq_of_ofConfig built]

/-- An integer of any size is given in plain decimal for one of two fields.

As the start address it is read from 0 to 2 ^ 64 - 1. Then a machine can be built if it is
below 2 ^ 63 and a multiple of four, and starts there, at first and after every reset;
otherwise building fails for an address whose signed reading is the integer, less 2 ^ 64 from
2 ^ 63 on. As the stack pointer it is read from -2 ^ 63 to 2 ^ 63 - 1. Then a machine can be
built, in which the stack pointer reads as the integer and every other register as zero. -/
theorem configured_numbers_survive (value : Int) :
    ((∃ config, Config.ofText (Config.textOf "general" "start_pc" value) = .ok config) ↔
      0 ≤ value ∧ value < 2 ^ 64) ∧
    (∀ config, Config.ofText (Config.textOf "general" "start_pc" value) = .ok config →
      ((∃ machine, Machine.ofConfig config = .ok machine) ↔ value < 2 ^ 63 ∧ value % 4 = 0) ∧
      (∀ machine, Machine.ofConfig config = .ok machine → machine.StartsAt value) ∧
      (¬ (value < 2 ^ 63 ∧ value % 4 = 0) → ∃ address : Word,
        Machine.ofConfig config = .error (.invalidProgramCounter address) ∧
          address.toInt = if value < 2 ^ 63 then value else value - 2 ^ 64)) ∧
    ((∃ config, Config.ofText (Config.textOf "registers" "initial_sp" value) = .ok config) ↔
      -2 ^ 63 ≤ value ∧ value < 2 ^ 63) ∧
    (∀ config, Config.ofText (Config.textOf "registers" "initial_sp" value) = .ok config →
      ∃ machine, Machine.ofConfig config = .ok machine ∧
        ∀ session : Session, session.machine = machine →
          (∃ word, (Exec.readRegister 28).run session = .ok word session ∧ word.toInt = value) ∧
          ∀ register : RegisterIndex, register ≠ stackPointer →
            (Exec.readRegister register.val).run session = .ok 0 session) := by
  refine ⟨Config.exists_ofText_startPc_iff value, ?started,
    Config.exists_ofText_initialSp_iff value, ?stacked⟩
  case started =>
    intro config read
    obtain ⟨word, same, rfl⟩ := Config.ofText_startPc_eq_ok_iff.1 read
    have built := Machine.ofConfig_eq { general := { startPc := word } }
    by_cases accepted : value < 2 ^ 63 ∧ value % 4 = 0
    · rw [if_pos (by dsimp only; omega)] at built
      refine ⟨iff_of_true ⟨_, built⟩ accepted, ?_, fun refused => absurd accepted refused⟩
      intro machine other
      exact same ▸ Machine.startsAt_of_ofConfig other
    · rw [if_neg (by dsimp only; omega)] at built
      refine ⟨iff_of_false ?_ accepted, ?_, fun _ => ⟨word, built, ?_⟩⟩
      · rintro ⟨machine, other⟩
        cases built.symm.trans other
      · intro machine other
        cases built.symm.trans other
      · rw [BitVec.toInt_eq_toNat_cond]
        split <;> split <;> omega
  case stacked =>
    intro config read
    obtain ⟨word, same, rfl⟩ := Config.ofText_initialSp_eq_ok_iff.1 read
    have built := Machine.ofConfig_eq { registers := { initialSp := some word } }
    have start : (0 : Word).toNat < 2 ^ 63 ∧ (0 : Word).toNat % 4 = 0 := by decide
    rw [if_pos start] at built
    refine ⟨_, built, ?_⟩
    intro session here
    rw [← here] at built
    have reads := Exec.run_readRegister_of_ofConfig built
    refine ⟨⟨word, reads stackPointer, same⟩, fun register other => ?_⟩
    rw [reads register, Config.initialValue, if_neg other]

/-- A start address between two neighbouring floating-point numbers arrives as it is, and a
reset leads back to it. The first one above the signed words is read, but has a negative
reading. The least signed word can be a stack pointer. -/
theorem numbers_at_limits_survive :
    (∃ config machine after,
      Config.ofText "\x7b\"general\":\x7b\"start_pc\":36028797018963972\x7d\x7d" = .ok config ∧
      Machine.ofConfig config = .ok machine ∧ machine.pc.toNat = 2 ^ 55 + 4 ∧
      Exec.reset.run { machine := { machine with pc := 8 } } = .ok () after ∧
      after.machine.pc.toNat = 2 ^ 55 + 4) ∧
    (∃ config, ∃ address : Word,
      Config.ofText "\x7b\"general\":\x7b\"start_pc\":9223372036854775808\x7d\x7d" =
        .ok config ∧
      Machine.ofConfig config = .error (.invalidProgramCounter address) ∧
      address.toInt = -2 ^ 63) ∧
    ∃ config machine, ∃ word : Word,
      Config.ofText "\x7b\"registers\":\x7b\"initial_sp\":-9223372036854775808\x7d\x7d" =
        .ok config ∧
      Machine.ofConfig config = .ok machine ∧
      (Exec.readRegister 28).run { machine } = .ok word { machine } ∧ word.toInt = -2 ^ 63 := by
  refine ⟨?between, ?above, ?least⟩
  case between =>
    obtain ⟨readable, started, -⟩ := configured_numbers_survive (2 ^ 55 + 4)
    obtain ⟨config, read⟩ := readable.2 (by decide)
    obtain ⟨buildable, starts, -⟩ := started config read
    obtain ⟨machine, built⟩ := buildable.2 (by decide)
    obtain ⟨pc, -, returns⟩ := starts machine built
    obtain ⟨after, succeeded, back⟩ := returns { machine := { machine with pc := 8 } } rfl
    exact ⟨config, machine, after, read, built, by omega, succeeded, by omega⟩
  case above =>
    obtain ⟨readable, started, -⟩ := configured_numbers_survive (2 ^ 63)
    obtain ⟨config, read⟩ := readable.2 (by decide)
    obtain ⟨-, -, refused⟩ := started config read
    obtain ⟨address, failed, reading⟩ := refused (by decide)
    exact ⟨config, address, read, failed, reading⟩
  case least =>
    obtain ⟨-, -, readable, stacked⟩ := configured_numbers_survive (-2 ^ 63)
    obtain ⟨config, read⟩ := readable.2 (by decide)
    obtain ⟨machine, built, shows⟩ := stacked config read
    obtain ⟨⟨word, reads, same⟩, -⟩ := shows { machine } rfl
    exact ⟨config, machine, word, read, built, reads, same⟩

end Datapath
