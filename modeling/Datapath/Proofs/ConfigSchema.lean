import Datapath.Config
import Datapath.Proofs.RecordLayout

/-!
# The documents that are configurations

A document is a configuration if it fits the schema: it is a record of three sections, each
of them a record again, with truth values, an unsigned and a signed word as parts. Every
part may be left out. A configuration is described by a document if each of its fields has
the value of its part, or the default if there is none.

Reading finds out both: a text of a document is read if the document fits the schema, and
then as the one configuration that the document describes. The order in which the members
of an object are written makes no difference.
-/

namespace Datapath

namespace Json

/-! ## Words and truth values -/

/-- The tree is a truth value. -/
def Tree.IsTruth (tree : Tree) : Prop := ∃ value, tree = .bool value

/-- The tree is an integer within bounds. -/
def Tree.IsIntegerWithin (lowest highest : Int) (tree : Tree) : Prop :=
  ∃ value, tree.IsInteger value ∧ lowest ≤ value ∧ value ≤ highest

/-- An integer within the bounds of an unsigned word is an unsigned word. -/
theorem Tree.isUnsigned_iff (tree : Tree) :
    tree.IsIntegerWithin 0 (2 ^ 64 - 1) ↔ ∃ word, tree.MeansUnsigned word := by
  constructor
  · rintro ⟨value, isInteger, least, most⟩
    refine ⟨BitVec.ofInt 64 value, ?_⟩
    rw [MeansUnsigned, Word.toNat_ofInt least (by omega)]
    exact isInteger
  · rintro ⟨word, isInteger⟩
    have below := word.isLt
    exact ⟨_, isInteger, by omega, by omega⟩

/-- Nothing, or an integer within the bounds of a signed word, is a signed word or nothing. -/
theorem Tree.isSigned_iff (tree : Tree) :
    (tree = .null ∨ tree.IsIntegerWithin (-2 ^ 63) (2 ^ 63 - 1)) ↔
      ∃ word?, tree.MeansSigned word? := by
  constructor
  · rintro (rfl | ⟨value, isInteger, least, most⟩)
    · exact ⟨_, .nothing⟩
    · refine ⟨some (BitVec.ofInt 64 value), .integer ?_⟩
      rw [Word.toInt_ofInt least (by omega)]
      exact isInteger
  · rintro ⟨_, _ | @⟨_, word, isInteger⟩⟩
    · exact .inl rfl
    · have lower := word.le_toInt
      have upper := word.toInt_lt
      exact .inr ⟨_, isInteger, by omega, by omega⟩

/-- A truth value has no members that could be reordered. -/
theorem Tree.meansTruth_orderFree : OrderFree Tree.MeansTruth := by
  rintro left right value reordered rfl
  exact reordered.eq_of_leaf nofun nofun

/-- An integer has no members that could be reordered. -/
theorem Tree.isInteger_orderFree : OrderFree Tree.IsInteger := by
  rintro left right value reordered ⟨proper, denotes⟩
  rw [reordered.eq_of_leaf nofun nofun]
  exact .number proper denotes

/-- A signed word or nothing has no members that could be reordered. -/
theorem Tree.meansSigned_orderFree : OrderFree Tree.MeansSigned := by
  rintro left right value reordered (_ | isInteger)
  · rw [reordered.eq_of_leaf nofun nofun]
    exact .nothing
  · exact .integer (isInteger_orderFree reordered isInteger)

/-- Truth values are read as such, and nothing else is. -/
theorem Reader.boolean_specified : boolean.Specified Tree.IsTruth Tree.MeansTruth :=
  ⟨boolean_reads, fun _ => Iff.rfl, Tree.meansTruth_orderFree⟩

/-- Integers that an unsigned word can hold are read as that word, and nothing else is. -/
theorem Reader.unsignedWord_specified :
    unsignedWord.Specified (Tree.IsIntegerWithin 0 (2 ^ 64 - 1)) Tree.MeansUnsigned :=
  ⟨unsignedWord_reads, Tree.isUnsigned_iff,
    fun reordered isInteger => Tree.isInteger_orderFree reordered isInteger⟩

/-- Integers that a signed word can hold are read as that word and null as none, and nothing else
is read. -/
theorem Reader.optionalSignedWord_specified :
    optionalSignedWord.Specified
      (fun part => part = .null ∨ part.IsIntegerWithin (-2 ^ 63) (2 ^ 63 - 1)) Tree.MeansSigned :=
  ⟨optionalSignedWord_reads, Tree.isSigned_iff, Tree.meansSigned_orderFree⟩

end Json

open Json

/-! ## Sections -/

/-- What the general section may hold. -/
def GeneralConfig.schema : Schema :=
  [("trace_steps", Tree.IsTruth), ("start_pc", Tree.IsIntegerWithin 0 (2 ^ 64 - 1))]

/-- What the register section may hold. -/
def RegisterConfig.schema : Schema :=
  [("initial_sp", fun part => part = .null ∨ part.IsIntegerWithin (-2 ^ 63) (2 ^ 63 - 1))]

/-- What the listing section may hold. -/
def Listing.Filter.schema : Schema :=
  [("nonzero_only", Tree.IsTruth), ("aligned_only", Tree.IsTruth)]

/-- What a configuration may hold. -/
def Config.schema : Schema :=
  [("general", Tree.Fits GeneralConfig.schema), ("registers", Tree.Fits RegisterConfig.schema),
    ("dump", Tree.Fits Listing.Filter.schema)]

/-- The tree describes the general settings. -/
structure GeneralConfig.DescribedBy (config : GeneralConfig) (tree : Tree) : Prop where
  record : tree.IsRecord schema.names
  traceSteps : Given Tree.MeansTruth ({} : Config).general.traceSteps
    (tree.part? schema.names "trace_steps") config.traceSteps
  startPc : Given Tree.MeansUnsigned ({} : Config).general.startPc
    (tree.part? schema.names "start_pc") config.startPc

/-- The tree describes the register settings. -/
structure RegisterConfig.DescribedBy (config : RegisterConfig) (tree : Tree) : Prop where
  record : tree.IsRecord schema.names
  initialSp : Given Tree.MeansSigned ({} : Config).registers.initialSp
    (tree.part? schema.names "initial_sp") config.initialSp

/-- The tree describes the listing settings. -/
structure Listing.Filter.DescribedBy (filter : Listing.Filter) (tree : Tree) : Prop where
  record : tree.IsRecord schema.names
  nonzeroOnly : Given Tree.MeansTruth ({} : Config).listing.nonzeroOnly
    (tree.part? schema.names "nonzero_only") filter.nonzeroOnly
  alignedOnly : Given Tree.MeansTruth ({} : Config).listing.alignedOnly
    (tree.part? schema.names "aligned_only") filter.alignedOnly

/-- The tree describes the configuration. -/
structure Config.DescribedBy (config : Config) (tree : Tree) : Prop where
  record : tree.IsRecord schema.names
  general : Given (fun part settings => settings.DescribedBy part) ({} : Config).general
    (tree.part? schema.names "general") config.general
  registers : Given (fun part settings => settings.DescribedBy part) ({} : Config).registers
    (tree.part? schema.names "registers") config.registers
  listing : Given (fun part settings => settings.DescribedBy part) ({} : Config).listing
    (tree.part? schema.names "dump") config.listing

/-! ## Components -/

/-- The components of the general settings. -/
def GeneralConfig.components : List (Record.Component GeneralConfig) :=
  [⟨"trace_steps", Tree.IsTruth, Tree.MeansTruth, Reader.boolean, traceSteps,
      fun config value => { config with traceSteps := value }⟩,
    ⟨"start_pc", Tree.IsIntegerWithin 0 (2 ^ 64 - 1), Tree.MeansUnsigned, Reader.unsignedWord,
      startPc, fun config value => { config with startPc := value }⟩]

/-- The components of the register settings. -/
def RegisterConfig.components : List (Record.Component RegisterConfig) :=
  [⟨"initial_sp", fun part => part = .null ∨ part.IsIntegerWithin (-2 ^ 63) (2 ^ 63 - 1),
    Tree.MeansSigned, Reader.optionalSignedWord, initialSp,
    fun config value => { config with initialSp := value }⟩]

/-- The components of the listing settings. -/
def Listing.Filter.components : List (Record.Component Listing.Filter) :=
  [⟨"nonzero_only", Tree.IsTruth, Tree.MeansTruth, Reader.boolean, nonzeroOnly,
      fun filter value => { filter with nonzeroOnly := value }⟩,
    ⟨"aligned_only", Tree.IsTruth, Tree.MeansTruth, Reader.boolean, alignedOnly,
      fun filter value => { filter with alignedOnly := value }⟩]

/-- The components of a configuration, which are records themselves. -/
def Config.components : List (Record.Component Config) :=
  [⟨"general", Tree.Fits GeneralConfig.schema, fun part settings => settings.DescribedBy part,
      Record.reader "GeneralConfig" generalFields {}, general,
      fun config value => { config with general := value }⟩,
    ⟨"registers", Tree.Fits RegisterConfig.schema, fun part settings => settings.DescribedBy part,
      Record.reader "RegisterConfig" registerFields {}, registers,
      fun config value => { config with registers := value }⟩,
    ⟨"dump", Tree.Fits Listing.Filter.schema, fun part settings => settings.DescribedBy part,
      Record.reader "DumpConfig" listingFields {}, listing,
      fun config value => { config with listing := value }⟩]

/-! ## Readers of the sections -/

/-- General settings are described by what is given for their two components. -/
theorem GeneralConfig.describedBy_iff {config : GeneralConfig} {tree : Tree} :
    config.DescribedBy tree ↔ Record.Describes components {} tree config := by
  constructor
  · rintro ⟨record, traceSteps, startPc⟩
    exact ⟨record, List.forall_mem_cons.2 ⟨traceSteps, List.forall_mem_singleton.2 startPc⟩⟩
  · rintro ⟨record, given⟩
    obtain ⟨traceSteps, others⟩ := List.forall_mem_cons.1 given
    obtain ⟨startPc, -⟩ := List.forall_mem_cons.1 others
    exact ⟨record, traceSteps, startPc⟩

/-- The layout of the general settings has two lawful components, which are apart. -/
theorem GeneralConfig.layout : Record.Layout components where
  names := by decide
  lawful := List.forall_mem_cons.2
    ⟨⟨Reader.boolean_specified, fun _ _ => rfl, fun _ => rfl⟩,
      List.forall_mem_singleton.2 ⟨Reader.unsignedWord_specified, fun _ _ => rfl, fun _ => rfl⟩⟩
  apart := List.pairwise_pair.2 ⟨fun _ _ => rfl, fun _ _ => rfl, fun _ _ _ => rfl⟩

/-- The general section is specified by its schema. -/
theorem GeneralConfig.specified (title : String) :
    (Record.reader title Config.generalFields {}).Specified (Tree.Fits schema)
      fun tree config => config.DescribedBy tree := by
  refine layout.specified ?whole title describedBy_iff
  intro left right same
  obtain ⟨traceSteps, others⟩ := List.forall_mem_cons.1 same
  obtain ⟨startPc, -⟩ := List.forall_mem_cons.1 others
  exact congrArg₂ GeneralConfig.mk traceSteps startPc

/-- Register settings are described by what is given for their component. -/
theorem RegisterConfig.describedBy_iff {config : RegisterConfig} {tree : Tree} :
    config.DescribedBy tree ↔ Record.Describes components {} tree config := by
  constructor
  · rintro ⟨record, initialSp⟩
    exact ⟨record, List.forall_mem_singleton.2 initialSp⟩
  · rintro ⟨record, given⟩
    obtain ⟨initialSp, -⟩ := List.forall_mem_cons.1 given
    exact ⟨record, initialSp⟩

/-- The layout of the register settings has one lawful component. -/
theorem RegisterConfig.layout : Record.Layout components where
  names := by decide
  lawful := List.forall_mem_singleton.2
    ⟨Reader.optionalSignedWord_specified, fun _ _ => rfl, fun _ => rfl⟩
  apart := List.pairwise_singleton ..

/-- The register section is specified by its schema. -/
theorem RegisterConfig.specified (title : String) :
    (Record.reader title Config.registerFields {}).Specified (Tree.Fits schema)
      fun tree config => config.DescribedBy tree := by
  refine layout.specified ?whole title describedBy_iff
  intro left right same
  obtain ⟨initialSp, -⟩ := List.forall_mem_cons.1 same
  exact congrArg RegisterConfig.mk initialSp

/-- Listing settings are described by what is given for their two components. -/
theorem Listing.Filter.describedBy_iff {filter : Listing.Filter} {tree : Tree} :
    filter.DescribedBy tree ↔ Record.Describes components {} tree filter := by
  constructor
  · rintro ⟨record, nonzeroOnly, alignedOnly⟩
    exact ⟨record, List.forall_mem_cons.2 ⟨nonzeroOnly, List.forall_mem_singleton.2 alignedOnly⟩⟩
  · rintro ⟨record, given⟩
    obtain ⟨nonzeroOnly, others⟩ := List.forall_mem_cons.1 given
    obtain ⟨alignedOnly, -⟩ := List.forall_mem_cons.1 others
    exact ⟨record, nonzeroOnly, alignedOnly⟩

/-- The layout of the listing settings has two lawful components, which are apart. -/
theorem Listing.Filter.layout : Record.Layout components where
  names := by decide
  lawful := List.forall_mem_cons.2
    ⟨⟨Reader.boolean_specified, fun _ _ => rfl, fun _ => rfl⟩,
      List.forall_mem_singleton.2 ⟨Reader.boolean_specified, fun _ _ => rfl, fun _ => rfl⟩⟩
  apart := List.pairwise_pair.2 ⟨fun _ _ => rfl, fun _ _ => rfl, fun _ _ _ => rfl⟩

/-- The listing section is specified by its schema. -/
theorem Listing.Filter.specified (title : String) :
    (Record.reader title Config.listingFields {}).Specified (Tree.Fits schema)
      fun tree filter => filter.DescribedBy tree := by
  refine layout.specified ?whole title describedBy_iff
  intro left right same
  obtain ⟨nonzeroOnly, others⟩ := List.forall_mem_cons.1 same
  obtain ⟨alignedOnly, -⟩ := List.forall_mem_cons.1 others
  exact congrArg₂ Listing.Filter.mk nonzeroOnly alignedOnly

/-! ## Configurations -/

/-- A configuration is described by what is given for its three sections. -/
theorem Config.describedBy_iff {config : Config} {tree : Tree} :
    config.DescribedBy tree ↔ Record.Describes components {} tree config := by
  constructor
  · rintro ⟨record, general, registers, listing⟩
    refine ⟨record, List.forall_mem_cons.2 ⟨general, ?_⟩⟩
    exact List.forall_mem_cons.2 ⟨registers, List.forall_mem_singleton.2 listing⟩
  · rintro ⟨record, given⟩
    obtain ⟨general, others⟩ := List.forall_mem_cons.1 given
    obtain ⟨registers, last⟩ := List.forall_mem_cons.1 others
    obtain ⟨listing, -⟩ := List.forall_mem_cons.1 last
    exact ⟨record, general, registers, listing⟩

/-- The layout of a configuration has three lawful components, its sections, which are apart. -/
theorem Config.layout : Record.Layout components where
  names := by decide
  lawful := List.forall_mem_cons.2 ⟨⟨GeneralConfig.specified _, fun _ _ => rfl, fun _ => rfl⟩,
    List.forall_mem_cons.2 ⟨⟨RegisterConfig.specified _, fun _ _ => rfl, fun _ => rfl⟩,
      List.forall_mem_singleton.2
        ⟨Listing.Filter.specified _, fun _ _ => rfl, fun _ => rfl⟩⟩⟩
  apart := by
    refine .cons (List.forall_mem_cons.2 ⟨?_, List.forall_mem_singleton.2 ?_⟩)
      (List.pairwise_pair.2 ?_) <;>
    exact ⟨fun _ _ => rfl, fun _ _ => rfl, fun _ _ _ => rfl⟩

/-- The reader of configurations is specified by their schema: it accepts the documents that fit
it, and makes of each the configuration that it describes. -/
theorem Config.specified : reader.Specified (Tree.Fits schema)
    fun tree config => config.DescribedBy tree := by
  refine layout.specified ?whole "Config" describedBy_iff
  intro left right same
  obtain ⟨general, others⟩ := List.forall_mem_cons.1 same
  obtain ⟨registers, last⟩ := List.forall_mem_cons.1 others
  obtain ⟨listing, -⟩ := List.forall_mem_cons.1 last
  exact congr (congrArg₂ Config.mk general registers) listing

/-! ## Texts -/

/-- A text of a document is read as the configuration that the document describes. -/
theorem Config.ofText_eq_ok_iff {tree : Tree} {text : String} (spelled : tree.Spells text)
    {config : Config} : ofText text = .ok config ↔ config.DescribedBy tree :=
  specified.reads.ofText_eq_ok_iff spelled

/-- Every document has a text, and each of its texts is read as a configuration if and only
if the document fits the schema. Every field then has the value that the document gives for
it, or its default; and every text of a document that differs in the order of members alone
is read as the same configuration, or as none. -/
theorem texts_are_read_by_schema (tree : Tree) :
    (∃ text, tree.Spells text) ∧
      ∀ text, tree.Spells text →
        ((∃ config, Config.ofText text = .ok config) ↔ tree.Fits Config.schema) ∧
        (∀ config, Config.ofText text = .ok config ↔ config.DescribedBy tree) ∧
        ∀ other otherText, tree.Reordered other → other.Spells otherText →
          ∀ config, Config.ofText text = .ok config ↔ Config.ofText otherText = .ok config := by
  refine ⟨tree.exists_text, fun text spelled => ⟨?_, ?_, ?_⟩⟩
  · simp only [Config.ofText_eq_ok_iff spelled]
    exact (Config.specified.valid_iff tree).symm
  · exact fun config => Config.ofText_eq_ok_iff spelled
  · intro other otherText reordered otherSpelled config
    rw [Config.ofText_eq_ok_iff spelled, Config.ofText_eq_ok_iff otherSpelled]
    exact ⟨Config.specified.orderFree reordered, Config.specified.orderFree reordered.symm⟩

/-- The members of a small document: a listing section by position, an array under a name that
is no field's, and a start address. -/
def Config.sampleMembers (unknown startPc : Tree) : List (Spelling × Tree) :=
  [(.plain "dump" (by decide), .array [.bool false]), (.plain "x" (by decide), .array [unknown]),
    (.plain "general" (by decide), .object [(.plain "start_pc" (by decide), startPc)])]

/-- With a numeral too large for any word in the array, the small document is read alike in this
order and in another. -/
theorem sample_is_read_in_any_order :
    ∃ unknown startPc : Tree,
      (Tree.object (Config.sampleMembers unknown startPc)).Spells
        "\x7b\"dump\":[false],\"x\":[1e999],\"general\":\x7b\"start_pc\": 12\x7d\x7d" ∧
      (Tree.object (Config.sampleMembers unknown startPc)).Reordered
        (.object (Config.sampleMembers unknown startPc).reverse) ∧
      (Tree.object (Config.sampleMembers unknown startPc).reverse).Spells
        "\x7b\"general\":\x7b\"start_pc\": 12\x7d,\"x\":[1e999],\"dump\":[false] \x7d" ∧
      Config.ofText
        "\x7b\"dump\":[false],\"x\":[1e999],\"general\":\x7b\"start_pc\": 12\x7d\x7d" =
          .ok { general := { startPc := 12 }, listing := { nonzeroOnly := false } } ∧
      Config.ofText
        "\x7b\"general\":\x7b\"start_pc\": 12\x7d,\"x\":[1e999],\"dump\":[false] \x7d" =
          .ok { general := { startPc := 12 }, listing := { nonzeroOnly := false } } := by
  have twelve : ({ negative := false, whole := [1, 2] } : Numeral).Proper :=
    ⟨by decide, by decide, by decide⟩
  have huge : ({ negative := false, whole := [1], exponent := some ⟨false, [9, 9, 9]⟩ } :
      Numeral).Proper := ⟨by decide, by decide, by decide⟩
  have noSign : [] ∈ Exponent.signs false := List.mem_cons_self
  have listingSpelled := Token.SpellAll.token (Spelling.plain_spells "dump" (by decide)) <|
    .token .colon <| .token .openBracket <| .token .false <| .token .closeBracket .nil
  have unknownSpelled := Token.SpellAll.token (Spelling.plain_spells "x" (by decide)) <|
    .token .colon <| .token .openBracket <|
    .token (.number huge (.digits (.some List.mem_cons_self noSign))) <| .token .closeBracket .nil
  have generalSpelled := Token.SpellAll.token (Spelling.plain_spells "general" (by decide)) <|
    .token .colon <| .token .openBrace <|
    .token (Spelling.plain_spells "start_pc" (by decide)) <| .token .colon <|
    .blank List.mem_cons_self <| .token (.number twelve (.digits .none)) <|
    .token .closeBrace .nil
  have forward : (Tree.object (Config.sampleMembers (.number _ huge) (.number _ twelve))).Spells
      "\x7b\"dump\":[false],\"x\":[1e999],\"general\":\x7b\"start_pc\": 12\x7d\x7d" :=
    .token .openBrace <| listingSpelled.append <| .token .comma <| unknownSpelled.append <|
      .token .comma <| generalSpelled.append <| .token .closeBrace .nil
  have backward :
      (Tree.object (Config.sampleMembers (.number _ huge) (.number _ twelve)).reverse).Spells
        "\x7b\"general\":\x7b\"start_pc\": 12\x7d,\"x\":[1e999],\"dump\":[false] \x7d" :=
    .token .openBrace <| generalSpelled.append <| .token .comma <| unknownSpelled.append <|
      .token .comma <| listingSpelled.append <| .blank List.mem_cons_self <| .token .closeBrace .nil
  have reordered := Tree.Reordered.members
    (Config.sampleMembers (.number _ huge) (.number _ twelve)).reverse_perm.symm
  have described : Config.DescribedBy
      { general := { startPc := 12 }, listing := { nonzeroOnly := false } }
      (.object (Config.sampleMembers (.number _ huge) (.number _ twelve))) := by
    have sections : ∀ name ∈ Config.schema.names, ["dump", "x", "general"].count name ≤ 1 := by
      decide
    have fields : ∀ name ∈ GeneralConfig.schema.names, ["start_pc"].count name ≤ 1 := by decide
    refine ⟨sections, .given ?_, .omitted, .given ?_⟩
    · exact ⟨fields, .omitted, .given (.number _ ⟨rfl, rfl, rfl, by decide⟩)⟩
    · exact ⟨by decide, .given rfl, .omitted⟩
  obtain ⟨-, readings⟩ := texts_are_read_by_schema
    (.object (Config.sampleMembers (.number _ huge) (.number _ twelve)))
  obtain ⟨-, reads, alike⟩ := readings _ forward
  have read := (reads _).2 described
  exact ⟨_, _, forward, reordered, backward, read, (alike _ _ reordered backward _).1 read⟩

end Datapath
