import Datapath.Proofs.MemberOrder
import Datapath.Proofs.RecordReading

/-!
# Records and their components

A record is laid out by its components. Each has a name, can be looked up and set in the record,
and has a reader for the values that a document may give for it. What a component sets no other
sees, and a record is nothing but its components.

A reader is specified by the trees that it accepts and by what they mean, as long as their
meaning does not depend on the order of members. If the readers of all components are specified,
then so is that of the record: it accepts the trees that fit the schema of the components, and
makes of each the record that it describes. Since this again is a specified reader, records may
be components of records.
-/

namespace Datapath.Json

/-! ## Schemas -/

/-- The fields of a record by name, each with what must hold of a value given for it. -/
abbrev Schema := List (String × (Tree → Prop))

/-- The names of the fields. -/
def Schema.names (schema : Schema) : List String := schema.map Prod.fst

/-- The tree is a record, and what it gives for a field is as the field demands. -/
structure Tree.Fits (schema : Schema) (tree : Tree) : Prop where
  record : tree.IsRecord schema.names
  parts : ∀ field ∈ schema, ∀ part ∈ tree.part? schema.names field.1, field.2 part

/-! ## Specified readers -/

section Specified

variable {α : Type} {means : Tree → α → Prop}

/-- What a tree means does not depend on the order of its members. -/
def OrderFree (means : Tree → α → Prop) : Prop :=
  ∀ {left right : Tree} {value : α}, left.Reordered right → means left value → means right value

/-- A value given for a field does not depend on the order of members in its part. -/
theorem OrderFree.given (orderFree : OrderFree means) {default value : α}
    {left right : Option Tree} (alike : Option.Rel Tree.Reordered left right)
    (given : Given means default left value) : Given means default right value := by
  cases alike with
  | none =>
    cases given
    exact .omitted
  | some reordered =>
    cases given with
    | given meant => exact .given (orderFree reordered meant)

/-- The reader accepts exactly the valid trees, and makes of them what they mean in any order of
their members. -/
structure Reader.Specified (reader : Reader α) (valid : Tree → Prop) (means : Tree → α → Prop) :
    Prop where
  reads : reader.Reads means
  valid_iff : ∀ tree, valid tree ↔ ∃ value, means tree value
  orderFree : OrderFree means

/-- A value is given or left out just if what is given, if anything, is valid. -/
theorem exists_given_iff {valid : Tree → Prop} {default : α} {part? : Option Tree}
    (same : ∀ part, valid part ↔ ∃ value, means part value) :
    (∀ part ∈ part?, valid part) ↔ ∃ value, Given means default part? value := by
  cases part? with
  | none => simp
  | some part => simp [same]

/-- What is given for a field means one value at most, as far as there is a reader for it. -/
theorem Given.unique {reader : Reader α} (reads : reader.Reads means) {default first second : α}
    {part? : Option Tree} (one : Given means default part? first)
    (other : Given means default part? second) : first = second := by
  cases one with
  | omitted =>
    cases other
    rfl
  | given meant =>
    cases other with
    | given meantAgain =>
      exact Option.some.inj ((reads.meaning.2 meant).symm.trans (reads.meaning.2 meantAgain))

end Specified

/-! ## Components -/

namespace Record

/-- One component of a record, with what a document may give for it. -/
structure Component (ρ : Type) where
  {content : Type}
  name : String
  valid : Tree → Prop
  means : Tree → content → Prop
  reader : Reader content
  get : ρ → content
  set : ρ → content → ρ

namespace Component

variable {ρ : Type}

/-- The component as a field that is read. -/
def field (component : Component ρ) : Field ρ := .of component.name component.reader component.set

/-- The component as a field of a schema. -/
def demand (component : Component ρ) : String × (Tree → Prop) := (component.name, component.valid)

/-- The reader of the component is specified, and it shows what was set, whether this is new or
what it showed before. -/
structure Lawful (component : Component ρ) : Prop where
  specified : component.reader.Specified component.valid component.means
  get_set : ∀ record value, component.get (component.set record value) = value
  set_get : ∀ record, component.set record (component.get record) = record

/-- Neither component sees what is set in the other, nor does it matter which is set first. -/
structure Apart (left right : Component ρ) : Prop where
  get_left : ∀ record value, left.get (right.set record value) = left.get record
  get_right : ∀ record value, right.get (left.set record value) = right.get record
  comm : ∀ record first second,
    right.set (left.set record first) second = left.set (right.set record second) first

end Component

section Layout

variable {ρ : Type} {components : List (Component ρ)} {part? : String → Option Tree}

/-- Lawful components of different names that do not see each other. -/
structure Layout (components : List (Component ρ)) : Prop where
  names : (components.map Component.name).Nodup
  lawful : ∀ component ∈ components, component.Lawful
  apart : components.Pairwise Component.Apart

/-- What follows the first component is laid out by itself. -/
theorem Layout.tail {component : Component ρ} (layout : Layout (component :: components)) :
    Layout components where
  names := (List.nodup_cons.1 layout.names).2
  lawful other among := layout.lawful other (List.mem_cons_of_mem _ among)
  apart := (List.pairwise_cons.1 layout.apart).2

/-- The first component is filled with the value given for it, and then the others are. -/
theorem Layout.fill_cons_iff {component : Component ρ} (layout : Layout (component :: components))
    {record result : ρ} :
    fill part? ((component :: components).map Component.field) record = some result ↔
      ∃ value, Given component.means (component.get record) (part? component.name) value ∧
        fill part? (components.map Component.field) (component.set record value) = some result :=
  have lawful := layout.lawful component List.mem_cons_self
  fill_cons_eq_some_iff lawful.specified.reads (lawful.set_get record)

/-- Laid out components are fields that can be read in any order. -/
theorem Layout.lawful_fields (layout : Layout components) :
    Lawful (components.map Component.field) where
  names := by
    rw [List.map_map]
    exact layout.names
  settles := by
    intro field among
    obtain ⟨component, inside, rfl⟩ := List.mem_map.1 among
    exact fun record =>
      (Field.of_settles (layout.lawful component inside).specified.reads.settles record).1
  commute := by
    refine List.pairwise_map.2 (layout.apart.imp_of_mem fun {left right} first second apart => ?_)
    exact Field.commute_of (layout.lawful left first).specified.reads.settles
      (layout.lawful right second).specified.reads.settles apart.comm

/-- Filling keeps whatever none of the components shows. -/
theorem Layout.kept_of_fill {β : Type} (layout : Layout components) (look : ρ → β)
    (blind : ∀ component ∈ components, ∀ record value,
      look (component.set record value) = look record)
    {record result : ρ} (filled : fill part? (components.map Component.field) record = some result) :
    look result = look record := by
  induction components generalizing record with
  | nil =>
    cases filled
    rfl
  | cons component components inductionHypothesis =>
    obtain ⟨value, _, others⟩ := layout.fill_cons_iff.1 filled
    have kept := inductionHypothesis layout.tail
      (fun other among => blind other (List.mem_cons_of_mem _ among)) others
    rw [kept, blind component List.mem_cons_self]

/-- A filled record shows in each component what was given for it. The components after the first
do not see that it was set, and it does not see what is filled after it. -/
theorem Layout.given_of_fill (layout : Layout components) {record result : ρ}
    (filled : fill part? (components.map Component.field) record = some result) :
    ∀ component ∈ components, Given component.means (component.get record)
      (part? component.name) (component.get result) := by
  induction components generalizing record with
  | nil => exact List.forall_mem_nil _
  | cons component components inductionHypothesis =>
    obtain ⟨value, given, others⟩ := layout.fill_cons_iff.1 filled
    have apart := (List.pairwise_cons.1 layout.apart).1
    refine List.forall_mem_cons.2 ⟨?first, ?further⟩
    case first =>
      have kept := layout.tail.kept_of_fill component.get
        (fun other among => (apart other among).get_left) others
      rw [kept, (layout.lawful component List.mem_cons_self).get_set]
      exact given
    case further =>
      intro other among
      have further := inductionHypothesis layout.tail others other among
      rw [(apart other among).get_right] at further
      exact further

/-- A record can be filled just if everything that is given is valid for its component. -/
theorem Layout.exists_fill_iff (layout : Layout components) (record : ρ) :
    (∃ result, fill part? (components.map Component.field) record = some result) ↔
      ∀ component ∈ components, ∀ part ∈ part? component.name, component.valid part := by
  induction components generalizing record with
  | nil => exact ⟨fun _ => List.forall_mem_nil _, fun _ => ⟨record, rfl⟩⟩
  | cons component components inductionHypothesis =>
    have specified := (layout.lawful component List.mem_cons_self).specified
    rw [List.forall_mem_cons, exists_given_iff specified.valid_iff]
    constructor
    · rintro ⟨result, filled⟩
      obtain ⟨value, given, others⟩ := layout.fill_cons_iff.1 filled
      exact ⟨⟨value, given⟩, (inductionHypothesis layout.tail _).1 ⟨result, others⟩⟩
    · rintro ⟨⟨value, given⟩, further⟩
      obtain ⟨result, others⟩ :=
        (inductionHypothesis layout.tail (component.set record value)).2 further
      exact ⟨result, layout.fill_cons_iff.2 ⟨value, given, others⟩⟩

/-- The tree is a record that gives for each component what the record shows in it, or leaves the
component out where the record shows what it did at first. -/
structure Describes (components : List (Component ρ)) (initial : ρ) (tree : Tree) (record : ρ) :
    Prop where
  isRecord : tree.IsRecord (components.map Component.name)
  given : ∀ component ∈ components, Given component.means (component.get initial)
    (tree.part? (components.map Component.name) component.name) (component.get record)

/-- The layout shows all there is to a record. -/
def Whole (components : List (Component ρ)) : Prop :=
  ∀ left right : ρ, (∀ component ∈ components, component.get left = component.get right) →
    left = right

/-- If the components are all there is, the filled record is the only one that shows in each of
them what was given for it. -/
theorem Layout.fill_eq_some_iff (layout : Layout components) (whole : Whole components)
    {record result : ρ} :
    fill part? (components.map Component.field) record = some result ↔
      ∀ component ∈ components, Given component.means (component.get record)
        (part? component.name) (component.get result) := by
  constructor
  · exact layout.given_of_fill
  · intro given
    have valid : ∀ component ∈ components, ∀ part ∈ part? component.name,
        component.valid part := by
      intro component among
      have specified := (layout.lawful component among).specified
      exact (exists_given_iff specified.valid_iff).2 ⟨_, given component among⟩
    obtain ⟨other, filled⟩ := (layout.exists_fill_iff record).2 valid
    have same : other = result := by
      refine whole other result fun component among => ?_
      exact (layout.given_of_fill filled component among).unique
        (layout.lawful component among).specified.reads (given component among)
    rw [filled, same]

variable {means : Tree → ρ → Prop} {initial : ρ}

/-- A record is read as a document describes it, if its components are. -/
theorem Layout.reads (layout : Layout components) (whole : Whole components) (title : String) :
    (reader title (components.map Component.field) initial).Reads
      (Describes components initial) := by
  have names : (components.map Component.field).map Field.name =
      components.map Component.name := List.map_map
  refine reader_reads title layout.lawful_fields (fun described => ?_) fun {tree result} record => ?_
  · rw [names]
    exact described.isRecord
  · rw [names] at record ⊢
    rw [layout.fill_eq_some_iff whole]
    exact ⟨fun given => ⟨record, given⟩, fun described => described.given⟩

/-- A document describes a record if and only if it fits the schema of the components. -/
theorem Layout.fits_iff (layout : Layout components) (whole : Whole components) (tree : Tree) :
    tree.Fits (components.map Component.demand) ↔
      ∃ record, Describes components initial tree record := by
  have names : Schema.names (components.map Component.demand) =
      components.map Component.name := List.map_map
  constructor
  · rintro ⟨record, parts⟩
    rw [names] at record parts
    have valid : ∀ component ∈ components,
        ∀ part ∈ tree.part? (components.map Component.name) component.name,
          component.valid part :=
      fun component among => parts component.demand (List.mem_map_of_mem among)
    obtain ⟨result, filled⟩ := (layout.exists_fill_iff initial).2 valid
    exact ⟨result, record, (layout.fill_eq_some_iff whole).1 filled⟩
  · rintro ⟨result, record, given⟩
    refine ⟨names ▸ record, ?_⟩
    rw [names]
    intro field among
    obtain ⟨component, inside, rfl⟩ := List.mem_map.1 among
    have specified := (layout.lawful component inside).specified
    exact (exists_given_iff specified.valid_iff).2 ⟨_, given component inside⟩

/-- A document in another order of members describes the same record. -/
theorem Layout.orderFree (layout : Layout components) :
    OrderFree (Describes components initial) := by
  rintro left right record reordered ⟨isRecord, given⟩
  obtain ⟨stillRecord, alike⟩ := reordered.part?_alike isRecord
  refine ⟨stillRecord, fun component among => ?_⟩
  have orderFree : OrderFree component.means := (layout.lawful component among).specified.orderFree
  exact orderFree.given (alike component.name (List.mem_map_of_mem among)) (given component among)

/-- The reader of a record is specified by its schema and by what describes the record, if the
readers of its components are. -/
theorem Layout.specified (layout : Layout components) (whole : Whole components) (title : String)
    (same : ∀ {tree record}, means tree record ↔ Describes components initial tree record) :
    (reader title (components.map Component.field) initial).Specified
      (Tree.Fits (components.map Component.demand)) means := by
  obtain rfl : means = Describes components initial :=
    funext fun _ => funext fun _ => propext same
  exact ⟨layout.reads whole title, layout.fits_iff whole, layout.orderFree⟩

end Layout
end Record
end Datapath.Json
