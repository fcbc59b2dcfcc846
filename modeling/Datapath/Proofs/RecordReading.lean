import Datapath.Proofs.Readers
import Mathlib.Data.List.Nodup

/-!
# What a record means

The meaning of a record is found field by field: a field takes the meaning of the part that
the tree gives for it, or keeps its value if there is none. It does not matter in which
order an object gives the parts, what stands between them under other names, or whether the
parts are given without names in an array. There is none if an object gives a field twice,
if an array has too many elements, or if a part has no meaning for its field.
-/

namespace Datapath.Json

/-! ## Fields -/

namespace Field

variable {α ρ : Type}

/-- What a field makes of a tree that is given for it, in a record. -/
def put (field : Field ρ) (record : ρ) (tree : Tree) : Option ρ := (field.read record).meaning tree

/-- A field settles what it is given if its reader does, and then stores what the reader makes of
the tree. -/
theorem of_settles {name : String} {reader : Reader α} {store : ρ → α → ρ}
    (settles : reader.Settles) (record : ρ) :
    ((Field.of name reader store).read record).Settles ∧
      (Field.of name reader store).put record = fun tree =>
        (reader.meaning tree).map (store record) := by
  refine Reader.settles_of_answers fun tree rest => ?_
  have answered := settles tree rest
  cases meaning : reader.meaning tree with
  | none =>
    obtain ⟨problem, read⟩ := Reader.error_of_answer (answered.trans (by rw [meaning]; rfl))
    simp only [Reader.answer, Field.of, read, Option.map_none]
  | some value =>
    obtain ⟨shorter, read⟩ := Reader.ok_of_answer (answered.trans (by rw [meaning]; rfl))
    simp only [Reader.answer, Field.of, read, Option.map_some]

/-- A field keeps its value if nothing is given for it. -/
def give (field : Field ρ) (record : ρ) : Option Tree → Option ρ
  | some tree => field.put record tree
  | none => some record

/-- It makes no difference which of the two fields is read first. -/
def Commute (left right : Field ρ) : Prop :=
  ∀ (record : ρ) (a b : Tree),
    ((left.put record a).bind fun next => right.put next b) =
      (right.put record b).bind fun next => left.put next a

variable {β : Type} {name other : String} {reader : Reader α} {further : Reader β}
  {store : ρ → α → ρ} {storeFurther : ρ → β → ρ} {means : Tree → α → Prop}

/-- Two fields that are stored in different places can be read in either order. -/
theorem commute_of (settles : reader.Settles) (furtherSettles : further.Settles)
    (apart : ∀ record value furtherValue,
      storeFurther (store record value) furtherValue =
        store (storeFurther record furtherValue) value) :
    (Field.of name reader store).Commute (Field.of other further storeFurther) := by
  intro record a b
  simp only [(of_settles settles _).2, (of_settles furtherSettles _).2]
  cases reader.meaning a with
  | none => cases further.meaning b <;> rfl
  | some value =>
    cases further.meaning b with
    | none => rfl
    | some furtherValue => exact congrArg some (apart record value furtherValue)

/-- A field that holds a default takes the value given for it. -/
theorem give_eq_some_iff (reads : reader.Reads means) {record : ρ} {default : α}
    (holds : store record default = record) {part? : Option Tree} {next : ρ} :
    (Field.of name reader store).give record part? = some next ↔
      ∃ value, Given means default part? value ∧ store record value = next := by
  cases part? with
  | none =>
    constructor
    · rintro ⟨⟩
      exact ⟨default, .omitted, holds⟩
    · rintro ⟨_, ⟨⟩, rfl⟩
      exact congrArg some holds.symm
  | some part =>
    rw [give, (of_settles reads.settles record).2, Option.map_eq_some_iff]
    constructor
    · rintro ⟨value, read, stored⟩
      exact ⟨value, .given (reads.meaning.1 read), stored⟩
    · rintro ⟨value, _ | meant, stored⟩
      exact ⟨value, reads.meaning.2 meant, stored⟩

end Field

namespace Record

variable {ρ : Type} {fields : List (Field ρ)}

/-- The fields have different names, settle what is given for them and do not affect each other. -/
structure Lawful (fields : List (Field ρ)) : Prop where
  names : (fields.map Field.name).Nodup
  settles : ∀ field ∈ fields, ∀ record, (field.read record).Settles
  commute : fields.Pairwise Field.Commute

/-- Read a part into the field of its name, if there is one. -/
def absorb (fields : List (Field ρ)) (record : ρ) (part : String × Tree) : Option ρ :=
  match fields.find? fun field => field.name == part.1 with
  | some field => field.put record part.2
  | none => some record

/-- Give every field in turn its part, if there is one. -/
def fill (part? : String → Option Tree) : List (Field ρ) → ρ → Option ρ
  | [], record => some record
  | field :: fields, record =>
    (field.give record (part? field.name)).bind (fill part? fields)

/-- The first field takes the value given for it, and then the others are filled. -/
theorem fill_cons_eq_some_iff {α : Type} {name : String} {reader : Reader α} {store : ρ → α → ρ}
    {means : Tree → α → Prop} (reads : reader.Reads means) {record : ρ} {default : α}
    (holds : store record default = record) {part? : String → Option Tree} {result : ρ} :
    fill part? (Field.of name reader store :: fields) record = some result ↔
      ∃ value, Given means default (part? name) value ∧
        fill part? fields (store record value) = some result := by
  rw [fill, Option.bind_eq_some_iff]
  constructor
  · rintro ⟨next, given, filled⟩
    obtain ⟨value, valueGiven, rfl⟩ := (Field.give_eq_some_iff reads holds).1 given
    exact ⟨value, valueGiven, filled⟩
  · rintro ⟨value, valueGiven, filled⟩
    exact ⟨_, (Field.give_eq_some_iff reads holds).2 ⟨value, valueGiven, rfl⟩, filled⟩

/-- Only the parts of known names count. -/
theorem fill_congr {left? right? : String → Option Tree}
    (same : ∀ field ∈ fields, left? field.name = right? field.name) (record : ρ) :
    fill left? fields record = fill right? fields record := by
  induction fields generalizing record with
  | nil => rfl
  | cons field fields others =>
    have further : fill left? fields = fill right? fields :=
      funext (others fun other among => same other (List.mem_cons_of_mem _ among))
    rw [fill, fill, same field List.mem_cons_self, further]

/-- Where nothing is given, all fields keep their values. -/
theorem fill_nothing (record : ρ) : fill (fun _ => none) fields record = some record := by
  induction fields with
  | nil => rfl
  | cons field fields others => exact others

/-- The fields after the first are lawful by themselves. -/
theorem Lawful.tail {field : Field ρ} (lawful : Lawful (field :: fields)) : Lawful fields where
  names := (List.nodup_cons.1 lawful.names).2
  settles other among := lawful.settles other (List.mem_cons_of_mem _ among)
  commute := (List.pairwise_cons.1 lawful.commute).2

/-- No field after the first has its name. -/
theorem Lawful.name_ne {field other : Field ρ} (lawful : Lawful (field :: fields))
    (among : other ∈ fields) : other.name ≠ field.name := by
  intro same
  exact (List.nodup_cons.1 lawful.names).1 (same ▸ List.mem_map_of_mem among)

/-- A field can be given its part ahead of all others. -/
theorem fill_ahead (lawful : Lawful fields) {field : Field ρ} (known : field ∈ fields)
    {part? : String → Option Tree} (nothing : part? field.name = none) (record : ρ) (tree : Tree) :
    (field.put record tree).bind (fill part? fields) =
      fill (fun name => if name = field.name then some tree else part? name) fields record := by
  induction fields generalizing record with
  | nil => cases known
  | cons first others inductionHypothesis =>
    simp only [fill]
    obtain rfl | among := List.mem_cons.1 known
    · have further : fill (fun name => if name = field.name then some tree else part? name)
          others = fill part? others :=
        funext (fill_congr fun other among => if_neg (lawful.name_ne among))
      rw [if_pos rfl, further, nothing]
      rfl
    · have ahead := inductionHypothesis lawful.tail among
      rw [if_neg (lawful.name_ne among).symm]
      cases part? first.name with
      | none => exact ahead record
      | some other =>
        have commute := (List.pairwise_cons.1 lawful.commute).1 field among record other tree
        simp only [Field.give]
        calc (field.put record tree).bind fun next =>
              (first.put next other).bind (fill part? others)
          _ = ((field.put record tree).bind fun next => first.put next other).bind
                (fill part? others) := (Option.bind_assoc ..).symm
          _ = ((first.put record other).bind fun next => field.put next tree).bind
                (fill part? others) := by rw [commute]
          _ = (first.put record other).bind fun next =>
                (field.put next tree).bind (fill part? others) := Option.bind_assoc ..
          _ = (first.put record other).bind (fill _ others) := by simp only [ahead]

/-- A field is found by its name. -/
theorem Lawful.find? (lawful : Lawful fields) {field : Field ρ} (known : field ∈ fields) :
    (fields.find? fun other => other.name == field.name) = some field := by
  induction fields with
  | nil => cases known
  | cons first others inductionHypothesis =>
    obtain rfl | among := List.mem_cons.1 known
    · exact List.find?_cons_of_pos (beq_self_eq_true _)
    · rw [List.find?_cons_of_neg (by simpa using (lawful.name_ne among).symm)]
      exact inductionHypothesis lawful.tail among

/-- To read the parts one after the other fills every field with its part, in whatever order they
come.

Proof: by induction over the parts. One that is of no field is not found by any, and one of a field
can be put into it ahead of the others. -/
theorem absorb_eq_fill (lawful : Lawful fields) {parts : List (String × Tree)}
    (once : ∀ field ∈ fields, (parts.map Prod.fst).count field.name ≤ 1) (record : ρ) :
    parts.foldlM (absorb fields) record = fill (fun name => parts.lookup name) fields record := by
  induction parts generalizing record with
  | nil => exact (fill_nothing record).symm
  | cons part parts inductionHypothesis =>
    obtain ⟨name, tree⟩ := part
    have further : parts.foldlM (absorb fields) = fill (fun name => parts.lookup name) fields := by
      refine funext (inductionHypothesis fun field among => ?_)
      have bound := once field among
      rw [List.map_cons, List.count_cons] at bound
      omega
    rw [List.foldlM_cons, further, absorb]
    cases found : fields.find? fun field => field.name == name with
    | none =>
      refine fill_congr (fun field among => ?_) record
      have other : (field.name == name) = false := by
        simpa using List.find?_eq_none.1 found field among
      rw [List.lookup_cons, other]
    | some field =>
      have among := List.mem_of_find?_eq_some found
      obtain rfl : field.name = name := by simpa using List.find?_some found
      have nothing : parts.lookup field.name = none := by
        have bound := once field among
        rw [List.map_cons, List.count_cons_self] at bound
        have absent : field.name ∉ parts.map Prod.fst := List.count_eq_zero.1 (by omega)
        rw [List.lookup_eq_none_iff]
        intro other member
        simp only [bne_iff_ne]
        exact fun same => absent (same ▸ List.mem_map_of_mem member)
      refine (fill_ahead lawful among nothing record tree).trans ?_
      refine fill_congr (fun other _ => ?_) record
      rw [List.lookup_cons]
      cases same : other.name == field.name with
      | true => rw [if_pos (eq_of_beq same)]
      | false => rw [if_neg (ne_of_beq_false same)]

/-! ## Arrays -/

/-- The first element of an array is read as the next field. -/
theorem answer_elements_first {field : Field ρ} {token : Token} (goesOn : token ≠ .closeBracket)
    (record : ρ) (rest : List Token) :
    Reader.answer (elements false record (field :: fields)) (token :: rest) =
      (Reader.answer (field.read record) (token :: rest)).bind fun found =>
        Reader.answer (elements true found.1 fields) found.2 := by
  cases token with
  | closeBracket => exact absurd rfl goesOn
  | _ =>
    simp only [Reader.answer, elements, Bool.false_eq_true, if_false]
    cases field.read record _ with
    | error problem => rfl
    | ok found =>
      obtain ⟨next, after, shorter⟩ := found
      simp only [Option.bind_some]
      cases elements true next fields after <;> rfl

/-- Every element after the first is read as the next field, behind its comma. -/
theorem answer_elements_next {field : Field ρ} (record : ρ) (rest : List Token) :
    Reader.answer (elements true record (field :: fields)) (.comma :: rest) =
      (Reader.answer (field.read record) rest).bind fun found =>
        Reader.answer (elements true found.1 fields) found.2 := by
  simp only [Reader.answer, elements, if_true]
  cases field.read record rest with
  | error problem => rfl
  | ok found =>
    obtain ⟨next, after, shorter⟩ := found
    simp only [Option.bind_some]
    cases elements true next fields after <;> rfl

/-- An element is read as the next field, after its comma if it has one. -/
theorem answer_elements_cons {field : Field ρ} (settles : ∀ record, (field.read record).Settles)
    (started : Bool) (record : ρ) (tree : Tree) (trees : List Tree) (rest : List Token) :
    Reader.answer (elements started record (field :: fields))
        (Tree.elementTokens started (tree :: trees) ++ rest) =
      (field.put record tree).bind fun next =>
        Reader.answer (elements true next fields) (Tree.elementTokens true trees ++ rest) := by
  have read := settles record tree (Tree.elementTokens true trees ++ rest)
  have unfolded : Reader.answer (elements started record (field :: fields))
      (Tree.elementTokens started (tree :: trees) ++ rest) =
        (Reader.answer (field.read record)
          (tree.tokens ++ (Tree.elementTokens true trees ++ rest))).bind
            fun found => Reader.answer (elements true found.1 fields) found.2 := by
    rw [Tree.elementTokens, List.append_assoc, List.append_assoc]
    cases started with
    | true => exact answer_elements_next record _
    | false =>
      obtain ⟨token, more, tokens, goesOn⟩ := tree.exists_tokens_eq
      rw [tokens]
      exact answer_elements_first goesOn record _
  rw [unfolded, read, Option.bind_map]
  rfl

/-- Without a field left, an array must end. -/
theorem answer_elements_none (started : Bool) (record : ρ) (tree : Tree) (trees : List Tree)
    (rest : List Token) :
    Reader.answer (elements started record [])
      (Tree.elementTokens started (tree :: trees) ++ rest) = none := by
  obtain ⟨token, more, tokens, goesOn⟩ := tree.exists_tokens_eq
  rw [Tree.elementTokens, tokens]
  cases started with
  | true => rfl
  | false => cases token with
    | closeBracket => exact absurd rfl goesOn
    | _ => rfl

/-- An array gives its elements to the fields one by one, as long as there are fields. -/
theorem answer_elements (settles : ∀ field ∈ fields, ∀ record, (field.read record).Settles)
    (started : Bool) (record : ρ) (trees : List Tree) (rest : List Token) :
    Reader.answer (elements started record fields) (Tree.elementTokens started trees ++ rest) =
      if trees.length ≤ fields.length then
        ((fields.zip trees).foldlM (fun (record : ρ) (pair : Field ρ × Tree) =>
          pair.1.put record pair.2) record).map fun record => (record, rest)
      else none := by
  induction fields generalizing started record trees with
  | nil =>
    cases trees with
    | nil => cases started <;> rfl
    | cons tree trees => exact answer_elements_none started record tree trees rest
  | cons field fields inductionHypothesis =>
    cases trees with
    | nil => cases started <;> rfl
    | cons tree trees =>
      have further := inductionHypothesis
        (fun other among => settles other (List.mem_cons_of_mem _ among)) true
      rw [answer_elements_cons (settles field List.mem_cons_self)]
      simp only [further, List.length_cons, Nat.add_le_add_iff_right, List.zip_cons_cons,
        List.foldlM_cons]
      split
      case isTrue fits => cases field.put record tree <;> rfl
      case isFalse tooMany => cases field.put record tree <;> rfl

/-- Elements are parts that bear the names of the fields they stand for. -/
theorem absorb_elements (lawful : Lawful fields) {pairs : List (Field ρ × Tree)}
    (known : ∀ pair ∈ pairs, pair.1 ∈ fields) (record : ρ) :
    (pairs.map fun pair => (pair.1.name, pair.2)).foldlM (absorb fields) record =
      pairs.foldlM (fun record pair => pair.1.put record pair.2) record := by
  induction pairs generalizing record with
  | nil => rfl
  | cons pair pairs inductionHypothesis =>
    have further :=
      inductionHypothesis fun other among => known other (List.mem_cons_of_mem _ among)
    simp only [List.map_cons, List.foldlM_cons, further, absorb,
      lawful.find? (known pair List.mem_cons_self)]

/-! ## Objects -/

/-- Of the fields, those not seen before are given at most once, and those seen are not given. -/
def Room (fields : List (Field ρ)) (seen names : List String) : Prop :=
  ∀ field ∈ fields, names.count field.name + (if field.name ∈ seen then 1 else 0) ≤ 1

instance (fields : List (Field ρ)) (seen names : List String) :
    Decidable (Room fields seen names) :=
  inferInstanceAs (Decidable (∀ field ∈ fields,
    names.count field.name + (if field.name ∈ seen then 1 else 0) ≤ 1))

/-- There is always room for no names at all. -/
theorem room_nil (seen : List String) : Room fields seen [] := by
  intro field among
  rw [List.count_nil]
  split <;> omega

/-- Whether the name is one of a field. -/
def isKnown (fields : List (Field ρ)) (name : String) : Bool :=
  (fields.find? fun field => field.name == name).isSome

/-- A name is known just if some field has it. -/
theorem isKnown_iff {name : String} :
    isKnown fields name ↔ ∃ field ∈ fields, field.name = name := by
  simp only [isKnown, List.find?_isSome, beq_iff_eq]

/-- A further name finds room if it was not seen or is unknown, and from then on it is seen. -/
theorem room_cons {seen names : List String} {name : String} :
    Room fields seen (name :: names) ↔
      ¬(isKnown fields name ∧ name ∈ seen) ∧ Room fields (name :: seen) names := by
  rw [isKnown_iff]
  constructor
  · intro room
    refine ⟨?_, fun field among => ?_⟩
    · rintro ⟨⟨field, among, rfl⟩, before⟩
      have bound := room field among
      rw [List.count_cons_self, if_pos before] at bound
      omega
    · have bound := room field among
      rw [List.count_cons] at bound
      by_cases same : name = field.name
      · simp only [same, beq_self_eq_true, if_true, List.mem_cons_self] at bound ⊢
        omega
      · simp only [same, beq_iff_eq, if_false, List.mem_cons, Ne.symm same, false_or] at bound ⊢
        omega
  · rintro ⟨unseen, room⟩ field among
    have bound := room field among
    rw [List.count_cons]
    by_cases same : name = field.name
    · have fresh : field.name ∉ seen :=
        fun before => unseen ⟨⟨field, among, same.symm⟩, same ▸ before⟩
      simp only [same, beq_self_eq_true, if_true, List.mem_cons_self, fresh, if_false] at bound ⊢
      omega
    · simp only [same, beq_iff_eq, if_false, List.mem_cons, Ne.symm same, false_or] at bound ⊢
      omega

/-- A member after its name is refused if it gives a field again, and passed over if it gives
none. -/
theorem answer_memberValue (settles : ∀ field ∈ fields, ∀ record, (field.read record).Settles)
    (seen : List String) (record : ρ) (name : String) (value : Tree) (rest : List Token) :
    Reader.answer (memberValue fields seen record name) (.colon :: (value.tokens ++ rest)) =
      if isKnown fields name && seen.contains name then none
      else (absorb fields record (name, value)).map fun record => (record, rest) := by
  cases twice : isKnown fields name && seen.contains name with
  | true =>
    rw [isKnown] at twice
    simp only [Reader.answer, memberValue, twice, if_true]
  | false =>
    rw [isKnown] at twice
    simp only [Reader.answer, memberValue, absorb, twice, Bool.false_eq_true, if_false]
    cases found : fields.find? fun field => field.name == name with
    | none =>
      obtain ⟨shorter, skipped⟩ := Reader.skip_eq_ok value rest
      simp only [skipped, Option.map_some]
    | some field =>
      have read := settles field (List.mem_of_find?_eq_some found) record value rest
      simp only [Field.put]
      rw [← read, Reader.answer]
      cases field.read record (value.tokens ++ rest) <;> rfl

/-- How an object goes on after a member: with its end, or with a comma and the next member. -/
def goOn (fields : List (Field ρ)) (seen : List String) (record : ρ) :
    List Token → Option (ρ × List Token)
  | .closeBrace :: after => some (record, after)
  | .comma :: after => Reader.answer (members fields seen record) after
  | _ => none

/-- An object is read by the value of its first member, and then goes on. -/
theorem answer_members_token (seen : List String) (record : ρ) (name : Spelling)
    (tokens : List Token) :
    Reader.answer (members fields seen record) (name.token :: tokens) =
      (Reader.answer (memberValue fields seen record name.content) tokens).bind fun found =>
        goOn fields (name.content :: seen) found.1 found.2 := by
  have content : String.ofList name.content.toList = name.content := String.ofList_toList
  unfold Reader.answer Spelling.token
  rw [members]
  simp only [name.denote.decode, content]
  cases memberValue fields seen record name.content tokens with
  | error problem => rfl
  | ok found =>
    obtain ⟨next, _ | ⟨token, after⟩, shorter⟩ := found
    · rfl
    · cases token with
      | comma =>
        simp only [Option.bind_some, goOn, Reader.answer]
        cases members fields (name.content :: seen) next after <;> rfl
      | _ => rfl

/-- The first member of an object is read if its name finds room, and then the object goes on. -/
theorem answer_members_cons (settles : ∀ field ∈ fields, ∀ record, (field.read record).Settles)
    (seen : List String) (record : ρ) (name : Spelling) (value : Tree) (rest : List Token) :
    Reader.answer (members fields seen record)
        (name.token :: .colon :: (value.tokens ++ rest)) =
      if isKnown fields name.content ∧ name.content ∈ seen then none
      else (absorb fields record (name.content, value)).bind fun next =>
        goOn fields (name.content :: seen) next rest := by
  rw [answer_members_token, answer_memberValue settles]
  simp only [Bool.and_eq_true, List.contains_iff_mem]
  by_cases again : isKnown fields name.content ∧ name.content ∈ seen
  · simp only [if_pos again, Option.bind_none]
  · simp only [if_neg again, Option.bind_map]
    rfl

/-- An object gives its members to the fields of their names, as long as none is given twice. -/
theorem answer_members (settles : ∀ field ∈ fields, ∀ record, (field.read record).Settles)
    (seen : List String) (record : ρ) (member : Spelling × Tree) (others : List (Spelling × Tree))
    (rest : List Token) :
    Reader.answer (members fields seen record)
        (Tree.memberTokens false (member :: others) ++ rest) =
      if Room fields seen ((member :: others).map fun member => member.1.content) then
        (((member :: others).map fun member => (member.1.content, member.2)).foldlM
          (absorb fields) record).map fun record => (record, rest)
      else none := by
  induction others generalizing seen record member with
  | nil =>
    obtain ⟨name, value⟩ := member
    have last := answer_members_cons settles seen record name value (.closeBrace :: rest)
    have room : Room fields seen [name.content] ↔ ¬(isKnown fields name.content ∧
        name.content ∈ seen) := by simp only [room_cons, room_nil, and_true]
    simp only [Tree.memberTokens, Bool.false_eq_true, if_false, List.nil_append, List.cons_append,
      List.append_assoc, last, List.map_cons, List.map_nil, room, ite_not, List.foldlM_cons]
    split
    case isTrue => rfl
    case isFalse => cases absorb fields record (name.content, value) <;> rfl
  | cons next others inductionHypothesis =>
    obtain ⟨name, value⟩ := member
    have first := answer_members_cons settles seen record name value
      (.comma :: (Tree.memberTokens false (next :: others) ++ rest))
    have further (record : ρ) := inductionHypothesis (name.content :: seen) record next
    have tokens : Tree.memberTokens false ((name, value) :: next :: others) ++ rest =
        name.token :: .colon :: (value.tokens ++
          .comma :: (Tree.memberTokens false (next :: others) ++ rest)) := by
      simp only [Tree.memberTokens, Bool.false_eq_true, if_false, if_true, List.nil_append,
        List.cons_append, List.append_assoc]
    rw [tokens, first]
    simp only [goOn, further]
    generalize next :: others = remaining
    simp only [List.map_cons, List.foldlM_cons, room_cons]
    by_cases again : isKnown fields name.content ∧ name.content ∈ seen
    · rw [if_pos again, if_neg fun room => room.1 again]
    · rw [if_neg again]
      simp only [again, not_false_eq_true, true_and]
      split
      case isTrue => cases absorb fields record (name.content, value) <;> rfl
      case isFalse => cases absorb fields record (name.content, value) <;> rfl

/-! ## The meaning of a record -/

/-- At the start there is room for all names that name no field more than once. -/
theorem room_start {names : List String} :
    Room fields [] names ↔ ∀ name ∈ fields.map Field.name, names.count name ≤ 1 := by
  simp only [Room, List.not_mem_nil, if_false, Nat.add_zero, List.forall_mem_map]

/-- After an opening bracket, a record is read by its elements. -/
theorem answer_array (title : String) (initial : ρ) (tokens : List Token) :
    Reader.answer (reader title fields initial) (.openBracket :: tokens) =
      Reader.answer (elements false initial fields) tokens := by
  simp only [Reader.answer, reader]
  cases elements false initial fields tokens <;> rfl

/-- After an opening brace and a first name, a record is read by its members. -/
theorem answer_object (title : String) (initial : ρ) (name : Spelling) (tokens : List Token) :
    Reader.answer (reader title fields initial) (.openBrace :: name.token :: tokens) =
      Reader.answer (members fields [] initial) (name.token :: tokens) := by
  simp only [Reader.answer, Spelling.token, reader]
  cases members fields [] initial _ <;> rfl

/-- The names that elements stand for are among the first. -/
theorem names_sublist {α : Type} : ∀ (names : List String) (elements : List α),
    ((names.zip elements).map Prod.fst).Sublist names
  | [], _ => List.Sublist.slnil
  | _ :: _, [] => List.nil_sublist _
  | name :: names, _ :: elements => (names_sublist names elements).cons_cons name

/-- A record has the meaning of its parts, each of them put into the field that it is given for. -/
theorem reader_settles (title : String) (lawful : Lawful fields) (initial : ρ) :
    (reader title fields initial).Settles ∧
      (reader title fields initial).meaning = fun tree =>
        if tree.IsRecord (fields.map Field.name) then
          fill (tree.part? (fields.map Field.name)) fields initial
        else none := by
  refine Reader.settles_of_answers fun tree rest => ?_
  cases tree with
  | array elements =>
    have pairs : (fields.map Field.name).zip elements =
        (fields.zip elements).map fun pair => (pair.1.name, pair.2) := List.zip_map_left ..
    have once : ∀ field ∈ fields,
        ((((fields.map Field.name).zip elements).map Prod.fst).count field.name) ≤ 1 :=
      fun field _ => List.nodup_iff_count_le_one.1
        (lawful.names.sublist (names_sublist _ elements)) field.name
    have parts := absorb_elements lawful
      (fun pair (among : pair ∈ fields.zip elements) => (List.of_mem_zip among).1) initial
    rw [← pairs, absorb_eq_fill lawful once] at parts
    rw [Tree.tokens, List.cons_append, answer_array, answer_elements lawful.settles, ← parts]
    simp only [Tree.IsRecord, List.length_map]
    split <;> rfl
  | object members =>
    cases members with
    | nil =>
      have nothing : fill (fun _ => none) fields initial = some initial := fill_nothing initial
      have record : (Tree.object []).IsRecord (fields.map Field.name) := by
        intro name among
        exact Nat.zero_le 1
      rw [if_pos record]
      exact (congrArg (Option.map fun record => (record, rest)) nothing).symm
    | cons member others =>
      have named : Reader.answer (reader title fields initial)
          ((Tree.object (member :: others)).tokens ++ rest) =
            Reader.answer (Record.members fields [] initial)
              (Tree.memberTokens false (member :: others) ++ rest) :=
        answer_object title initial member.1 _
      rw [named, answer_members lawful.settles]
      by_cases record : (Tree.object (member :: others)).IsRecord (fields.map Field.name)
      · have once : ∀ field ∈ fields, ((((member :: others).map fun member =>
            (member.1.content, member.2)).map Prod.fst).count field.name) ≤ 1 := by
          intro field among
          rw [List.map_map]
          exact record field.name (List.mem_map_of_mem among)
        rw [if_pos (room_start.2 record), if_pos record, absorb_eq_fill lawful once]
        rfl
      · rw [if_neg fun room => record (room_start.1 room), if_neg record]
        rfl
  | null | bool | number | string => rfl

/-- To say what a record means, it is enough to say what its fields are filled with. -/
theorem reader_reads (title : String) (lawful : Lawful fields) {initial : ρ}
    {means : Tree → ρ → Prop}
    (record : ∀ {tree result}, means tree result → tree.IsRecord (fields.map Field.name))
    (filled : ∀ {tree result}, tree.IsRecord (fields.map Field.name) →
      (fill (tree.part? (fields.map Field.name)) fields initial = some result ↔
        means tree result)) :
    (reader title fields initial).Reads means where
  settles := (reader_settles title lawful initial).1
  meaning := by
    intro tree result
    rw [(reader_settles title lawful initial).2]
    dsimp only
    split
    case isTrue isRecord => exact filled isRecord
    case isFalse noRecord => exact ⟨nofun, fun meant => absurd (record meant) noRecord⟩

end Record

end Datapath.Json
