import Datapath.Proofs.Documents

/-!
# The order of members

Two documents are reorderings of each other if they differ only in the order in which the
members of objects are written, at any depth. As long as no name is given twice, the parts of
a record are then the same, but for the order of their own members.
-/

namespace Datapath.Json

/-- The right tree is the left one, with the members of objects in another order. -/
inductive Tree.Reordered : Tree → Tree → Prop where
  | same (tree : Tree) : Reordered tree tree
  | members {left right : List (Spelling × Tree)} (permuted : left.Perm right) :
      Reordered (.object left) (.object right)
  | member (before : List (Spelling × Tree)) (name : Spelling) {left right : Tree}
      (inside : Reordered left right) (after : List (Spelling × Tree)) :
      Reordered (.object (before ++ (name, left) :: after))
        (.object (before ++ (name, right) :: after))
  | element (before : List Tree) {left right : Tree} (inside : Reordered left right)
      (after : List Tree) :
      Reordered (.array (before ++ left :: after)) (.array (before ++ right :: after))
  | trans {left middle right : Tree} (first : Reordered left middle)
      (second : Reordered middle right) : Reordered left right

namespace Tree.Reordered

/-- If a tree is reordered to another one, that one can be reordered back. -/
theorem symm {left right : Tree} (reordered : left.Reordered right) : right.Reordered left := by
  induction reordered with
  | same tree => exact .same tree
  | members permuted => exact .members permuted.symm
  | member before name _ after inside => exact .member before name inside after
  | element before _ after inside => exact .element before inside after
  | trans _ _ first second => exact .trans second first

/-- A tree without members or elements has only one order. -/
theorem eq_of_leaf {left right : Tree} (reordered : left.Reordered right)
    (noArray : ∀ elements, left ≠ .array elements) (noObject : ∀ members, left ≠ .object members) :
    right = left := by
  induction reordered with
  | same tree => rfl
  | members | member => exact absurd rfl (noObject _)
  | element => exact absurd rfl (noArray _)
  | trans _ _ first second =>
    obtain rfl := first noArray noObject
    exact second noArray noObject

/-- Parts of the same names, each perhaps in another order, are found alike. -/
theorem lookup_alike {left right : List (String × Tree)}
    (alike : List.Forall₂ (fun one other => one.1 = other.1 ∧ one.2.Reordered other.2) left right)
    (name : String) : Option.Rel Reordered (left.lookup name) (right.lookup name) := by
  induction alike with
  | nil => exact .none
  | @cons one other _ _ same _ others =>
    obtain ⟨found, value⟩ := one
    obtain ⟨_, otherValue⟩ := other
    obtain ⟨rfl, inside⟩ := same
    rw [List.lookup_cons, List.lookup_cons]
    cases name == found with
    | true => exact .some inside
    | false => exact others

/-- A part given once is found in any order. -/
theorem lookup_perm {left right : List (String × Tree)} (permuted : left.Perm right)
    {name : String} (once : (left.map Prod.fst).count name ≤ 1) :
    left.lookup name = right.lookup name := by
  induction permuted with
  | nil => rfl
  | cons part _ others =>
    rw [List.map_cons, List.count_cons] at once
    rw [List.lookup_cons, List.lookup_cons, others (by omega)]
  | swap one other parts =>
    obtain ⟨first, tree⟩ := one
    obtain ⟨second, otherTree⟩ := other
    rw [List.map_cons, List.map_cons, List.count_cons, List.count_cons] at once
    simp only [List.lookup_cons]
    cases isFirst : name == first with
    | false => rfl
    | true =>
      cases isSecond : name == second with
      | false => rfl
      | true =>
        obtain rfl := eq_of_beq isFirst
        obtain rfl := eq_of_beq isSecond
        rw [if_pos (beq_self_eq_true name)] at once
        omega
  | trans first _ left right =>
    rw [left once, right ((first.map Prod.fst).count_eq name ▸ once)]

/-- What a record gives for a field is the same up to order as itself, also if it gives nothing. -/
theorem rel_refl (part? : Option Tree) : Option.Rel Reordered part? part? := by
  cases part? with
  | none => exact .none
  | some part => exact .some (.same part)

/-- Parts that are the same up to order as a third one are the same up to order. -/
theorem rel_trans {left middle right : Option Tree} (first : Option.Rel Reordered left middle)
    (second : Option.Rel Reordered middle right) : Option.Rel Reordered left right := by
  cases first with
  | none => exact second
  | some first =>
    cases second with
    | some second => exact .some (first.trans second)

/-- A row of trees of which one may be in another order. -/
theorem forall₂_replace {α : Type} (before : List α) {left right : α} {alike : α → α → Prop}
    (refl : ∀ one, alike one one) (inside : alike left right) (after : List α) :
    List.Forall₂ alike (before ++ left :: after) (before ++ right :: after) :=
  List.rel_append (List.forall₂_same.2 fun one _ => refl one)
    (.cons inside (List.forall₂_same.2 fun one _ => refl one))

/-- Arrays of elements that are alike but for the order of members give alike parts to the same
names. -/
theorem zip_alike (names : List String) {left right : List Tree}
    (alike : List.Forall₂ Reordered left right) :
    List.Forall₂ (fun one other => one.1 = other.1 ∧ one.2.Reordered other.2) (names.zip left)
      (names.zip right) := by
  induction alike generalizing names with
  | nil =>
    rw [List.zip_nil_right]
    exact .nil
  | cons inside _ others =>
    cases names with
    | nil => exact .nil
    | cons name names => exact .cons ⟨rfl, inside⟩ (others names)

/-- Records in different order give the same for each field, but for its own order. -/
theorem part?_alike {names : List String} {left right : Tree} (reordered : left.Reordered right)
    (record : left.IsRecord names) : right.IsRecord names ∧
      ∀ name ∈ names, Option.Rel Reordered (left.part? names name) (right.part? names name) := by
  induction reordered with
  | same tree => exact ⟨record, fun name _ => rel_refl _⟩
  | @members left right permuted =>
    have named := permuted.map fun member => (member.1.content, member.2)
    constructor
    · intro name among
      rw [← (permuted.map _).count_eq]
      exact record name among
    · intro name among
      have once : (((left.map fun member => (member.1.content, member.2)).map Prod.fst).count
          name) ≤ 1 := by
        rw [List.map_map]
        exact record name among
      rw [part?, part?, parts, parts, lookup_perm named once]
      exact rel_refl _
  | @member before name left right inside after =>
    constructor
    · intro field among
      have bound := record field among
      simp only [List.map_append, List.map_cons] at bound ⊢
      exact bound
    · intro field _
      refine lookup_alike ?_ field
      rw [parts, parts, List.map_append, List.map_append, List.map_cons, List.map_cons]
      exact forall₂_replace _ (fun one => ⟨rfl, .same one.2⟩) ⟨rfl, inside⟩ _
  | @element before left right inside after =>
    constructor
    · have bound : (before ++ left :: after).length ≤ names.length := record
      rw [List.length_append, List.length_cons] at bound
      rw [IsRecord, List.length_append, List.length_cons]
      exact bound
    · intro field _
      refine lookup_alike ?_ field
      exact zip_alike names (forall₂_replace before Reordered.same inside after)
  | trans _ _ first second =>
    obtain ⟨middle, leftAlike⟩ := first record
    obtain ⟨last, rightAlike⟩ := second middle
    exact ⟨last, fun name among => rel_trans (leftAlike name among) (rightAlike name among)⟩

end Tree.Reordered

end Datapath.Json
