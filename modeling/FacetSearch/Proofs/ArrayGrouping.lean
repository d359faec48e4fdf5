import Mathlib.Logic.Relation
import FacetSearch.Proofs.NestedViews
/-!
Arrays that group their items differently.

A path goes through arrays wherever it meets them, and free text looks into them, at any depth. So
it makes no difference whether items stand in one array or in arrays within it, whether there are
nulls between them, or whether an item stands alone or in an array of its own. The children of a
relation are another matter, for they are looked for in one array only.

What is proved:
  1. `Json.leaves_eq_of_regroups`: grouping items differently keeps the leaves of a value: what is
     in its arrays at any depth, with the members of objects brought into one form.
  2. `Json.step_map_gathered`: looking into documents commutes with bringing them into that form.
  3. `Json.readsSame_of_regrouped`: so every path leads to the same values, and the same texts show.
  4. `Clause.holds_eq_of_readsSame`: no clause without a nested one tells such documents apart, by
     induction over the clause.
-/

namespace FacetSearch

namespace Json

/-! ## Grouping -/

/-- At one place, at any depth, the second value has the items of an array grouped differently. -/
inductive Regroups : Json → Json → Prop where
  /-- The items of an array within an array go into the outer one. -/
  | splice (before items after : List Json) :
    Regroups (array (before ++ array items :: after)) (array (before ++ items ++ after))
  /-- A null among the items is left out. -/
  | dropNull (before after : List Json) :
    Regroups (array (before ++ null :: after)) (array (before ++ after))
  /-- An item that is alone in its array stands for the array. -/
  | unwrap (item : Json) : Regroups (array [item]) item
  | item {value other : Json} (before after : List Json) (h : Regroups value other) :
    Regroups (array (before ++ value :: after)) (array (before ++ other :: after))
  | member {value other : Json} (before after : List (String × Json)) (name : String)
    (h : Regroups value other) :
    Regroups (object (before ++ (name, value) :: after)) (object (before ++ (name, other) :: after))

/-- The members have one name, and their values differ in nothing but grouping, at any number of
places. -/
def MemberRegrouped (a b : String × Json) : Prop := a.1 = b.1 ∧ Relation.EqvGen Regroups a.2 b.2

/-! ## Leaves -/

mutual

/-- What is in a value and not an array, at any depth of arrays; nulls are dropped, and the values
of an object's members are brought into arrays of their leaves. -/
def leaves : Json → List Json
  | array items => itemLeaves items
  | object members => [object (gather members)]
  | null => []
  | json => [json]

def itemLeaves : List Json → List Json
  | [] => []
  | item :: rest => item.leaves ++ itemLeaves rest

/-- The members, with an array of its leaves for each value. -/
def gather : List (String × Json) → List (String × Json)
  | [] => []
  | (name, value) :: rest => (name, array value.leaves) :: gather rest

end

/-- The value with its members gathered, if it is an object. -/
def gathered : Json → Json
  | object members => object (gather members)
  | json => json

theorem itemLeaves_eq_flatMap (items : List Json) : itemLeaves items = items.flatMap leaves := by
  induction items with
  | nil => rfl
  | cons item rest ih => rw [itemLeaves, ih, List.flatMap_cons]

theorem gather_eq_map (members : List (String × Json)) :
    gather members = members.map fun entry => (entry.1, array entry.2.leaves) := by
  induction members with
  | nil => rfl
  | cons entry rest ih => rw [gather, ih, List.map_cons]

theorem leaves_eq_of_regroups {a b : Json} (h : a.Regroups b) : a.leaves = b.leaves := by
  induction h with
  | splice before items after => simp [leaves, itemLeaves_eq_flatMap]
  | dropNull before after => simp [leaves, itemLeaves_eq_flatMap]
  | unwrap item => simp [leaves, itemLeaves_eq_flatMap]
  | item before after h ih => simp [leaves, itemLeaves_eq_flatMap, ih]
  | member before after name h ih => simp [leaves, gather_eq_map, ih]

theorem leaves_eq_of_eqvGen {a b : Json} (h : Relation.EqvGen Regroups a b) :
    a.leaves = b.leaves := by
  induction h with
  | rel _ _ h => exact leaves_eq_of_regroups h
  | refl _ => rfl
  | symm _ _ _ ih => exact ih.symm
  | trans _ _ _ _ _ ih ih' => exact ih.trans ih'

theorem gather_eq_of_regrouped {members others : List (String × Json)}
    (h : List.Forall₂ MemberRegrouped members others) : gather members = gather others := by
  induction h with
  | nil => rfl
  | @cons entry other members others first _ ih =>
    rw [gather, gather, ih, first.1, leaves_eq_of_eqvGen first.2]

/-! ## Looking into gathered documents -/

mutual

/-- The leaves of a value are its values outside of arrays, with their members gathered. -/
theorem leaves_eq_map (json : Json) : json.leaves = json.flatten.map gathered := by
  cases json with
  | array items => rw [leaves, flatten, itemLeaves_eq_map]
  | _ => rfl

theorem itemLeaves_eq_map (items : List Json) :
    itemLeaves items = (flattenItems items).map gathered := by
  cases items with
  | nil => rfl
  | cons item rest =>
    rw [itemLeaves, flattenItems, List.map_append, leaves_eq_map item, itemLeaves_eq_map rest]

end

mutual

/-- No leaf is an array or null. -/
theorem flattenItems_leaves (json : Json) : flattenItems json.leaves = json.leaves := by
  cases json with
  | array items => exact flattenItems_itemLeaves items
  | _ => rfl

theorem flattenItems_itemLeaves (items : List Json) :
    flattenItems (itemLeaves items) = itemLeaves items := by
  cases items with
  | nil => rfl
  | cons item rest =>
    have first := flattenItems_leaves item
    have later := flattenItems_itemLeaves rest
    rw [flattenItems_eq_flatMap] at first later ⊢
    rw [itemLeaves, List.flatMap_append, first, later]

end

mutual

theorem visibleItemTexts_leaves (json : Json) :
    visibleItemTexts json.leaves = json.visibleTexts := by
  cases json with
  | array items => exact visibleItemTexts_itemLeaves items
  | object members =>
    rw [leaves, visibleItemTexts, visibleItemTexts, List.append_nil, visibleTexts, visibleTexts,
      visibleMemberTexts_gather members]
  | _ => rfl

theorem visibleItemTexts_itemLeaves (items : List Json) :
    visibleItemTexts (itemLeaves items) = visibleItemTexts items := by
  cases items with
  | nil => rfl
  | cons item rest =>
    have first := visibleItemTexts_leaves item
    have later := visibleItemTexts_itemLeaves rest
    rw [visibleItemTexts_eq_flatMap] at first later
    rw [itemLeaves, visibleItemTexts_eq_flatMap, List.flatMap_append, first, later,
      visibleItemTexts]

theorem visibleMemberTexts_gather (members : List (String × Json)) :
    visibleMemberTexts (gather members) = visibleMemberTexts members := by
  cases members with
  | nil => rfl
  | cons entry rest =>
    obtain ⟨name, value⟩ := entry
    rw [gather, visibleMemberTexts, visibleMemberTexts, visibleTexts,
      visibleItemTexts_leaves value, visibleMemberTexts_gather rest]

end

theorem get?_gathered (json : Json) (name : String) :
    json.gathered.get? name = (json.get? name).map fun value => array value.leaves := by
  cases json with
  | object members =>
    rw [gathered, get?, get?, gather_eq_map]
    unfold findMember?
    rw [List.find?_map, Option.map_map, Option.map_map]
    rfl
  | _ => rfl

/-- One step into gathered documents leads to the gathered values of what it led to. -/
theorem step_map_gathered (values : List Json) (segment : String) :
    step (values.map gathered) segment = (step values segment).map gathered := by
  rw [step, step, List.flatMap_map, List.map_flatMap]
  apply List.flatMap_congr
  intro value _
  rw [get?_gathered]
  cases value.get? segment with
  | none => rfl
  | some child =>
    show flattenItems child.leaves = child.flatten.map gathered
    rw [flattenItems_leaves, leaves_eq_map]

theorem foldl_step_map_gathered (values : List Json) (segments : List String) :
    segments.foldl step (values.map gathered) = (segments.foldl step values).map gathered := by
  induction segments generalizing values with
  | nil => rfl
  | cons segment rest ih => rw [List.foldl_cons, List.foldl_cons, step_map_gathered, ih]

/-- Only objects are gathered, and they are not what a path leads to in the end. -/
theorem filter_map_gathered (values : List Json) :
    (values.map gathered).filter (fun value => !value.isObject) =
      values.filter fun value => !value.isObject := by
  induction values with
  | nil => rfl
  | cons value rest ih =>
    rw [List.map_cons]
    cases value with
    | object members => simpa [gathered, isObject] using ih
    | _ => simpa [gathered, isObject] using ih

theorem resolve_gathered (json : Json) (path : String) :
    json.gathered.resolve path = json.resolve path := by
  have reached := foldl_step_map_gathered [json] (Text.pieces '.' path)
  rw [List.map_singleton] at reached
  rw [resolve, reached, filter_map_gathered, resolve]

/-- The documents have the same values at the end of every path, and show the same texts. -/
structure ReadsSame (a b : Json) : Prop where
  resolve : ∀ path, a.resolve path = b.resolve path
  visibleTexts : a.visibleTexts = b.visibleTexts

theorem readsSame_of_regrouped {members others : List (String × Json)}
    (h : List.Forall₂ MemberRegrouped members others) :
    ReadsSame (object members) (object others) := by
  have same := gather_eq_of_regrouped h
  constructor
  · intro path
    rw [← resolve_gathered (object members), ← resolve_gathered (object others), gathered,
      gathered, same]
  · rw [visibleTexts, visibleTexts, ← visibleMemberTexts_gather members,
      ← visibleMemberTexts_gather others, same]

end Json

namespace Clause

/-! ## Clauses -/

mutual

/-- No clause in the tree is a nested one. -/
def isUnnested : Clause → Bool
  | matchAll | term _ _ | words _ _ | range _ _ => true
  | nested _ _ => false
  | bool must should filter _ => allUnnested must && allUnnested should && allUnnested filter

/-- No clause in any of the trees is a nested one. -/
def allUnnested : List Clause → Bool
  | [] => true
  | clause :: rest => clause.isUnnested && allUnnested rest

end

section Documents

variable {a b : Json}

theorem terms_eq_of_readsSame (same : a.ReadsSame b) (field : String) :
    a.terms field = b.terms field := by
  rw [Json.terms, Json.terms, same.resolve]

theorem documentWords_eq_of_readsSame (same : a.ReadsSame b) (field : String) :
    documentWords a field = documentWords b field := by
  rw [documentWords, documentWords, same.resolve, same.visibleTexts]

mutual

theorem holds_eq_of_readsSame (same : a.ReadsSame b) (clause : Clause)
    (unnested : clause.isUnnested = true) : clause.holds a = clause.holds b := by
  cases clause with
  | matchAll => rfl
  | term field value => rw [holds, holds, terms_eq_of_readsSame same]
  | words field text =>
    rw [holds, holds, sharesWord, sharesWord, documentWords_eq_of_readsSame same]
  | range field bounds => rw [holds, holds, Json.numbers, Json.numbers, same.resolve]
  | nested relation inner => cases unnested
  | bool must should filter minimumShould =>
    simp only [isUnnested, Bool.and_eq_true] at unnested
    obtain ⟨⟨inMust, inShould⟩, inFilter⟩ := unnested
    rw [holds, holds, allHold_eq_of_readsSame same filter inFilter,
      allHold_eq_of_readsSame same must inMust, countHolding_eq_of_readsSame same should inShould]

theorem allHold_eq_of_readsSame (same : a.ReadsSame b) (clauses : List Clause)
    (unnested : allUnnested clauses = true) : allHold clauses a = allHold clauses b := by
  cases clauses with
  | nil => rfl
  | cons clause rest =>
    obtain ⟨first, later⟩ := Bool.and_eq_true_iff.mp unnested
    rw [allHold, allHold, holds_eq_of_readsSame same clause first,
      allHold_eq_of_readsSame same rest later]

theorem countHolding_eq_of_readsSame (same : a.ReadsSame b) (clauses : List Clause)
    (unnested : allUnnested clauses = true) : countHolding clauses a = countHolding clauses b := by
  cases clauses with
  | nil => rfl
  | cons clause rest =>
    obtain ⟨first, later⟩ := Bool.and_eq_true_iff.mp unnested
    rw [countHolding, countHolding, holds_eq_of_readsSame same clause first,
      countHolding_eq_of_readsSame same rest later]

end

end Documents

end Clause

theorem Aggregation.keysOf_eq_of_readsSame {a b : Json} (same : a.ReadsSame b)
    (fields : List String) : keysOf fields a = keysOf fields b := by
  unfold keysOf
  simp only [Clause.terms_eq_of_readsSame same]

/-- Documents that differ in nothing but how arrays below the root group their items lead to the
same values in the same order along every path. So no clause without a nested one tells them apart, and
they have the same keys in every list of fields. -/
theorem Json.alike_of_regrouped {members others : List (String × Json)}
    (h : List.Forall₂ MemberRegrouped members others) :
    (∀ path, (object members).resolve path = (object others).resolve path) ∧
      (∀ clause : Clause, clause.isUnnested = true →
        clause.holds (object members) = clause.holds (object others)) ∧
      ∀ fields, Aggregation.keysOf fields (object members) =
        Aggregation.keysOf fields (object others) := by
  have same := readsSame_of_regrouped h
  exact ⟨same.resolve, Clause.holds_eq_of_readsSame same, Aggregation.keysOf_eq_of_readsSame same⟩

/-- A colour among nulls and inner arrays against the bare colour, and so within a child. -/
theorem Json.alike_of_regrouped_color :
    let members := [("color", array [null, array [text "red"]]),
      ("parts", object [("no", array [ofNat 7])])]
    let others := [("color", text "red"), ("parts", array [object [("no", ofNat 7)], null])]
    List.Forall₂ MemberRegrouped members others ∧
      Aggregation.keysOf ["color", "parts.no"] (object members) =
        Aggregation.keysOf ["color", "parts.no"] (object others) ∧
      Aggregation.keysOf ["color", "parts.no"] (object members) = ["red~~7"] := by
  intro members others
  have color : Relation.EqvGen Regroups (array [null, array [text "red"]]) (text "red") :=
    .trans _ _ _ (.rel _ _ (.dropNull [] [array [text "red"]])) <|
      .trans _ _ _ (.rel _ _ (.unwrap _)) (.rel _ _ (.unwrap _))
  have parts : Relation.EqvGen Regroups (object [("no", array [ofNat 7])])
      (array [object [("no", ofNat 7)], null]) :=
    .trans _ _ _ (.rel _ _ (.member [] [] "no" (.unwrap _))) <|
      .symm _ _ <| .trans _ _ _ (.rel _ _ (.dropNull [object [("no", ofNat 7)]] []))
        (.rel _ _ (.unwrap _))
  have regrouped : List.Forall₂ MemberRegrouped members others :=
    .cons ⟨rfl, color⟩ (.cons ⟨rfl, parts⟩ .nil)
  obtain ⟨-, -, keys⟩ := alike_of_regrouped regrouped
  exact ⟨regrouped, keys _, by decide +kernel⟩

-- A child within an inner array is no child of the relation.
example :
    let child := Json.object [("no", .ofNat 7)]
    (Json.object [("parts", .array [child])]).children "parts" = [child] ∧
      (Json.object [("parts", .array [.array [child]])]).children "parts" = [] :=
  ⟨rfl, rfl⟩

end FacetSearch
