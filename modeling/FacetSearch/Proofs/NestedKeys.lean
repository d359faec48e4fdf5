import FacetSearch.Proofs.NestedViews
import FacetSearch.Proofs.Scopes
import FacetSearch.Proofs.TopKeys
/-!
Composite keys of nested facets.

A nested facet counts the keys of views, in each of which the relation holds one child alone. A path
that leads through the relation comes to that child and to nothing beside it, and goes on there as it
would from the child itself. So the parts of a key are of one child, and every child counts for
itself.

What is proved:
  1. `Text.pieces_joined`: fields that hold no bar are got back from the field that they are joined
     to; `relationOf_append`: a path begins with its relation.
  2. `Json.mem_children_iff`: the children of a relation are its one object, or the objects among its
     items.
  3. `Json.resolve_put`: what a path through the relation leads to in a view is what the rest of the
     path leads to in the child.
  4. `Aggregation.flatMap_keysOf_nestedViews`: the keys of the views are those of the children.
  5. `Aggregation.evaluate_nested_composite`: a composite nested facet shows the beginning of the
     ranking of these keys, each with the number of children that have it.
-/

namespace FacetSearch

/-! ## Joined fields -/

namespace Text

variable {sep : Char}

theorem splitAt_append {piece : List Char} (free : sep ∉ piece) (rest : List Char) :
    splitAt sep (piece ++ sep :: rest) = piece :: splitAt sep rest := by
  induction piece with
  | nil => rw [List.nil_append, splitAt, if_pos rfl]
  | cons c later ih =>
    obtain ⟨first, free⟩ : sep ≠ c ∧ sep ∉ later := by simpa using free
    rw [List.cons_append, splitAt, if_neg first.symm, ih free]
    rfl

theorem splitAt_joined {parts : List (List Char)} (any : parts ≠ [])
    (free : ∀ part ∈ parts, sep ∉ part) : splitAt sep ([sep].intercalate parts) = parts := by
  induction parts with
  | nil => exact absurd rfl any
  | cons part later ih =>
    obtain ⟨first, free⟩ := List.forall_mem_cons.mp free
    cases later with
    | nil => simpa using splitAt_of_not_mem first
    | cons next others =>
      rw [List.intercalate_cons_cons, List.append_assoc, List.singleton_append,
        splitAt_append first, ih (List.cons_ne_nil _ _) free]

/-- Strings without the separator are got back from the string that they are joined to. -/
theorem pieces_joined {parts : List String} (any : parts ≠ [])
    (free : ∀ part ∈ parts, sep ∉ part.toList) :
    pieces sep ((String.singleton sep).intercalate parts) = parts := by
  have cut : splitAt sep ([sep].intercalate (parts.map String.toList)) = parts.map String.toList :=
    splitAt_joined (by simpa using any) (List.forall_mem_map.mpr free)
  rw [pieces, String.toList_intercalate, String.toList_singleton, cut, List.map_map]
  simp [Function.comp_def]

theorem pieces_append {piece : String} (free : sep ∉ piece.toList) (rest : String) :
    pieces sep (piece ++ String.singleton sep ++ rest) = piece :: pieces sep rest := by
  have cut := splitAt_append free rest.toList
  simp only [pieces, String.toList_append, String.toList_singleton, List.append_assoc,
    List.singleton_append, cut, List.map_cons, String.ofList_toList]

end Text

theorem relationOf_append {relation : String} (plain : '.' ∉ relation.toList) {field : String}
    {rest : List Char} (begins : field.toList = relation.toList ++ '.' :: rest) :
    relationOf field = relation := by
  have own : ∀ c ∈ relation.toList, decide (c ≠ '.') = true := by
    intro c hc
    apply decide_eq_true
    rintro rfl
    exact plain hc
  rw [relationOf, begins, List.takeWhile_append_of_pos own, List.takeWhile_cons_of_neg (by simp),
    List.append_nil, String.ofList_toList]

/-! ## Children and their views -/

namespace Json

variable {document child : Json} {relation : String}

/-- The child is the one object that the relation is, or an object among the items of its array. -/
def IsChild (document : Json) (relation : String) (child : Json) : Prop :=
  child.isObject = true ∧ (document.get? relation = some child ∨
    ∃ items, document.get? relation = some (array items) ∧ child ∈ items)

theorem mem_children_iff : child ∈ document.children relation ↔ IsChild document relation child := by
  unfold children IsChild
  cases found : document.get? relation with
  | none => simp
  | some value =>
    cases value with
    | array items =>
      simp only [List.mem_filter, Option.some.injEq, array.injEq, exists_eq_left']
      constructor
      · rintro ⟨among, isObject⟩
        exact ⟨isObject, .inr among⟩
      · rintro ⟨isObject, rfl | among⟩
        · cases isObject
        · exact ⟨among, isObject⟩
    | object members =>
      simp only [List.mem_singleton, Option.some.injEq, reduceCtorEq, false_and, exists_false,
        or_false]
      constructor
      · rintro rfl
        exact ⟨rfl, rfl⟩
      · rintro ⟨-, rfl⟩
        rfl
    | _ =>
      simp only [List.not_mem_nil, Option.some.injEq, reduceCtorEq, false_and, exists_false,
        or_false, false_iff, not_and]
      rintro isObject rfl
      cases isObject

theorem get?_put {name : String} {value : Json} (found : document.get? name = some value)
    (other : Json) : (document.put name other).get? name = some other := by
  cases document with
  | object members => rw [put, get?, findMember?_putMember, if_pos rfl]
  | _ => cases found

theorem flatten_of_isObject (isObject : child.isObject = true) : child.flatten = [child] := by
  cases child with
  | object members => rfl
  | _ => cases isObject

/-- In the view of a child, a path through the relation leads to what the rest of the path leads to in
the child. -/
theorem resolve_put (plain : '.' ∉ relation.toList) (h : child ∈ document.children relation)
    (path : String) :
    (document.put relation child).resolve (relation ++ "." ++ path) = child.resolve path := by
  have isObject : child.isObject = true := (mem_children_iff.mp h).1
  obtain ⟨value, found, -⟩ := picks_of_mem_children h
  have cut : Text.pieces '.' (relation ++ "." ++ path) = relation :: Text.pieces '.' path :=
    Text.pieces_append plain path
  -- A child is an object, so that the first step comes to it and not to what is inside it.
  have first : step [document.put relation child] relation = [child] := by
    simp only [step, List.flatMap_singleton, get?_put found, flatten_of_isObject isObject]
  rw [resolve, cut, List.foldl_cons, first, resolve]

end Json

namespace Aggregation

/-! ## Keys of children -/

/-- The fields of a relation that lead to these paths in its children. -/
def fieldsIn (relation : String) (paths : List String) : List String :=
  paths.map fun path => relation ++ "." ++ path

variable {relation : String} {paths : List String}

/-- A child without a term for one of the paths has no key. -/
theorem not_hasJoinedKey {key : String} {child : Json} {path : String} (hpath : path ∈ paths)
    (lacking : child.terms path = []) : ¬ HasJoinedKey paths key child := by
  rintro ⟨parts, first, -⟩
  obtain ⟨part, -, found⟩ := exists_result_of_mem first hpath
  rw [lacking] at found
  cases found

/-- The view of a child has the key of the child. -/
theorem keysOf_put (plain : '.' ∉ relation.toList) (several : 2 ≤ paths.length)
    {document child : Json} (h : child ∈ document.children relation) :
    keysOf (fieldsIn relation paths) (document.put relation child) = keysOf paths child := by
  have terms : ∀ path, (document.put relation child).terms (relation ++ "." ++ path) =
      child.terms path := by
    intro path
    rw [Json.terms, Json.resolve_put plain h, Json.terms]
  have many : 2 ≤ (fieldsIn relation paths).length := by rwa [fieldsIn, List.length_map]
  rw [keysOf_of_several many, keysOf_of_several several, fieldsIn, List.mapM_map]
  simp only [Function.comp_def, terms]

/-- The keys of all views are those of all children. -/
theorem flatMap_keysOf_nestedViews (plain : '.' ∉ relation.toList) (several : 2 ≤ paths.length)
    (documents : List Json) :
    (documents.flatMap (·.nestedViews relation)).flatMap (keysOf (fieldsIn relation paths)) =
      (documents.flatMap (·.children relation)).flatMap (keysOf paths) := by
  rw [List.flatMap_assoc, List.flatMap_assoc]
  refine List.flatMap_congr fun document _ => ?_
  rw [Json.nestedViews, List.flatMap_map]
  exact List.flatMap_congr fun child hchild => keysOf_put plain several hchild

end Aggregation

/-! ## Composite nested facets -/

section

variable {facet : Facet} {relation : String} {paths : List String}
  (composed : facet.field = "|".intercalate (Aggregation.fieldsIn relation paths))
include composed

theorem Facet.fields_of_composed (any : paths ≠ []) (single : fieldMark ∉ relation.toList)
    (singles : ∀ path ∈ paths, fieldMark ∉ path.toList) :
    facet.fields = Aggregation.fieldsIn relation paths := by
  have free : ∀ field ∈ Aggregation.fieldsIn relation paths, fieldMark ∉ field.toList := by
    intro field hfield
    obtain ⟨path, hpath, rfl⟩ := List.mem_map.mp hfield
    have dot : fieldMark ∉ ".".toList := by decide
    simp only [String.toList_append, List.mem_append, not_or]
    exact ⟨⟨single, dot⟩, singles path hpath⟩
  rw [fields, composed]
  exact Text.pieces_joined (by simpa [Aggregation.fieldsIn] using any) free

theorem Facet.relation_of_composed (any : paths ≠ []) (plain : '.' ∉ relation.toList) :
    facet.relation = relation := by
  obtain ⟨path, rest, rfl⟩ := List.exists_cons_of_ne_nil any
  have begins : ∃ after, facet.field.toList = relation.toList ++ '.' :: after := by
    rw [composed, Aggregation.fieldsIn, List.map_cons, String.toList_intercalate, List.map_cons]
    cases rest with
    | nil => exact ⟨path.toList, by simp⟩
    | cons next others =>
      rw [List.map_cons, List.map_cons, List.intercalate_cons_cons]
      exact ⟨_, by simp only [String.toList_append, List.append_assoc]; rfl⟩
  obtain ⟨after, begins⟩ := begins
  exact relationOf_append plain begins

/-- The buckets of a nested facet of several fields of one relation are the first of the ranking of
the keys that children of the relation have. A key is joined of the first terms of one child, and
comes with the number of children that have it in all documents; a child without a term for one of
the paths has no key. Bars stand between fields, so that the paths hold none. -/
theorem Aggregation.evaluate_nested_composite (settings : Settings) (kind : facet.kind = .nested)
    (several : 2 ≤ paths.length) (plain : '.' ∉ relation.toList)
    (single : Facet.fieldMark ∉ relation.toList)
    (singles : ∀ path ∈ paths, Facet.fieldMark ∉ path.toList) :
    ∃ node, bucketsOf settings facet = .ok node ∧ ∀ documents : List Json, ∃ ranking,
      IsRanking paths (documents.flatMap (·.children relation)) ranking ∧
      (evaluate documents node).get? facet.name =
        some (bucketList ((ranking.take settings.facetSize).map keyBucket)) ∧
      (∀ entry ∈ ranking,
        (∃ document ∈ documents, ∃ child,
          Json.IsChild document relation child ∧ HasJoinedKey paths entry.1 child) ∧
        entry.2 = (documents.map fun document =>
          (document.children relation).countP fun child => HasJoinedKey paths entry.1 child).sum) ∧
      ∀ document ∈ documents, ∀ child, Json.IsChild document relation child →
        ∀ path ∈ paths, child.terms path = [] → ∀ key, ¬ HasJoinedKey paths key child := by
  have any : paths ≠ [] := by
    rintro rfl
    simp at several
  have fields := Facet.fields_of_composed composed any single singles
  have inside := Facet.relation_of_composed composed any plain
  refine ⟨_, by rw [bucketsOf, kind], fun documents => ?_⟩
  have ranking := isRanking_sorted_tally paths (documents.flatMap (·.children relation))
  refine ⟨_, ranking, ?_, ?_, ?_⟩
  · rw [evaluate, evaluateAll, evaluateAll, Json.get?, Json.findMember?_putMember]
    rw [termsOf, name, if_pos rfl, evaluate, topKeys, fields, inside,
      flatMap_keysOf_nestedViews plain several]
  · intro entry hentry
    constructor
    · obtain ⟨child, hchild, hkey⟩ := (ranking.complete entry.1).mp (List.mem_map_of_mem hentry)
      obtain ⟨document, hdocument, hchild⟩ := List.mem_flatMap.mp hchild
      exact ⟨document, hdocument, child, Json.mem_children_iff.mp hchild,
        (hasKey_iff_of_several several).mp hkey⟩
    · rw [ranking.counted entry hentry, List.countP_flatMap]
      simp only [Function.comp_def, hasKey_iff_of_several several]
  · intro document _ child _ path hpath lacking key
    exact not_hasJoinedKey hpath lacking

end

/-- A facet on the colour and the size of variants. -/
def variantFacet : Facet where
  name := "variant"
  field := "variants.color|variants.size"
  kind := .nested
  application := .onlyAtLeastOne

/-- A document of three variants, one of them without a size, and a document of one variant. -/
def variantDocuments : List Json :=
  [.object [("variants", .array
      [.object [("color", .text "red"), ("size", .text "m")], .null,
       .object [("color", .text "blue"), ("size", .text "l")],
       .object [("color", .array [.null, .text "blue"]), ("size", .null)]])],
   .object [("variants", .object [("size", .array [.text "m", .text "s"]), ("color", .text "red")])]]

/-- Two variants are red and of size m; no variant is red and of size l, though a document has both
values. -/
theorem Aggregation.evaluate_nested_composite_variants :
    ∃ node, bucketsOf {} variantFacet = .ok node ∧ ∃ ranking : List (String × Nat),
      (evaluate variantDocuments node).get? "variant" =
        some (bucketList ((ranking.take 10).map keyBucket)) ∧
      ("red~~m", 2) ∈ ranking ∧ ("blue~~l", 1) ∈ ranking ∧
      ∀ count, ("red~~l", count) ∉ ranking := by
  have composed : variantFacet.field = "|".intercalate (fieldsIn "variants" ["color", "size"]) := by
    decide
  obtain ⟨node, compiled, evaluated⟩ := evaluate_nested_composite composed {} rfl (by decide)
    (by decide) (by decide) (by decide)
  obtain ⟨ranking, isRanking, shown, -⟩ := evaluated variantDocuments
  refine ⟨node, compiled, ranking, shown, ?_, ?_, ?_⟩
  · exact isRanking.mem_iff.mpr ⟨by decide +kernel, by decide +kernel⟩
  · exact isRanking.mem_iff.mpr ⟨by decide +kernel, by decide +kernel⟩
  · intro count listed
    obtain ⟨carried, -⟩ := isRanking.mem_iff.mp listed
    exact absurd carried (by decide +kernel)

end FacetSearch
