import FacetSearch.Proofs.Acceptance
import FacetSearch.Proofs.Lookup
/-!
Matching a child of a relation and matching the whole document.

A nested clause looks at copies of the document in which a relation holds one of its children alone.
Such a view holds nothing that the document does not hold, and no clause asks for absence; so what is
matched in a view is matched in the document, where values of different children may come together.

What is proved:
  1. `Json.narrows_of_mem_nestedViews`: a view of a document narrows it: it has the same members, in
     some of which an object stands for the array that it is an item of.
  2. `Json.Narrows.resolve_subset`, `Json.Narrows.visibleTexts_subset`: what narrows a document leads
     to no other values and shows no other texts.
  3. `Json.Narrows.children_subset`, `Json.Narrows.put`: narrowing is kept by further views, on the
     same relation or on another one.
  4. `Clause.holds_of_narrows`: every clause that matches what narrows a document matches the
     document, by induction over the clause.
  5. `Clause.holds_of_holds_nested`: so does what is matched in a child. Where the relation is one
     object the two are the same.
-/

namespace FacetSearch

namespace Json

/-! ## Narrowing -/

/-- The value is the other one, or an object among its items. -/
inductive Picks : Json → Json → Prop where
  | self (value : Json) : Picks value value
  | child {members : List (String × Json)} {items : List Json} (among : object members ∈ items) :
    Picks (object members) (array items)

/-- The members have one name, and the value of the first is picked from that of the second. -/
def MemberPicks (a b : String × Json) : Prop := a.1 = b.1 ∧ Picks a.2 b.2

/-- The objects have the same members up to picking: the first is the second one, with an object in
the place of some arrays that hold it. -/
inductive Narrows : Json → Json → Prop where
  | object {members others : List (String × Json)} (h : List.Forall₂ MemberPicks members others) :
    Narrows (object members) (object others)

theorem MemberPicks.refl (entry : String × Json) : MemberPicks entry entry := ⟨rfl, .self entry.2⟩

/-- Picking a value for a name narrows the members. -/
theorem forall₂_putMember_of_picks {members : List (String × Json)} {name : String}
    {value child : Json} (found : findMember? members name = some value)
    (picked : Picks child value) :
    List.Forall₂ MemberPicks (putMember members name child) members := by
  induction members with
  | nil => cases found
  | cons entry rest ih =>
    by_cases own : entry.1 = name
    · obtain rfl : entry.2 = value := by simpa [findMember?, own] using found
      rw [putMember, upsert, if_pos (by simpa using own)]
      exact .cons ⟨own.symm, picked⟩ (List.forall₂_same.mpr fun other _ => .refl other)
    · rw [putMember, upsert, if_neg (by simpa using own)]
      refine .cons (.refl entry) (ih ?_)
      simpa [findMember?, own] using found

theorem forall₂_putMember {members others : List (String × Json)}
    (h : List.Forall₂ MemberPicks members others) (name : String) (value : Json) :
    List.Forall₂ MemberPicks (putMember members name value) (putMember others name value) := by
  induction h with
  | nil => exact .cons (.refl _) .nil
  | @cons entry other members others first later ih =>
    by_cases own : entry.1 = name
    · have own' : other.1 = name := first.1.symm.trans own
      rw [putMember, putMember, upsert, upsert, if_pos (by simpa using own),
        if_pos (by simpa using own')]
      exact .cons (.refl _) later
    · have own' : other.1 ≠ name := fun same => own (first.1.trans same)
      rw [putMember, putMember, upsert, upsert, if_neg (by simpa using own),
        if_neg (by simpa using own')]
      exact .cons first ih

theorem picks_of_mem_children {document child : Json} {relation : String}
    (h : child ∈ document.children relation) :
    ∃ value, document.get? relation = some value ∧ Picks child value := by
  unfold children at h
  split at h
  · rename_i items found
    obtain ⟨among, isChild⟩ := List.mem_filter.mp h
    refine ⟨_, found, ?_⟩
    cases child with
    | object members => exact .child among
    | _ => cases isChild
  · rename_i members found
    rw [List.mem_singleton.mp h]
    exact ⟨_, found, .self _⟩
  · cases h

theorem narrows_of_mem_nestedViews {document view : Json} {relation : String}
    (h : view ∈ document.nestedViews relation) : view.Narrows document := by
  obtain ⟨child, hchild, rfl⟩ := List.mem_map.mp h
  obtain ⟨value, found, picked⟩ := picks_of_mem_children hchild
  cases document with
  | object members => exact .object (forall₂_putMember_of_picks found picked)
  | _ => cases found

/-! ## What picked values hold -/

theorem flattenItems_eq_flatMap (items : List Json) :
    flattenItems items = items.flatMap flatten := by
  induction items with
  | nil => rfl
  | cons item rest ih => rw [flattenItems, ih, List.flatMap_cons]

theorem visibleItemTexts_eq_flatMap (items : List Json) :
    visibleItemTexts items = items.flatMap visibleTexts := by
  induction items with
  | nil => rfl
  | cons item rest ih => rw [visibleItemTexts, ih, List.flatMap_cons]

theorem Picks.flatten_subset {value other : Json} (h : value.Picks other) :
    value.flatten ⊆ other.flatten := by
  cases h with
  | self => exact List.Subset.refl _
  | child among =>
    intro found hfound
    rw [flatten, flattenItems_eq_flatMap]
    exact List.mem_flatMap.mpr ⟨_, among, hfound⟩

theorem Picks.visibleTexts_subset {value other : Json} (h : value.Picks other) :
    value.visibleTexts ⊆ other.visibleTexts := by
  cases h with
  | self => exact List.Subset.refl _
  | child among =>
    intro shown hshown
    rw [visibleTexts, visibleItemTexts_eq_flatMap]
    exact List.mem_flatMap.mpr ⟨_, among, hshown⟩

/-! ## What narrowed documents hold -/

theorem step_subset_step {values others : List Json} (h : values ⊆ others) (segment : String) :
    step values segment ⊆ step others segment := by
  intro found hfound
  obtain ⟨value, hvalue, reached⟩ := List.mem_flatMap.mp hfound
  exact List.mem_flatMap.mpr ⟨value, h hvalue, reached⟩

theorem foldl_step_subset {values others : List Json} (h : values ⊆ others)
    (segments : List String) : segments.foldl step values ⊆ segments.foldl step others := by
  induction segments generalizing values others with
  | nil => exact h
  | cons segment rest ih => exact ih (step_subset_step h segment)

namespace Narrows

variable {view document : Json}

/-- A name that finds a value in what narrows a document finds one in the document that it is
picked from. -/
theorem exists_get? (h : view.Narrows document) {name : String} {value : Json}
    (found : view.get? name = some value) :
    ∃ other, document.get? name = some other ∧ value.Picks other := by
  obtain ⟨h⟩ := h
  induction h with
  | nil => cases found
  | @cons entry other members others first later ih =>
    by_cases own : entry.1 = name
    · have own' : other.1 = name := first.1.symm.trans own
      obtain rfl : entry.2 = value := by simpa [get?, findMember?, own] using found
      exact ⟨other.2, by simp [get?, findMember?, own'], first.2⟩
    · have own' : other.1 ≠ name := fun same => own (first.1.trans same)
      have deeper := ih (by simpa [get?, findMember?, own] using found)
      simpa [get?, findMember?, own'] using deeper

theorem step_subset (h : view.Narrows document) (segment : String) :
    step [view] segment ⊆ step [document] segment := by
  intro found hfound
  simp only [step, List.flatMap_singleton] at hfound ⊢
  cases own : view.get? segment with
  | none =>
    rw [own] at hfound
    cases hfound
  | some value =>
    rw [own] at hfound
    obtain ⟨other, hother, picked⟩ := h.exists_get? own
    rw [hother]
    exact picked.flatten_subset hfound

theorem resolve_subset (h : view.Narrows document) (path : String) :
    view.resolve path ⊆ document.resolve path := by
  unfold resolve
  cases Text.pieces '.' path with
  | nil =>
    -- A path leads nowhere from an object without a step.
    obtain ⟨h⟩ := h
    simp [isObject]
  | cons segment rest =>
    exact List.filter_subset _ (foldl_step_subset (h.step_subset segment) rest)

theorem visibleTexts_subset (h : view.Narrows document) :
    view.visibleTexts ⊆ document.visibleTexts := by
  obtain ⟨h⟩ := h
  rw [visibleTexts, visibleTexts]
  induction h with
  | nil => exact List.Subset.refl _
  | @cons entry other members others first later ih =>
    obtain ⟨name, value⟩ := entry
    obtain ⟨name', value'⟩ := other
    obtain ⟨rfl, picked⟩ : name = name' ∧ value.Picks value' := first
    rw [visibleMemberTexts, visibleMemberTexts]
    refine List.append_subset.mpr ⟨List.subset_append_of_subset_left _ ?_,
      List.subset_append_of_subset_right _ ih⟩
    split
    · exact List.Subset.refl _
    · exact picked.visibleTexts_subset

/-! ## Views of narrowed documents -/

theorem children_subset (h : view.Narrows document) (relation : String) :
    view.children relation ⊆ document.children relation := by
  intro child hchild
  obtain ⟨value, found, picked⟩ := picks_of_mem_children hchild
  obtain ⟨other, found', picked'⟩ := h.exists_get? found
  unfold children at hchild ⊢
  rw [found] at hchild
  rw [found']
  cases picked' with
  | self => exact hchild
  | child among =>
    obtain rfl := List.mem_singleton.mp hchild
    exact List.mem_filter.mpr ⟨among, rfl⟩

theorem put (h : view.Narrows document) (name : String) (value : Json) :
    (view.put name value).Narrows (document.put name value) := by
  obtain ⟨h⟩ := h
  exact .object (forall₂_putMember h name value)

/-- A view of what narrows a document narrows a view of the document. -/
theorem exists_nestedViews (h : view.Narrows document) {relation : String} {inner : Json}
    (hinner : inner ∈ view.nestedViews relation) :
    ∃ outer ∈ document.nestedViews relation, inner.Narrows outer := by
  obtain ⟨child, hchild, rfl⟩ := List.mem_map.mp hinner
  exact ⟨_, List.mem_map_of_mem (h.children_subset relation hchild), h.put relation child⟩

end Narrows

/-! ## Relations of one object -/

theorem putMember_of_findMember? {members : List (String × Json)} {name : String} {value : Json}
    (found : findMember? members name = some value) : putMember members name value = members := by
  induction members with
  | nil => cases found
  | cons entry rest ih =>
    by_cases own : entry.1 = name
    · obtain rfl : entry.2 = value := by simpa [findMember?, own] using found
      obtain rfl := own
      simp [putMember, upsert]
    · rw [putMember, upsert, if_neg (by simpa using own)]
      exact congrArg _ (ih (by simpa [findMember?, own] using found))

/-- Where a relation is one object, the only view of the document is the document. -/
theorem nestedViews_of_object {document : Json} {relation : String}
    {members : List (String × Json)} (found : document.get? relation = some (object members)) :
    document.nestedViews relation = [document] := by
  unfold nestedViews children
  rw [found, List.map_singleton]
  cases document with
  | object others => rw [put, putMember_of_findMember? found]
  | _ => cases found

end Json

namespace Clause

open Json (Narrows)

/-! ## Clauses -/

theorem documentWords_subset {view document : Json} (h : view.Narrows document) (field : String) :
    documentWords view field ⊆ documentWords document field := by
  have texts : (if field = allFields then view.visibleTexts
        else (view.resolve field).filterMap Json.text?) ⊆
      if field = allFields then document.visibleTexts
        else (document.resolve field).filterMap Json.text? := by
    split
    · exact h.visibleTexts_subset
    · exact List.filterMap_subset _ (h.resolve_subset field)
  intro word hword
  obtain ⟨text, htext, among⟩ := List.mem_flatMap.mp hword
  exact List.mem_flatMap.mpr ⟨text, texts htext, among⟩

mutual

/-- A clause that matches what narrows a document matches the document. -/
theorem holds_of_narrows {view document : Json} (h : view.Narrows document) (clause : Clause)
    (holding : clause.holds view = true) : clause.holds document = true := by
  cases clause with
  | matchAll => rfl
  | term field value =>
    rw [holds, List.contains_iff_mem] at holding ⊢
    exact List.filterMap_subset _ (h.resolve_subset field) holding
  | words field text =>
    rw [holds, sharesWord_iff] at holding ⊢
    obtain ⟨word, asked, held⟩ := holding
    exact ⟨word, asked, documentWords_subset h field held⟩
  | range field bounds =>
    rw [holds, List.any_eq_true] at holding ⊢
    obtain ⟨x, hx, within⟩ := holding
    exact ⟨x, List.filterMap_subset _ (h.resolve_subset field) hx, within⟩
  | nested relation inner =>
    rw [holds, List.any_eq_true] at holding ⊢
    obtain ⟨narrow, hnarrow, matched⟩ := holding
    obtain ⟨wide, hwide, narrows⟩ := h.exists_nestedViews hnarrow
    exact ⟨wide, hwide, holds_of_narrows narrows inner matched⟩
  | bool must should filter minimumShould =>
    simp only [holds, Bool.and_eq_true, Bool.or_eq_true, decide_eq_true_eq] at holding ⊢
    obtain ⟨⟨filtered, demanded⟩, chosen⟩ := holding
    refine ⟨⟨allHold_of_narrows h filter filtered, allHold_of_narrows h must demanded⟩, ?_⟩
    exact chosen.imp_right fun enough => Nat.le_trans enough (countHolding_le_of_narrows h should)

theorem allHold_of_narrows {view document : Json} (h : view.Narrows document)
    (clauses : List Clause) (holding : allHold clauses view = true) :
    allHold clauses document = true := by
  cases clauses with
  | nil => rfl
  | cons clause rest =>
    rw [allHold, Bool.and_eq_true] at holding ⊢
    exact ⟨holds_of_narrows h clause holding.1, allHold_of_narrows h rest holding.2⟩

theorem countHolding_le_of_narrows {view document : Json} (h : view.Narrows document)
    (clauses : List Clause) : countHolding clauses view ≤ countHolding clauses document := by
  cases clauses with
  | nil => exact Nat.le_refl 0
  | cons clause rest =>
    rw [countHolding, countHolding]
    have first := holds_of_narrows h clause
    have later := countHolding_le_of_narrows h rest
    by_cases holding : clause.holds view = true
    · rw [if_pos holding, if_pos (first holding)]
      omega
    · rw [if_neg holding]
      omega

end

/-- What is matched in a child of a relation is matched in the document; where the relation is one
object, nothing else is. -/
theorem holds_of_holds_nested (relation : String) (inner : Clause) (document : Json) :
    ((nested relation inner).holds document = true → inner.holds document = true) ∧
    ∀ members, document.get? relation = some (.object members) →
      (nested relation inner).holds document = inner.holds document := by
  rw [holds]
  constructor
  · intro found
    obtain ⟨view, hview, matched⟩ := List.any_eq_true.mp found
    exact holds_of_narrows (Json.narrows_of_mem_nestedViews hview) inner matched
  · intro members single
    rw [Json.nestedViews_of_object single, List.any_cons, List.any_nil, Bool.or_false]

-- A colour and a size that the document has, but no variant of it.
example :
    let document := Json.object [("variants", .array
      [.object [("color", .text "red"), ("size", .text "m")],
       .object [("color", .text "blue"), ("size", .text "l")]])]
    let both := bool [term "variants.color" "red", term "variants.size" "l"] [] [] none
    both.holds document = true ∧ (nested "variants" both).holds document = false := by
  decide +kernel

end Clause

end FacetSearch
