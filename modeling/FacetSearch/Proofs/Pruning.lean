import FacetSearch.Proofs.Levels
/-!
What pruning the levels of a facet leaves of its counters.

Which levels stay is decided by the levels that there are before anything is removed. Removing moves
neither of the deciding levels: every selected counter stays, so the deepest selection stays the
deepest, and without a selection the least level is the one that stays. So pruning again removes
nothing.

What is proved:
  1. `FacetResult.survives_of_isFilterValue`, `FacetResult.exists_isNextLevel`: selected
     counters stay, and of the others those of the level that a user can choose from next.
  2. `FacetResult.deepestSelected?_pruneLevels`: pruning does not move the deepest selection.
  3. `FacetResult.pruneLevels_eq_pure`: levels that have a next one do not make pruning stop.
  4. `FacetResult.prunes_pruneLevels`: what stays, in which order, and that it stays for good.
-/

namespace FacetSearch

/-- What every item of one test passes does not keep from the items of that test. -/
theorem filter_filter_of_imp {α : Type} {items : List α} {p q : α → Bool}
    (h : ∀ x ∈ items, q x = true → p x = true) : (items.filter p).filter q = items.filter q := by
  rw [List.filter_filter]
  apply List.filter_congr
  intro x hx
  cases passed : q x with
  | false => rfl
  | true => rw [h x hx passed, Bool.and_self]

namespace FacetResult

/-! ## The level to choose from -/

def levels (counters : List Counter) : List UInt32 := counters.filterMap Counter.level

def selectedLevels (counters : List Counter) : List UInt32 :=
  levels (counters.filter Counter.isFilterValue)

/-- The level that a user can choose from next: one more than the deepest level of a selected
counter, or the least level of all if no selected counter has one. -/
def IsNextLevel (counters : List Counter) (next : Nat) : Prop :=
  (∃ deepest ∈ selectedLevels counters,
    (∀ level ∈ selectedLevels counters, level ≤ deepest) ∧ next = deepest.toNat + 1) ∨
  (selectedLevels counters = [] ∧
    ∃ least ∈ levels counters, (∀ level ∈ levels counters, least ≤ level) ∧ next = least.toNat)

end FacetResult

/-- The counter has no level or is selected; it is never pruned. -/
def Counter.isFixed (counter : Counter) : Bool := counter.level.isNone || counter.isFilterValue

namespace FacetResult

/-- What pruning leaves of counters. -/
structure Prunes (before after : List Counter) : Prop where
  /-- What stays is as it was, in the order in which it was. -/
  sublist : after.Sublist before
  /-- All counters stay that have no level or are selected. -/
  fixed : after.filter Counter.isFixed = before.filter Counter.isFixed
  /-- Some counter with a level stays if there is one. -/
  leveled : levels before ≠ [] → levels after ≠ []
  /-- Of the counters with a level that are not selected those of one level stay. -/
  next : levels before ≠ [] → ∃ next, IsNextLevel before next ∧
    ∀ c ∈ before, c.isFilterValue = false → ∀ level, c.level = some level →
      (c ∈ after ↔ level.toNat = next)

section Survival

variable {counters : List Counter} {shallowest : UInt32}

theorem mem_levels {level : UInt32} :
    level ∈ levels counters ↔ ∃ c ∈ counters, c.level = some level :=
  List.mem_filterMap

theorem mem_selectedLevels {level : UInt32} :
    level ∈ selectedLevels counters ↔
      ∃ c ∈ counters, c.isFilterValue = true ∧ c.level = some level := by
  simp only [selectedLevels, mem_levels, List.mem_filter, and_assoc]

theorem survives_of_level_eq_none {deepest : Option UInt32} {c : Counter} (flat : c.level = none) :
    (survives shallowest deepest c).value = true := by
  simp [survives, flat]

theorem survives_of_isFilterValue {c : Counter} (hc : c ∈ counters)
    (selected : c.isFilterValue = true) :
    (survives shallowest (deepestSelected? counters) c).value = true := by
  cases leveled : c.level with
  | none => exact survives_of_level_eq_none leveled
  | some level =>
    have among : level ∈ selectedLevels counters :=
      mem_selectedLevels.mpr ⟨c, hc, selected, leveled⟩
    cases deepest : deepestSelected? counters with
    | none =>
      have empty : selectedLevels counters = [] := List.max?_eq_none_iff.mp deepest
      rw [empty] at among
      cases among
    | some deepest' =>
      have bound := (List.max?_eq_some_iff.mp deepest).2 level among
      simp [survives, leveled, selected, bound]

theorem survives_of_isFixed {c : Counter} (hc : c ∈ counters) (fixed : c.isFixed = true) :
    (survives shallowest (deepestSelected? counters) c).value = true := by
  rcases Bool.or_eq_true_iff.mp fixed with flat | selected
  · exact survives_of_level_eq_none (Option.isNone_iff_eq_none.mp flat)
  · exact survives_of_isFilterValue hc selected

/-- A counter with a level that is not selected stays if its level is the next one. -/
theorem exists_isNextLevel (least : shallowest? counters = some shallowest)
    (below : ∀ c ∈ counters, ∀ level ∈ c.level, level < Counter.lastLevel) :
    ∃ next, IsNextLevel counters next ∧
      ∀ c ∈ counters, c.isFilterValue = false → ∀ level, c.level = some level →
        ((survives shallowest (deepestSelected? counters) c).value = true ↔ level.toNat = next) := by
  cases deepest : deepestSelected? counters with
  | none =>
    have none : selectedLevels counters = [] := List.max?_eq_none_iff.mp deepest
    obtain ⟨among, bound⟩ := List.min?_eq_some_iff.mp least
    refine ⟨shallowest.toNat, .inr ⟨none, shallowest, among, bound, rfl⟩, ?_⟩
    intro c _ _ level leveled
    simp [survives, leveled, UInt32.toNat_inj]
  | some top =>
    obtain ⟨among, bound⟩ := List.max?_eq_some_iff.mp deepest
    refine ⟨top.toNat + 1, .inl ⟨top, among, bound, rfl⟩, ?_⟩
    intro c _ unselected level leveled
    -- The deepest selection is not at the last of the levels, so that the sum is the next number.
    have successor : (Checked.next top).value.toNat = top.toNat + 1 := by
      obtain ⟨holder, hholder, -, holds⟩ := mem_selectedLevels.mp among
      have small := UInt32.lt_iff_toNat_lt.mp (below holder hholder top holds)
      have last : Counter.lastLevel.toNat = 2 ^ 32 - 1 := rfl
      rw [Checked.next, UInt32.toNat_add, UInt32.toNat_one]
      omega
    simp [survives, leveled, unselected, ← UInt32.toNat_inj, successor]

/-- The counter that holds the deciding level stays. -/
theorem exists_survivor (least : shallowest? counters = some shallowest) :
    ∃ c ∈ counters, c.level ≠ none ∧
      (survives shallowest (deepestSelected? counters) c).value = true := by
  cases deepest : deepestSelected? counters with
  | none =>
    obtain ⟨c, hc, level⟩ := mem_levels.mp (List.min?_eq_some_iff.mp least).1
    exact ⟨c, hc, by simp [level], by simp [survives, level]⟩
  | some top =>
    obtain ⟨c, hc, selected, level⟩ := mem_selectedLevels.mp (List.max?_eq_some_iff.mp deepest).1
    exact ⟨c, hc, by simp [level], deepest ▸ survives_of_isFilterValue hc selected⟩

/-- With a selection, the least level has no part in what stays. -/
theorem survives_of_survives_some {top other : UInt32} {c : Counter}
    (h : (survives shallowest (some top) c).value = true) :
    (survives other (some top) c).value = true := by
  unfold survives at h ⊢
  cases level : c.level with
  | none => rfl
  | some l =>
    rw [level] at h
    exact h

end Survival

/-! ## Pruning -/

section Pruning

variable {result : FacetResult}

theorem value_pruneLevels_of_shallowest {shallowest : UInt32}
    (least : shallowest? result.counters = some shallowest) :
    result.pruneLevels.value = { result with
      counters := result.counters.filter fun c =>
        (survives shallowest (deepestSelected? result.counters) c).value } := by
  rw [value_pruneLevels, least]

theorem pruneLevels_of_levels_eq_nil (flat : levels result.counters = []) :
    result.pruneLevels = pure result := by
  have least : shallowest? result.counters = none := List.min?_eq_none_iff.mpr flat
  rw [pruneLevels, least]

theorem sublist_pruneLevels (result : FacetResult) :
    result.pruneLevels.value.counters.Sublist result.counters := by
  rw [value_pruneLevels]
  split
  · exact List.Sublist.refl _
  · exact List.filter_sublist

/-- Pruning removes no selected counter, so that it does not move the deepest selection. -/
theorem deepestSelected?_pruneLevels (result : FacetResult) :
    deepestSelected? result.pruneLevels.value.counters = deepestSelected? result.counters := by
  cases least : shallowest? result.counters with
  | none =>
    rw [pruneLevels_of_levels_eq_nil (List.min?_eq_none_iff.mp least), Checked.value_pure]
  | some shallowest =>
    rw [value_pruneLevels_of_shallowest least]
    rw [deepestSelected?, filter_filter_of_imp fun c hc => survives_of_isFilterValue hc,
      ← deepestSelected?]

theorem value_pruneLevels_pruneLevels (result : FacetResult) :
    result.pruneLevels.value.pruneLevels.value = result.pruneLevels.value := by
  cases least : shallowest? result.counters with
  | none =>
    have same := pruneLevels_of_levels_eq_nil (List.min?_eq_none_iff.mp least)
    rw [same, Checked.value_pure, same, Checked.value_pure]
  | some shallowest =>
    cases again : shallowest? result.pruneLevels.value.counters with
    | none =>
      rw [pruneLevels_of_levels_eq_nil (List.min?_eq_none_iff.mp again), Checked.value_pure]
    | some shallowest' =>
      have stayed : ∀ c ∈ result.pruneLevels.value.counters,
          (survives shallowest (deepestSelected? result.counters) c).value = true := by
        intro c hc
        rw [value_pruneLevels_of_shallowest least] at hc
        exact (List.mem_filter.mp hc).2
      have stays : ∀ c ∈ result.pruneLevels.value.counters,
          (survives shallowest' (deepestSelected? result.counters) c).value = true := by
        intro c hc
        cases deepest : deepestSelected? result.counters with
        | some top => exact survives_of_survives_some (deepest ▸ stayed c hc)
        | none =>
          -- Without a selection only the least level stayed, so it is the least one still.
          obtain ⟨holder, hholder, level⟩ := mem_levels.mp (List.min?_eq_some_iff.mp again).1
          have kept := stayed holder hholder
          rw [deepest] at kept
          obtain rfl : shallowest' = shallowest := by simpa [survives, level] using kept
          exact deepest ▸ stayed c hc
      rw [value_pruneLevels_of_shallowest again, deepestSelected?_pruneLevels,
        List.filter_eq_self.mpr stays]

/-- Pruning counters whose levels have a next one does not stop. -/
theorem pruneLevels_eq_pure
    (below : ∀ c ∈ result.counters, ∀ level ∈ c.level, level < Counter.lastLevel) :
    result.pruneLevels = pure result.pruneLevels.value := by
  refine Checked.eq_pure_iff.mpr ⟨?_, rfl⟩
  rw [← Bool.not_eq_true, overflows_pruneLevels]
  intro out
  obtain ⟨c, hc, -, level⟩ := out.1
  exact absurd (below c hc _ level) (by decide)

theorem prunes_of_shallowest {shallowest : UInt32}
    (least : shallowest? result.counters = some shallowest)
    (below : ∀ c ∈ result.counters, ∀ level ∈ c.level, level < Counter.lastLevel) :
    Prunes result.counters result.pruneLevels.value.counters := by
  rw [value_pruneLevels_of_shallowest least]
  refine ⟨List.filter_sublist, filter_filter_of_imp fun c hc => survives_of_isFixed hc, ?_, ?_⟩
  · intro _ none
    obtain ⟨c, hc, leveled, stays⟩ := exists_survivor least
    have flat := List.filterMap_eq_nil_iff.mp none c (List.mem_filter.mpr ⟨hc, stays⟩)
    exact leveled flat
  · intro _
    obtain ⟨next, isNext, decided⟩ := exists_isNextLevel least below
    refine ⟨next, isNext, fun c hc unselected level leveled => ?_⟩
    rw [List.mem_filter, decided c hc unselected level leveled]
    exact and_iff_right hc

/-- Pruning counters whose levels have a next one does not stop. It keeps the counters without a level
and the selected ones, and of the others those of one level: the one after the deepest selection, or
the least one. It keeps them in their order and as they are, changes nothing else, and leaves nothing
to prune. -/
theorem prunes_pruneLevels
    (below : ∀ c ∈ result.counters, ∀ level ∈ c.level, level < Counter.lastLevel) :
    ∃ pruned, result.pruneLevels = pure pruned ∧
      Prunes result.counters pruned.counters ∧
      pruned = { result with counters := pruned.counters } ∧
      pruned.pruneLevels = pure pruned := by
  refine ⟨_, pruneLevels_eq_pure below, ?_, value_pruneLevels_eq result, ?_⟩
  · cases least : shallowest? result.counters with
    | none =>
      have flat : levels result.counters = [] := List.min?_eq_none_iff.mp least
      rw [pruneLevels_of_levels_eq_nil flat]
      exact ⟨List.Sublist.refl _, rfl, id, fun leveled => absurd flat leveled⟩
    | some shallowest => exact prunes_of_shallowest least below
  · have again := value_pruneLevels_pruneLevels result
    have still := pruneLevels_eq_pure fun c hc => below c ((sublist_pruneLevels result).mem hc)
    rwa [again] at still

end Pruning

/-- Counters of three levels and of none, one of them selected. -/
def leveledCategories : FacetResult where
  name := "category"
  application := .onlyLevels
  totalDocuments := 4
  applied := ["books"]
  counters := ["poems~~3", "books~~1", "gifts", "novels~~2", "music~~1"].map fun key =>
    .ofKey key 1 ["books"]

theorem prunes_pruneLevels_categories :
    (∀ c ∈ leveledCategories.counters, ∀ level ∈ c.level, level < Counter.lastLevel) ∧
      ∃ pruned, leveledCategories.pruneLevels = pure pruned ∧
        Prunes leveledCategories.counters pruned.counters ∧
        pruned.pruneLevels = pure pruned ∧
        pruned.counters.map Counter.key = ["books~~1", "gifts", "novels~~2"] := by
  -- Decided counter by counter: to decide it of every level is to try all the 32-bit numbers.
  have tested : leveledCategories.counters.all
      (fun c => c.level.all (· < Counter.lastLevel)) = true := by decide +kernel
  have below : ∀ c ∈ leveledCategories.counters, ∀ level ∈ c.level, level < Counter.lastLevel := by
    simpa only [List.all_eq_true, Option.all_eq_true, decide_eq_true_eq, Option.mem_def]
      using tested
  obtain ⟨pruned, prunes, laws, -, again⟩ := prunes_pruneLevels below
  refine ⟨below, pruned, prunes, laws, again, ?_⟩
  rw [← (Checked.eq_pure_iff.mp prunes).2]
  decide +kernel

end FacetResult

end FacetSearch
