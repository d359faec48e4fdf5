import FacetSearch.Proofs.Pruning
import FacetSearch.Proofs.SingleValues
/-!
Counters of a facet over any run of counting and pruning.

A key that is counted replaces its counter or comes last, and pruning takes counters away by a rule
that looks at all of them. So what a later pruning takes depends on the earlier ones, and a key that
was taken away and is counted again comes back as a new one.

What is proved:
  1. `mem_pruneLevels_iff`: pruning takes exactly the counters that `Loses` describes.
  2. `stands_count_iff`, `stands_prune_iff`: how one more change bears on what stands.
  3. `run_eq_pure`, `mem_after_iff`: a run does not stop, and the counters after it are those that
     stand, both by induction over the run.
  4. `countedBy_after`: what a run makes of a facet's counters, from the start on.
-/

namespace FacetSearch

/-- An item within a list that has one more item at its end is that item, or is within the list. -/
theorem append_singleton_eq_iff {α : Type} {items before later : List α} {last x : α} :
    items ++ [last] = before ++ x :: later ↔
      (last = x ∧ items = before ∧ later = []) ∨
        ∃ later', later = later' ++ [last] ∧ items = before ++ x :: later' := by
  constructor
  · intro same
    rcases List.eq_nil_or_concat' later with rfl | ⟨later', end', rfl⟩
    · obtain ⟨front, back⟩ := List.append_inj' same rfl
      exact .inl ⟨List.singleton_inj.mp back, front, rfl⟩
    · rw [← List.cons_append, ← List.append_assoc] at same
      obtain ⟨front, back⟩ := List.append_inj' same rfl
      obtain rfl := List.singleton_inj.mp back
      exact .inr ⟨later', rfl, front⟩
  · rintro (⟨rfl, rfl, rfl⟩ | ⟨later', rfl, rfl⟩)
    · rfl
    · rw [List.append_assoc, List.cons_append]

/-- Writing an item where its key occurs changes the item of that key only. -/
theorem upsert_eq_map {α κ : Type} [DecidableEq κ] {key : α → κ} (item : α) {items : List α}
    (distinct : (items.map key).Nodup) (known : key item ∈ items.map key) :
    upsert (fun x => key x = key item) item items =
      items.map fun x => if key x = key item then item else x := by
  induction items with
  | nil => simp at known
  | cons x rest ih =>
    obtain ⟨fresh, distinct⟩ := List.nodup_cons.mp distinct
    by_cases same : key x = key item
    · have others : (rest.map fun y => if key y = key item then item else y) = rest.map id := by
        apply List.map_congr_left
        intro y hy
        have apart : key y ≠ key item := fun equal =>
          fresh (List.mem_map.mpr ⟨y, hy, equal.trans same.symm⟩)
        exact if_neg apart
      simp [upsert, same, others]
    · have later : key item ∈ rest.map key :=
        (List.mem_cons.mp known).resolve_left (Ne.symm same)
      simp [upsert, same, ih distinct later]

namespace FacetResult

/-! ## What pruning takes away -/

/-- Pruning the counters takes this one away: it has a level, is not selected, and its level is not
the one that a user can choose from next. -/
def Loses (counters : List Counter) (c : Counter) : Prop :=
  c.isFilterValue = false ∧ ∃ level, c.level = some level ∧ ¬ IsNextLevel counters level.toNat

section Pruning

variable {counters : List Counter}

/-- There is one level to choose from next. -/
theorem IsNextLevel.unique {a b : Nat} (ha : IsNextLevel counters a) (hb : IsNextLevel counters b) :
    a = b := by
  rcases ha with ⟨deepest, among, bound, rfl⟩ | ⟨none, least, among, bound, rfl⟩ <;>
    rcases hb with ⟨deepest', among', bound', rfl⟩ | ⟨none', least', among', bound', rfl⟩
  · rw [UInt32.le_antisymm (bound' _ among) (bound _ among')]
  · rw [none'] at among
    cases among
  · rw [none] at among'
    cases among'
  · rw [UInt32.le_antisymm (bound _ among') (bound' _ among)]

theorem survives_iff_not_loses {shallowest : UInt32}
    (least : shallowest? counters = some shallowest)
    (below : ∀ c ∈ counters, ∀ level ∈ c.level, level < Counter.lastLevel) {c : Counter}
    (hc : c ∈ counters) :
    (survives shallowest (deepestSelected? counters) c).value = true ↔ ¬ Loses counters c := by
  obtain ⟨next, isNext, decided⟩ := exists_isNextLevel least below
  cases fixed : c.isFixed with
  | true =>
    refine iff_of_true (survives_of_isFixed hc fixed) ?_
    rintro ⟨unselected, level, leveled, -⟩
    simp [Counter.isFixed, unselected, leveled] at fixed
  | false =>
    obtain ⟨leveled, unselected⟩ := Bool.or_eq_false_iff.mp fixed
    obtain ⟨level, leveled⟩ := Option.isSome_iff_exists.mp (by simpa using leveled)
    rw [decided c hc unselected level leveled]
    constructor
    · rintro rfl ⟨-, level', leveled', notNext⟩
      obtain rfl := Option.some.inj (leveled.symm.trans leveled')
      exact notNext isNext
    · intro stays
      by_contra other
      exact stays ⟨unselected, level, leveled, fun isNext' => other (isNext'.unique isNext)⟩

theorem mem_pruneLevels_iff {result : FacetResult}
    (below : ∀ c ∈ result.counters, ∀ level ∈ c.level, level < Counter.lastLevel) {c : Counter} :
    c ∈ result.pruneLevels.value.counters ↔ c ∈ result.counters ∧ ¬ Loses result.counters c := by
  cases least : shallowest? result.counters with
  | none =>
    have flat : levels result.counters = [] := List.min?_eq_none_iff.mp least
    rw [pruneLevels_of_levels_eq_nil flat, Checked.value_pure]
    refine (and_iff_left_of_imp ?_).symm
    rintro hc ⟨-, level, leveled, -⟩
    have among := mem_levels.mpr ⟨c, hc, leveled⟩
    rw [flat] at among
    cases among
  | some shallowest =>
    rw [value_pruneLevels_of_shallowest least, List.mem_filter]
    exact and_congr_right fun hc => survives_iff_not_loses least below hc

end Pruning

/-! ## Changes one after the other -/

inductive Change where
  | count (key : String) (count : Nat)
  | prune

def Change.apply (result : FacetResult) : Change → Checked FacetResult
  | count key n => pure (result.addCounter key n)
  | prune => result.pruneLevels

/-- The level of a key that is counted has another one after it. -/
def Change.HasNextLevel : Change → Prop
  | count key n => ∀ level ∈ (Counter.ofKey key n []).level, level < Counter.lastLevel
  | prune => True

-- Decided for the level that there is: to decide it of every level is to try all 32-bit numbers.
instance : DecidablePred Change.HasNextLevel
  | .count key n => decidable_of_iff
      ((Counter.ofKey key n []).level.all (· < Counter.lastLevel) = true)
      (by simp [Change.HasNextLevel, Option.all_eq_true])
  | .prune => .isTrue trivial

def run (result : FacetResult) (changes : List Change) : Checked FacetResult :=
  changes.foldlM Change.apply result

def after (result : FacetResult) (changes : List Change) : FacetResult :=
  (result.run changes).value

section Run

variable {start : FacetResult} {changes : List Change}

theorem after_append_singleton (start : FacetResult) (changes : List Change) (change : Change) :
    start.after (changes ++ [change]) = (change.apply (start.after changes)).value := by
  rw [after, run, List.foldlM_append]
  rfl

theorem apply_eq (result : FacetResult) (change : Change) :
    (change.apply result).value =
      { result with counters := (change.apply result).value.counters } := by
  cases change with
  | count key n => rfl
  | prune => exact value_pruneLevels_eq result

/-- Changes reach nothing but the counters. -/
theorem after_eq (start : FacetResult) (changes : List Change) :
    start.after changes = { start with counters := (start.after changes).counters } := by
  induction changes using List.reverseRecOn with
  | nil => rfl
  | append_singleton changes change ih =>
    rw [after_append_singleton, apply_eq, ih]

theorem applied_after (start : FacetResult) (changes : List Change) :
    (start.after changes).applied = start.applied := by
  rw [after_eq]

/-! ## What stands after changes -/

/-- The key stands with a count: it was counted with it, was not counted again, and no later pruning
took it away. -/
def Stands (start : FacetResult) (changes : List Change) (key : String) (n : Nat) : Prop :=
  ∃ before later, changes = before ++ .count key n :: later ∧ (∀ m, .count key m ∉ later) ∧
    ∀ between rest, later = between ++ .prune :: rest →
      ¬ Loses (start.after (before ++ .count key n :: between)).counters
        (.ofKey key n start.applied)

theorem not_stands_nil {key : String} {n : Nat} : ¬ Stands start [] key n := by
  rintro ⟨before, later, same, -⟩
  simp at same

/-- One more key that is counted stands with its count, and all others stand as before. -/
theorem stands_count_iff {key counted : String} {n m : Nat} :
    Stands start (changes ++ [.count counted m]) key n ↔
      (counted = key ∧ m = n) ∨ (counted ≠ key ∧ Stands start changes key n) := by
  constructor
  · rintro ⟨before, later, same, last, kept⟩
    rcases append_singleton_eq_iff.mp same with ⟨own, -, -⟩ | ⟨later, rfl, rfl⟩
    · exact .inl (Change.count.inj own)
    · refine .inr ⟨?_, before, later, rfl, ?_, ?_⟩
      · rintro rfl
        exact last m (by simp)
      · exact fun m' earlier => last m' (List.mem_append_left _ earlier)
      · rintro between rest rfl
        exact kept between (rest ++ [.count counted m]) (by simp)
  · rintro (⟨rfl, rfl⟩ | ⟨other, before, later, rfl, last, kept⟩)
    · exact ⟨changes, [], rfl, by simp, by simp⟩
    · refine ⟨before, later ++ [.count counted m], by simp, ?_, ?_⟩
      · intro m' counted'
        rcases List.mem_append.mp counted' with earlier | here
        · exact last m' earlier
        · exact other (Change.count.inj (List.mem_singleton.mp here)).1.symm
      · intro between rest same
        rcases append_singleton_eq_iff.mp same with ⟨own, -, -⟩ | ⟨rest, -, rfl⟩
        · cases own
        · exact kept between rest rfl

/-- Of what stood before one more pruning that stands which the pruning does not take away. -/
theorem stands_prune_iff {key : String} {n : Nat} :
    Stands start (changes ++ [.prune]) key n ↔
      Stands start changes key n ∧
        ¬ Loses (start.after changes).counters (.ofKey key n start.applied) := by
  constructor
  · rintro ⟨before, later, same, last, kept⟩
    rcases append_singleton_eq_iff.mp same with ⟨own, -, -⟩ | ⟨later, rfl, rfl⟩
    · cases own
    · refine ⟨⟨before, later, rfl, ?_, ?_⟩, kept later [] rfl⟩
      · exact fun m earlier => last m (List.mem_append_left _ earlier)
      · rintro between rest rfl
        exact kept between (rest ++ [.prune]) (by simp)
  · rintro ⟨⟨before, later, rfl, last, kept⟩, stays⟩
    refine ⟨before, later ++ [.prune], by simp, ?_, ?_⟩
    · intro m counted
      rcases List.mem_append.mp counted with earlier | here
      · exact last m earlier
      · cases List.mem_singleton.mp here
    · intro between rest same
      rcases append_singleton_eq_iff.mp same with ⟨-, rfl, -⟩ | ⟨rest, -, rfl⟩
      · exact stays
      · exact kept between rest rfl

/-- What holds of a facet's counters after every change: no key has two of them, each has the parts,
the level and the mark of its key, and no level is the last. -/
structure Sound (result : FacetResult) : Prop where
  distinct : (result.counters.map Counter.key).Nodup
  read : ∀ c ∈ result.counters, c = .ofKey c.key c.count result.applied
  below : ∀ c ∈ result.counters, ∀ level ∈ c.level, level < Counter.lastLevel

theorem mem_addCounter_iff {result : FacetResult}
    (distinct : (result.counters.map Counter.key).Nodup) {key : String} {n : Nat} {c : Counter} :
    c ∈ (result.addCounter key n).counters ↔
      c = .ofKey key n result.applied ∨ (c ∈ result.counters ∧ c.key ≠ key) := by
  have keyed : (Counter.ofKey key n result.applied).key = key := rfl
  have written := @mem_upsert_iff _ _ _ Counter.key (.ofKey key n result.applied) c _ distinct
  rwa [keyed] at written

/-- Every change keeps the counters sound. -/
theorem Sound.apply {result : FacetResult} (sound : result.Sound) {change : Change}
    (small : change.HasNextLevel) : (change.apply result).value.Sound := by
  cases change with
  | count key n =>
    refine ⟨nodup_map_upsert Counter.key (.ofKey key n result.applied) _ sound.distinct, ?_, ?_⟩
    · intro c hc
      rcases (mem_addCounter_iff sound.distinct).mp hc with rfl | ⟨old, -⟩
      · rfl
      · exact sound.read c old
    · intro c hc
      rcases (mem_addCounter_iff sound.distinct).mp hc with rfl | ⟨old, -⟩
      · exact small
      · exact sound.below c old
  | prune =>
    have part := sublist_pruneLevels result
    have applied : result.pruneLevels.value.applied = result.applied := by
      rw [value_pruneLevels_eq]
    refine ⟨sound.distinct.sublist (part.map Counter.key), ?_, ?_⟩
    · intro c hc
      show c = .ofKey c.key c.count result.pruneLevels.value.applied
      rw [applied]
      exact sound.read c (part.subset hc)
    · exact fun c hc => sound.below c (part.subset hc)

theorem Sound.after (sound : start.Sound) (small : ∀ change ∈ changes, change.HasNextLevel) :
    (start.after changes).Sound := by
  induction changes using List.reverseRecOn with
  | nil => exact sound
  | append_singleton changes change ih =>
    rw [after_append_singleton]
    refine (ih fun earlier hmem => small earlier (List.mem_append_left _ hmem)).apply ?_
    exact small change (by simp)

/-- Changes that keep to levels with a next one do not stop. -/
theorem run_eq_pure (sound : start.Sound) (small : ∀ change ∈ changes, change.HasNextLevel) :
    start.run changes = pure (start.after changes) := by
  induction changes using List.reverseRecOn with
  | nil => rfl
  | append_singleton changes change ih =>
    have earlier : ∀ change ∈ changes, change.HasNextLevel :=
      fun change hmem => small change (List.mem_append_left _ hmem)
    have last : start.run (changes ++ [change]) = change.apply (start.after changes) := by
      rw [run, List.foldlM_append, ← run, ih earlier]
      simp
    rw [last, after_append_singleton]
    cases change with
    | count key n => rfl
    | prune => exact pruneLevels_eq_pure (sound.after earlier).below

/-- From no counters on, the counters after changes are those of the keys that stand. -/
theorem mem_after_iff (none : start.counters = [])
    (small : ∀ change ∈ changes, change.HasNextLevel) (c : Counter) :
    c ∈ (start.after changes).counters ↔
      ∃ key n, Stands start changes key n ∧ c = .ofKey key n start.applied := by
  have empty : start.Sound := ⟨by simp [none], by simp [none], by simp [none]⟩
  induction changes using List.reverseRecOn generalizing c with
  | nil =>
    refine iff_of_false ?_ ?_
    · simp [after, run, none]
    · rintro ⟨key, n, stands, -⟩
      exact not_stands_nil stands
  | append_singleton changes change ih =>
    have earlier : ∀ change ∈ changes, change.HasNextLevel :=
      fun change hmem => small change (List.mem_append_left _ hmem)
    have sound := empty.after earlier
    have stood : c ∈ (start.after changes).counters ↔
        ∃ key n, Stands start changes key n ∧ c = .ofKey key n start.applied := ih earlier c
    rw [after_append_singleton]
    cases change with
    | count counted m =>
      simp only [stands_count_iff]
      refine (mem_addCounter_iff sound.distinct).trans ?_
      rw [applied_after, stood]
      constructor
      · rintro (rfl | ⟨⟨key, n, stands, rfl⟩, other⟩)
        · exact ⟨counted, m, .inl ⟨rfl, rfl⟩, rfl⟩
        · exact ⟨key, n, .inr ⟨Ne.symm other, stands⟩, rfl⟩
      · rintro ⟨key, n, ⟨rfl, rfl⟩ | ⟨other, stands⟩, rfl⟩
        · exact .inl rfl
        · exact .inr ⟨⟨key, n, stands, rfl⟩, Ne.symm other⟩
    | prune =>
      simp only [stands_prune_iff]
      refine (mem_pruneLevels_iff sound.below).trans ?_
      rw [stood]
      constructor
      · rintro ⟨⟨key, n, stands, rfl⟩, stays⟩
        exact ⟨key, n, ⟨stands, stays⟩, rfl⟩
      · rintro ⟨key, n, ⟨stands, stays⟩, rfl⟩
        exact ⟨⟨key, n, stands, rfl⟩, stays⟩

end Run

/-! ## Looking up and adding up -/

section Lookup

variable {result : FacetResult}

theorem counter?_eq_some_iff (distinct : (result.counters.map Counter.key).Nodup) {key : String}
    {c : Counter} : result.counter? key = some c ↔ c ∈ result.counters ∧ c.key = key :=
  find?_eq_some_iff_of_nodup distinct

theorem isSome_counter?_iff (result : FacetResult) (key : String) :
    (result.counter? key).isSome = true ↔ key ∈ result.counters.map Counter.key := by
  simp [counter?]

/-- The counts of keys added up; a key without a counter adds nothing. -/
def countOf (result : FacetResult) (keys : List String) : Nat :=
  (keys.map fun key => (result.counter? key).elim 0 Counter.count).sum

theorem totalCounts_eq_countOf (distinct : (result.counters.map Counter.key).Nodup)
    {keys : List String} (once : keys.Nodup)
    (all : ∀ key, key ∈ keys ↔ (result.counter? key).isSome = true)
    (small : result.countOf keys < UInt64.size) :
    result.totalCounts = pure (result.countOf keys) := by
  have same : keys.Perm (result.counters.map Counter.key) := by
    rw [List.perm_ext_iff_of_nodup once distinct]
    exact fun key => (all key).trans (result.isSome_counter?_iff key)
  have counts : result.countOf keys = (result.counters.map Counter.count).sum := by
    rw [countOf, (same.map _).sum_nat, List.map_map]
    congr 1
    apply List.map_congr_left
    intro c hc
    rw [Function.comp_apply, (counter?_eq_some_iff distinct).mpr ⟨hc, rfl⟩, Option.elim_some]
  rw [totalCounts_eq, ← counts, Checked.total_of_lt small]

end Lookup

/-! ## Runs from the start -/

/-- The counters are those that changes make of a facet without counters. -/
structure CountedBy (start : FacetResult) (changes : List Change) (result : FacetResult) : Prop where
  /-- The changes do not stop, -/
  runs : start.run changes = pure result
  /-- and nothing but the counters changes. -/
  rest : result = { start with counters := result.counters }
  distinct : (result.counters.map Counter.key).Nodup
  /-- The parts, the level and the mark of every counter are those of its key. -/
  read : ∀ c ∈ result.counters, c = .ofKey c.key c.count start.applied
  /-- A key has a counter, with its last count, if it was counted and not taken away since. -/
  found : ∀ key c, result.counter? key = some c ↔
    ∃ n, Stands start changes key n ∧ c = .ofKey key n start.applied
  /-- A key that has a counter gets its new count in the same place, -/
  replaced : ∀ key n, (result.counter? key).isSome = true →
    (start.after (changes ++ [.count key n])).counters =
      result.counters.map fun c => if c.key = key then .ofKey key n start.applied else c
  /-- and any other key comes last, whether or not it had one before. -/
  appended : ∀ key n, result.counter? key = none →
    (start.after (changes ++ [.count key n])).counters =
      result.counters ++ [.ofKey key n start.applied]
  /-- The counts of the keys that have a counter, each taken once, add up to the total. -/
  total : ∀ keys : List String, keys.Nodup →
    (∀ key, key ∈ keys ↔ (result.counter? key).isSome = true) →
      result.countOf keys < UInt64.size → result.totalCounts = pure (result.countOf keys)

/-- Counting and pruning a facet in any order keep one counter for each key that was counted and not
taken away since, with the count and at the place that the history gives it. -/
theorem countedBy_after (name : String) (application : ApplicationType) (totalDocuments : Nat)
    (applied : List String) {changes : List Change}
    (small : ∀ change ∈ changes, change.HasNextLevel) :
    let start : FacetResult := { name, application, totalDocuments, applied }
    CountedBy start changes (start.after changes) := by
  intro start
  have none : start.counters = [] := rfl
  have empty : start.Sound := ⟨by simp [none], by simp [none], by simp [none]⟩
  have sound := empty.after small
  have kept := applied_after start changes
  refine ⟨run_eq_pure empty small, after_eq start changes, sound.distinct, ?_, ?_, ?_, ?_, ?_⟩
  · exact fun c hc => (sound.read c hc).trans (by rw [kept])
  · intro key c
    rw [counter?_eq_some_iff sound.distinct, mem_after_iff none small]
    constructor
    · rintro ⟨⟨key, n, stands, rfl⟩, rfl⟩
      exact ⟨n, stands, rfl⟩
    · rintro ⟨n, stands, rfl⟩
      exact ⟨⟨key, n, stands, rfl⟩, rfl⟩
  · intro key n present
    rw [after_append_singleton, ← kept]
    exact upsert_eq_map (.ofKey key n (start.after changes).applied) sound.distinct
      ((isSome_counter?_iff _ _).mp present)
  · intro key n absent
    rw [after_append_singleton, ← kept]
    refine upsert_of_not_mem Counter.key (.ofKey key n (start.after changes).applied) _ ?_
    intro present
    have found := (isSome_counter?_iff _ _).mpr present
    simp [Counter.ofKey, absent] at found
  · exact fun keys once all => totalCounts_eq_countOf sound.distinct once all

/-- A key that was taken away is counted again and comes last; another one is counted twice. -/
theorem countedBy_after_categories :
    let start : FacetResult :=
      { name := "category", application := .onlyLevels, totalDocuments := 4, applied := [] }
    let changes : List Change :=
      [.count "novels~~2" 1, .count "books~~1" 1, .count "gifts" 1, .prune, .count "novels~~2" 3,
       .count "books~~1" 2]
    (∀ change ∈ changes, change.HasNextLevel) ∧ CountedBy start changes (start.after changes) ∧
      (start.after changes).counters.map (fun c => (c.key, c.count)) =
        [("books~~1", 2), ("gifts", 1), ("novels~~2", 3)] := by
  intro start changes
  have small : ∀ change ∈ changes, change.HasNextLevel := by decide +kernel
  exact ⟨small, countedBy_after _ _ _ _ small, by decide +kernel⟩

end FacetResult

end FacetSearch
