import FacetSearch.Proofs.Buckets
/-!
Levels that leave 32 bits.

Levels are read off the keys of buckets, so that every 32-bit number can be one. Pruning asks for the
level after the deepest selected one, and the last of the numbers has none after it. Nothing else of
reading a response adds anything up.

What is proved:
  1. `FacetResult.overflows_survives`: the sum is taken for the counters that have a level and are not
     selected, and it overflows after the last level.
  2. `Response.runsOut_counted_iff`: whatever the buckets are, the keys that they show decide which
     levels are counted and which of them are selected.
  3. `Engine.overflows_search_iff`, `Engine.search_of_flat`: when a search stops.
  4. `SearchResult.ofResponse_stops_iff`: pruning stops exactly at counters that run out of levels, and
     reading a response exactly at a facet whose keys do.
-/

namespace FacetSearch

/-! ## The level after another one -/

def Counter.lastLevel : UInt32 := 4294967295

theorem Counter.le_lastLevel (level : UInt32) : level ≤ lastLevel := by
  have bound := level.toNat_lt
  have last : lastLevel.toNat = 2 ^ 32 - 1 := rfl
  rw [UInt32.le_iff_toNat_le]
  omega

theorem Checked.overflows_next {level : UInt32} :
    (Checked.next level).overflows = true ↔ level = Counter.lastLevel := by
  have size : UInt32.size = 2 ^ 32 := rfl
  have last : level = Counter.lastLevel ↔ level.toNat = 2 ^ 32 - 1 := UInt32.toNat_inj.symm
  rw [last, next, decide_eq_true_eq]
  omega

instance lawfulOrderMaxUInt32 : Std.LawfulOrderMax UInt32 := by
  have pick : ∀ a b : UInt32, max a b = if a ≤ b then b else a := fun _ _ => rfl
  refine .of_max_le_iff (fun a b c => ?_) (fun a b => ?_)
  · rw [pick]
    simp only [UInt32.le_iff_toNat_le]
    split <;> omega
  · rw [pick]
    split <;> simp

/-! ## Pruning -/

namespace FacetResult

theorem overflows_survives {shallowest : UInt32} {deepest : Option UInt32} {counter : Counter} :
    (survives shallowest deepest counter).overflows = true ↔
      deepest = some Counter.lastLevel ∧ counter.isFilterValue = false ∧ counter.level ≠ none := by
  unfold survives
  cases counter.level with
  | none => simp
  | some level =>
    cases deepest with
    | none => simp
    | some deepest =>
      dsimp only
      cases stays : counter.isFilterValue && decide (level ≤ deepest) with
      | true =>
        -- A selected counter stays without a sum.
        simp [(Bool.and_eq_true_iff.mp stays).1]
      | false =>
        have below := Counter.le_lastLevel level
        have unselected : deepest = Counter.lastLevel → counter.isFilterValue = false := by
          rintro rfl
          simpa [below] using stays
        simpa [Checked.overflows_next] using unselected

/-- Some selected counter has the last level, and some counter that is not selected has a level. -/
def RunsOut (counters : List Counter) : Prop :=
  (∃ c ∈ counters, c.isFilterValue = true ∧ c.level = some Counter.lastLevel) ∧
    ∃ c ∈ counters, c.isFilterValue = false ∧ c.level ≠ none

instance (counters : List Counter) : Decidable (RunsOut counters) :=
  inferInstanceAs (Decidable (_ ∧ _))

theorem deepestSelected?_eq_lastLevel_iff (counters : List Counter) :
    deepestSelected? counters = some Counter.lastLevel ↔
      ∃ c ∈ counters, c.isFilterValue = true ∧ c.level = some Counter.lastLevel := by
  unfold deepestSelected?
  rw [List.max?_eq_some_iff]
  constructor
  · intro deepest
    obtain ⟨c, hc, level⟩ := List.mem_filterMap.mp deepest.1
    obtain ⟨hc, selected⟩ := List.mem_filter.mp hc
    exact ⟨c, hc, selected, level⟩
  · intro found
    obtain ⟨c, hc, selected, level⟩ := found
    exact ⟨List.mem_filterMap.mpr ⟨c, List.mem_filter.mpr ⟨hc, selected⟩, level⟩,
      fun other _ => Counter.le_lastLevel other⟩

/-- Pruning asks for the level after the last one exactly at counters that run out of levels. -/
theorem overflows_pruneLevels {result : FacetResult} :
    result.pruneLevels.overflows = true ↔ RunsOut result.counters := by
  unfold pruneLevels
  cases least : shallowest? result.counters with
  | none =>
    have flat : ∀ c ∈ result.counters, c.level = none := by
      simpa [shallowest?, List.min?_eq_none_iff] using least
    refine iff_of_false Bool.false_ne_true fun out => ?_
    obtain ⟨c, hc, -, level⟩ := out.2
    exact level (flat c hc)
  | some shallowest =>
    have kept : (Checked.filter (survives shallowest (deepestSelected? result.counters))
        result.counters).overflows = true ↔
          ∃ c ∈ result.counters, deepestSelected? result.counters = some Counter.lastLevel ∧
            c.isFilterValue = false ∧ c.level ≠ none := by
      simp only [Checked.overflows_filter, List.any_eq_true, overflows_survives]
    simp only [Checked.overflows_bind, Checked.overflows_pure, Bool.or_false]
    rw [kept, RunsOut, ← deepestSelected?_eq_lastLevel_iff]
    constructor
    · intro found
      obtain ⟨c, hc, deepest, fails⟩ := found
      exact ⟨deepest, c, hc, fails⟩
    · intro out
      obtain ⟨deepest, c, hc, fails⟩ := out
      exact ⟨c, hc, deepest, fails⟩

/-! ## Counters of keys -/

theorem mem_addCounter {result : FacetResult} {key : String} {count : Nat} {c : Counter}
    (h : c ∈ (result.addCounter key count).counters) :
    c = .ofKey key count result.applied ∨ c ∈ result.counters := by
  have among : ∀ counters : List Counter,
      c ∈ upsert (fun c => c.key = key) (.ofKey key count result.applied) counters →
        c = .ofKey key count result.applied ∨ c ∈ counters := by
    intro counters
    induction counters with
    | nil => simp [upsert]
    | cons first rest ih =>
      intro h
      unfold upsert at h
      split at h
      · exact (List.mem_cons.mp h).imp_right (List.mem_cons_of_mem first)
      · rcases List.mem_cons.mp h with rfl | later
        · exact .inr List.mem_cons_self
        · exact (ih later).imp_right (List.mem_cons_of_mem first)
  exact among result.counters h

theorem key_addCounter_iff {result : FacetResult} {key k : String} {count : Nat} :
    k ∈ (result.addCounter key count).counters.map Counter.key ↔
      k ∈ result.counters.map Counter.key ∨ k = key := by
  let item : Counter := .ofKey key count result.applied
  have named : item.key = key := rfl
  have keys : (result.addCounter key count).counters.map Counter.key =
      (upsert (fun c => c.key = item.key) item result.counters).map Counter.key := rfl
  rw [keys]
  by_cases old : item.key ∈ result.counters.map Counter.key
  · rw [map_upsert_of_mem Counter.key item _ old]
    constructor
    · exact .inl
    · rintro (there | rfl)
      · exact there
      · exact old
  · rw [upsert_of_not_mem Counter.key item _ old, List.map_append, List.mem_append]
    simp [named]

/-- The keys that are counted are those of the pairs. -/
theorem key_addCounters_iff {result : FacetResult} (empty : result.counters = [])
    {entries : List (String × Nat)} {k : String} :
    k ∈ (result.addCounters entries).counters.map Counter.key ↔ k ∈ entries.map Prod.fst := by
  induction entries using List.reverseRecOn with
  | nil =>
    have counters : (result.addCounters []).counters = [] := empty
    simp [counters]
  | append_singleton entries entry ih =>
    rw [addCounters_snoc, key_addCounter_iff, ih, List.map_append, List.mem_append]
    simp

/-- The parts, the level and the mark of every counter are those of its key. -/
theorem ofKey_of_mem_addCounters {result : FacetResult} (empty : result.counters = [])
    {entries : List (String × Nat)} {c : Counter} (h : c ∈ (result.addCounters entries).counters) :
    c = .ofKey c.key c.count result.applied := by
  induction entries using List.reverseRecOn with
  | nil =>
    have counters : (result.addCounters []).counters = [] := empty
    rw [counters] at h
    exact absurd h List.not_mem_nil
  | append_singleton entries entry ih =>
    rw [addCounters_snoc] at h
    rcases mem_addCounter h with rfl | before
    · rw [applied_addCounters]
      rfl
    · exact ih before

end FacetResult

namespace Response

/-- The pairs of a key and a count that buckets show and whose keys the facet keeps. -/
def entriesOf (facet : Facet) (found : List Json) : List (String × Nat) :=
  found.filterMap fun bucket =>
    ((bucket.get? "key").bind Json.term?).bind fun key =>
      if facet.keeps key then some (key, documentCount bucket) else none

/-- The keys that a facet reads off its scope. -/
def keysRead (facet : Facet) (scope : Json) : List String :=
  (entriesOf facet (buckets scope facet.name)).map Prod.fst

theorem foldl_addBucket_eq (facet : Facet) (found : List Json) (result : FacetResult) :
    found.foldl (addBucket facet) result = result.addCounters (entriesOf facet found) := by
  induction found generalizing result with
  | nil => rfl
  | cons bucket rest ih =>
    rw [List.foldl_cons, ih]
    unfold addBucket entriesOf
    cases shown : (bucket.get? "key").bind Json.term? with
    | none => simp [shown]
    | some key =>
      by_cases kept : facet.keeps key = true
      · simp only [shown, kept, if_true, List.filterMap_cons, Option.bind_some]
        rfl
      · simp [shown, kept]

/-- The result of a facet before its levels are pruned. -/
def counted (query : Query) (facet : Facet) (scope : Json) : FacetResult :=
  (buckets scope facet.name).foldl (addBucket facet)
    { name := facet.name
      application := facet.application
      totalDocuments := documentCount scope
      applied := appliedTo query facet }

/-- The result of a facet before any bucket is counted. -/
def uncounted (query : Query) (facet : Facet) (scope : Json) : FacetResult where
  name := facet.name
  application := facet.application
  totalDocuments := documentCount scope
  applied := appliedTo query facet

theorem facetResult_eq_counted (query : Query) (facet : Facet) (scope : Json) :
    facetResult query facet scope =
      if facet.application.levels then (counted query facet scope).pruneLevels
      else pure (counted query facet scope) :=
  rfl

theorem counted_eq_addCounters (query : Query) (facet : Facet) (scope : Json) :
    counted query facet scope = (uncounted query facet scope).addCounters
      (entriesOf facet (buckets scope facet.name)) :=
  foldl_addBucket_eq facet _ (uncounted query facet scope)

/-- The facet has levels, and of the keys that it reads off its scope one is selected and has the
last level, and one is not selected and has a level. -/
def FacetRunsOut (query : Query) (facet : Facet) (scope : Json) : Prop :=
  facet.application.levels = true ∧ FacetResult.RunsOut
    ((keysRead facet scope).map fun key => .ofKey key 0 (appliedTo query facet))

instance (query : Query) (facet : Facet) (scope : Json) :
    Decidable (FacetRunsOut query facet scope) :=
  inferInstanceAs (Decidable (_ ∧ _))

/-- The levels and the marks of what is counted are those of the keys that are read. -/
theorem runsOut_counted_iff (query : Query) (facet : Facet) (scope : Json) :
    FacetResult.RunsOut
        ((keysRead facet scope).map fun key => .ofKey key 0 (appliedTo query facet)) ↔
      FacetResult.RunsOut (counted query facet scope).counters := by
  have among : ∀ P : Bool → Option UInt32 → Prop,
      (∃ c ∈ (keysRead facet scope).map fun key => Counter.ofKey key 0 (appliedTo query facet),
          P c.isFilterValue c.level) ↔
        ∃ c ∈ (counted query facet scope).counters, P c.isFilterValue c.level := by
    intro P
    rw [counted_eq_addCounters]
    constructor
    · intro found
      obtain ⟨_, made, holds⟩ := found
      obtain ⟨key, hkey, rfl⟩ := List.mem_map.mp made
      have counted : key ∈ ((uncounted query facet scope).addCounters
          (entriesOf facet (buckets scope facet.name))).counters.map Counter.key :=
        (FacetResult.key_addCounters_iff rfl).mpr hkey
      obtain ⟨c, hc, named⟩ := List.mem_map.mp counted
      refine ⟨c, hc, ?_⟩
      rw [FacetResult.ofKey_of_mem_addCounters rfl hc, named]
      exact holds
    · intro found
      obtain ⟨c, hc, holds⟩ := found
      have hkey := (FacetResult.key_addCounters_iff rfl).mp (List.mem_map_of_mem hc)
      refine ⟨_, List.mem_map.mpr ⟨c.key, hkey, rfl⟩, ?_⟩
      rw [FacetResult.ofKey_of_mem_addCounters rfl hc] at holds
      exact holds
  exact and_congr
    (among fun selected level => selected = true ∧ level = some Counter.lastLevel)
    (among fun selected level => selected = false ∧ level ≠ none)

/-! ## Reading a response -/

theorem overflows_facetResult {query : Query} {facet : Facet} {scope : Json} :
    (facetResult query facet scope).overflows = true ↔ FacetRunsOut query facet scope := by
  rw [facetResult_eq_counted, FacetRunsOut, runsOut_counted_iff,
    ← FacetResult.overflows_pruneLevels]
  cases facet.application.levels <;> simp

/-- Some facet reads keys off its scope that run out of levels. -/
def ScopesRunOut (query : Query) (typeScope : Json) : Prop :=
  ∃ facet ∈ query.facets.items, ∃ scope ∈ typeScope.get? facet.name, FacetRunsOut query facet scope

instance (query : Query) (typeScope : Json) : Decidable (ScopesRunOut query typeScope) :=
  inferInstanceAs (Decidable (∃ facet ∈ _, ∃ scope ∈ _, _))

theorem overflows_facetResults {query : Query} {typeScope : Json} :
    (facetResults query typeScope).overflows = true ↔ ScopesRunOut query typeScope := by
  have step : ∀ results facet, (addResult query typeScope results facet).overflows =
      (typeScope.get? facet.name).any fun scope => (facetResult query facet scope).overflows := by
    intro results facet
    unfold addResult
    cases typeScope.get? facet.name <;> simp
  rw [facetResults, Checked.overflows_foldlM step]
  simp [ScopesRunOut, overflows_facetResult, Option.any_eq_true]

end Response

/-- The response has the scopes that it has to have, and some facet reads keys off its scope that run
out of levels. -/
def Query.RunsOut (query : Query) (response : Json) : Prop :=
  ∃ scopes ∈ (Response.scopes response).toOption, Response.ScopesRunOut query scopes.type

instance (query : Query) (response : Json) : Decidable (query.RunsOut response) :=
  inferInstanceAs (Decidable (∃ scopes ∈ _, _))

theorem SearchResult.overflows_ofResponse {query : Query} {response : Json} :
    (ofResponse query response).overflows = true ↔ query.RunsOut response := by
  unfold ofResponse Query.RunsOut
  cases Response.scopes response with
  | error e => simp [Except.toOption]
  | ok scopes => simp [Except.toOption, Response.overflows_facetResults]

/-- A search stops exactly if the reading of the backend's response does. -/
theorem Engine.overflows_search_iff {engine : Engine} {backend : Backend} {timing : Timing}
    {query : Query} :
    (engine.search backend timing query).overflows = true ↔
      ∃ request response, Request.ofQuery engine.settings query = .ok request ∧
        backend request query.offset query.size = .ok response ∧ query.RunsOut response := by
  cases compiled : Request.ofQuery engine.settings query with
  | error e => simp [search, compile, compiled]
  | ok request =>
    rw [← Checked.overflows_map Prod.fst, engine.outcome_search backend timing compiled, answer]
    cases answered : backend request query.offset query.size with
    | error e => simp [answered]
    | ok response => simp [answered, SearchResult.overflows_ofResponse]

/-- So a search for facets without levels does not stop. -/
theorem Engine.search_of_flat {query : Query} (engine : Engine) (backend : Backend)
    (timing : Timing) (flat : ∀ facet ∈ query.facets.items, facet.application.levels = false) :
    engine.search backend timing query = pure (engine.search backend timing query).value := by
  refine Checked.eq_pure_iff.mpr ⟨?_, rfl⟩
  rw [← Bool.not_eq_true, overflows_search_iff]
  intro stops
  obtain ⟨-, -, -, -, scopes, -, facet, asked, scope, -, leveled, -⟩ := stops
  exact Bool.false_ne_true ((flat facet asked).symm.trans leveled)

/-- Reading a response stops exactly if it has its scopes and some facet with levels reads off its
own scope both a selected key of the last level and a key with a level that is not selected; pruning
the counters of a facet stops exactly at such counters. -/
theorem SearchResult.ofResponse_stops_iff (query : Query) (response : Json) :
    ((ofResponse query response).result? = none ↔ query.RunsOut response) ∧
      ∀ result : FacetResult,
        result.pruneLevels.result? = none ↔ FacetResult.RunsOut result.counters := by
  refine ⟨?_, fun result => ?_⟩
  · rw [Checked.result?_eq_none_iff, overflows_ofResponse]
  · rw [Checked.result?_eq_none_iff, FacetResult.overflows_pruneLevels]

def levelsFacet : Facet where
  name := "category"
  field := "category"
  application := .onlyLevels

/-- A query for these categories in which one is selected. -/
def levelsQuery : Query :=
  (Query.matchAll.filterBy
    { name := "category", field := "category", values := ["deep"],
      application := .onlyLevels }).facetBy levelsFacet

/-- A scope of the facet that counts a category of the last level and one of level zero. -/
def levelsScope : Json :=
  .object [("category", Aggregation.bucketList
    [Aggregation.keyBucket ("deep~~4294967295", 1), Aggregation.keyBucket ("top~~0", 1)])]

def levelsResponse : Json :=
  .object [("aggregations", .object [(Aggregation.allScope, .object [(Aggregation.typeScope, .object
    [("category", levelsScope), (Aggregation.commonScope, .empty)])])])]

/-- The deepest selected level is the last, so that the level after it is asked for in vain. -/
theorem SearchResult.stops_after_last_level :
    FacetResult.deepestSelected? (Response.counted levelsQuery levelsFacet levelsScope).counters =
        some Counter.lastLevel ∧
      (Checked.next Counter.lastLevel).overflows = true ∧
      (ofResponse levelsQuery levelsResponse).result? = none :=
  ⟨by decide +kernel, by decide, Checked.result?_eq_none_iff.mpr (by decide +kernel)⟩

end FacetSearch
