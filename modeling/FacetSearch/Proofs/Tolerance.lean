import FacetSearch.Proofs.CounterOrder
import FacetSearch.Proofs.EntityRoundTrip
import FacetSearch.Proofs.Hits
/-!
Reading any JSON value as the response to any query.

Three scopes have to be there, one inside the other; the first that is not is what the refusal names.
With them a response is read whatever else it holds: a facet without a scope, a bucket without a key
and a hit that is no entity are passed over, and leave what stands beside them as it is.

What is proved:
  1. `forall₂_filterMap`: what a list leads to, without the items that lead to nothing.
  2. `Response.decodesTo_iff`: which hits are read, and as which entities.
  3. `SearchResult.ofKind_foldl_addEntity`: entities that are added go to their kinds, in their order.
  4. `Response.entries_foldlM_addResult`: facets that the response has a scope for get a result each,
     in their order; `Response.Summarizes` says what is in it.
  5. `SearchResult.scopes_cases`: for which part a response is refused.
  6. `SearchResult.ofResponse_outcome`: what becomes of any response.
-/

namespace FacetSearch

/-! ## Items that lead to something -/

/-- The items for which a function has a value come, in their order, with these values. -/
theorem forall₂_filterMap {α β : Type} {f : α → Option β} {holds : α → Prop} [DecidablePred holds]
    {r : α → β → Prop} (reads : ∀ a, holds a ↔ (f a).isSome = true)
    (yields : ∀ a b, f a = some b → r a b) (items : List α) :
    List.Forall₂ r (items.filter holds) (items.filterMap f) := by
  induction items with
  | nil => exact .nil
  | cons a rest ih =>
    cases found : f a with
    | none =>
      have passed : ¬ holds a := by
        rw [reads, found]
        exact Bool.false_ne_true
      rw [List.filterMap_cons_none found, List.filter_cons_of_neg (by simpa using passed)]
      exact ih
    | some b =>
      have kept : holds a := by
        rw [reads, found]
        rfl
      rw [List.filterMap_cons_some found, List.filter_cons_of_pos (by simpa using kept)]
      exact .cons (yields a b found) ih

/-! ## Hits and entities -/

theorem EntityKind.ofName?_eq_some_iff {name : String} {kind : EntityKind} :
    ofName? name = some kind ↔ name = kind.name := by
  constructor
  · intro h
    unfold ofName? at h
    split_ifs at h with product category manufacturer brand tag <;> cases h <;> assumption
  · rintro rfl
    exact ofName?_name kind

theorem Product.id_of_ofMembers? {members : List (String × Json)} {p : Product}
    (h : ofMembers? members = some p) :
    (Record.named members).required 0 "id" Json.text? = some p.id := by
  obtain ⟨id, found, h⟩ := Option.bind_eq_some_iff.mp h
  obtain ⟨name, -, h⟩ := Option.bind_eq_some_iff.mp h
  obtain ⟨family, -, h⟩ := Option.bind_eq_some_iff.mp h
  obtain ⟨ean, -, h⟩ := Option.bind_eq_some_iff.mp h
  obtain ⟨price, -, h⟩ := Option.bind_eq_some_iff.mp h
  obtain ⟨reducedPrice, -, h⟩ := Option.bind_eq_some_iff.mp h
  obtain ⟨realPrice, -, h⟩ := Option.bind_eq_some_iff.mp h
  obtain ⟨stock, -, h⟩ := Option.bind_eq_some_iff.mp h
  cases h
  exact found

theorem Category.id_of_ofMembers? {members : List (String × Json)} {c : Category}
    (h : ofMembers? members = some c) :
    (Record.named members).required 0 "id" Json.text? = some c.id := by
  obtain ⟨id, found, h⟩ := Option.bind_eq_some_iff.mp h
  obtain ⟨name, -, h⟩ := Option.bind_eq_some_iff.mp h
  obtain ⟨slug, -, h⟩ := Option.bind_eq_some_iff.mp h
  obtain ⟨level, -, h⟩ := Option.bind_eq_some_iff.mp h
  cases h
  exact found

theorem Label.id_of_ofMembers? {members : List (String × Json)} {l : Label}
    (h : ofMembers? members = some l) :
    (Record.named members).required 0 "id" Json.text? = some l.id := by
  obtain ⟨id, found, h⟩ := Option.bind_eq_some_iff.mp h
  obtain ⟨name, -, h⟩ := Option.bind_eq_some_iff.mp h
  obtain ⟨slug, -, h⟩ := Option.bind_eq_some_iff.mp h
  cases h
  exact found

theorem Tag.id_of_ofMembers? {members : List (String × Json)} {t : Tag}
    (h : ofMembers? members = some t) :
    (Record.named members).required 0 "id" Json.text? = some t.id := by
  obtain ⟨id, found, h⟩ := Option.bind_eq_some_iff.mp h
  obtain ⟨name, -, h⟩ := Option.bind_eq_some_iff.mp h
  cases h
  exact found

/-- An entity has the identifier that its members hold. -/
theorem Entity.id_of_ofMembers? {kind : EntityKind} {members : List (String × Json)}
    {entity : Entity} (h : ofMembers? kind members = some entity) :
    (Record.named members).required 0 "id" Json.text? = some entity.id := by
  cases kind <;> obtain ⟨value, read, rfl⟩ := Option.map_eq_some_iff.mp h
  case product => exact Product.id_of_ofMembers? read
  case category => exact Category.id_of_ofMembers? read
  case manufacturer => exact Label.id_of_ofMembers? read
  case brand => exact Label.id_of_ofMembers? read
  case tag => exact Tag.id_of_ofMembers? read

/-- An identifier that was written over the members is the entity's. -/
theorem Entity.id_of_putMember {kind : EntityKind} {members : List (String × Json)} {id : String}
    {entity : Entity}
    (h : ofMembers? kind (Json.putMember members "id" (.text id)) = some entity) :
    entity.id = id := by
  have read := id_of_ofMembers? h
  rw [Record.required, Record.find?, Json.findMember?_putMember, if_pos rfl] at read
  exact (Option.some.inj read).symm

namespace Response

/-- The source of a hit, empty if there is none or it is no object. -/
def sourceOf (hit : Json) : List (String × Json) :=
  ((hit.get? "source").bind Json.object?).getD []

/-- The hit has the kind as its type and an identifier, and its source holds this entity of the kind
once the identifier stands in it. -/
structure DecodesTo (kind : EntityKind) (hit : Json) (entity : Entity) : Prop where
  id : (hit.get? "id").bind Json.term? = some entity.id
  type : hit.get? "type" = some (.text kind.name)
  source : Entity.ofMembers? kind (Json.putMember (sourceOf hit) "id" (.text entity.id)) =
    some entity

theorem kindOf_eq_some_iff {hit : Json} {kind : EntityKind} :
    EntityKind.ofName? (((hit.get? "type").bind Json.text?).getD "") = some kind ↔
      hit.get? "type" = some (.text kind.name) := by
  rw [EntityKind.ofName?_eq_some_iff]
  have named : "" ≠ kind.name := by cases kind <;> decide
  cases hit.get? "type" with
  | none => simpa using named
  | some value => cases value <;> simp [Json.text?, named]

theorem decodesTo_iff {kind : EntityKind} {hit : Json} {entity : Entity} :
    DecodesTo kind hit entity ↔ entity? hit = some entity ∧ entity.kind = kind := by
  constructor
  · intro h
    refine ⟨?_, Entity.kind_of_ofMembers? h.source⟩
    exact Option.bind_eq_some_iff.mpr ⟨entity.id, h.id,
      Option.bind_eq_some_iff.mpr ⟨kind, kindOf_eq_some_iff.mpr h.type, h.source⟩⟩
  · rintro ⟨h, rfl⟩
    obtain ⟨id, hid, h⟩ := Option.bind_eq_some_iff.mp h
    obtain ⟨kind, hkind, h⟩ := Option.bind_eq_some_iff.mp h
    obtain rfl := Entity.kind_of_ofMembers? h
    obtain rfl := Entity.id_of_putMember h
    exact ⟨hid, kindOf_eq_some_iff.mp hkind, h⟩

instance (kind : EntityKind) (hit : Json) : Decidable (∃ entity, DecodesTo kind hit entity) :=
  decidable_of_iff (∃ entity ∈ entity? hit, entity.kind = kind) (by simp [decodesTo_iff])

end Response

namespace SearchResult

def ofKind (result : SearchResult) : EntityKind → List Entity
  | .product => result.products.map .product
  | .category => result.categories.map .category
  | .manufacturer => result.manufacturers.map .manufacturer
  | .brand => result.brands.map .brand
  | .tag => result.tags.map .tag

theorem ofKind_addEntity (result : SearchResult) (entity : Entity) (kind : EntityKind) :
    (result.addEntity entity).ofKind kind =
      result.ofKind kind ++ if entity.kind = kind then [entity] else [] := by
  cases entity <;> cases kind <;> simp [addEntity, ofKind, Entity.kind]

theorem ofKind_foldl_addEntity (entities : List Entity) (result : SearchResult)
    (kind : EntityKind) :
    (entities.foldl addEntity result).ofKind kind =
      result.ofKind kind ++ entities.filter fun entity => entity.kind = kind := by
  induction entities generalizing result with
  | nil => simp
  | cons entity rest ih =>
    rw [List.foldl_cons, ih, ofKind_addEntity, List.append_assoc, List.filter_cons]
    by_cases own : entity.kind = kind <;> simp [own]

end SearchResult

/-! ## Facets that have a scope -/

namespace Response

/-- The facet's name with its result, where the scope of the primary type has one for the facet. -/
def summary? (query : Query) (typeScope : Json) (facet : Facet) : Option (String × FacetResult) :=
  (typeScope.get? facet.name).map fun scope =>
    (facet.name, (facetResult query facet scope).value)

theorem entries_foldlM_addResult (query : Query) (typeScope : Json) {facets : List Facet}
    (distinct : (facets.map Facet.name).Nodup) {results : FacetResults}
    (fresh : ∀ facet ∈ facets, facet.name ∉ results.entries.keys) :
    (facets.foldlM (addResult query typeScope) results).value.entries.items =
      results.entries.items ++ facets.filterMap (summary? query typeScope) := by
  induction facets generalizing results with
  | nil => simp
  | cons first rest ih =>
    obtain ⟨apart, distinct⟩ := List.nodup_cons.mp distinct
    have absent := fresh first List.mem_cons_self
    rw [List.foldlM_cons, Checked.value_bind, List.filterMap_cons]
    cases found : typeScope.get? first.name with
    | none =>
      have passed : addResult query typeScope results first = pure results := by
        rw [addResult, found]
      have missing : summary? query typeScope first = none := by
        rw [summary?, found, Option.map_none]
      rw [passed, missing]
      exact ih distinct fun facet later => fresh facet (.tail _ later)
    | some scope =>
      let counted := (facetResult query first scope).value
      have named : counted.name = first.name := facetResult_name query first scope
      have added : (addResult query typeScope results first).value = results.add counted := by
        rw [addResult, found]
        rfl
      have there : summary? query typeScope first = some (first.name, counted) := by
        rw [summary?, found, Option.map_some]
      -- No result so far has the facet's name, so that this one goes to the end.
      have items : (results.add counted).entries.items =
          results.entries.items ++ [(first.name, counted)] := by
        rw [← named]
        exact upsert_of_not_mem Prod.fst _ _ (by rwa [named])
      rw [added, there, ih distinct, items, List.append_assoc]
      · rfl
      · intro facet later
        rw [FacetResults.keys_add (by rwa [named]), named, List.mem_append, List.mem_singleton]
        rintro (before | same)
        · exact fresh facet (.tail _ later) before
        · exact apart (same ▸ List.mem_map_of_mem later)

theorem applied_facetResult (query : Query) (facet : Facet) (scope : Json) :
    (facetResult query facet scope).value.applied = appliedTo query facet := by
  have applied : (counted query facet scope).applied = appliedTo query facet := by
    rw [counted_eq_addCounters, FacetResult.applied_addCounters]
    rfl
  rw [facetResult_eq_counted]
  split
  · rw [FacetResult.value_pruneLevels_eq, applied]
  · exact applied

/-- What a result says about a facet under the facet's name: the values that the query selects, and
counters whose keys are terms that buckets of the facet's scope have as keys and that the subgroup,
if there is one, names. Where no levels are pruned, each of these keys has a counter. -/
structure Summarizes (query : Query) (typeScope : Json) (facet : Facet)
    (entry : String × FacetResult) : Prop where
  name : entry.1 = facet.name
  named : entry.2.name = facet.name
  applied : entry.2.applied = ((query.filters.get? facet.name).map Filter.values).getD []
  kept : ∀ counter ∈ entry.2.counters, facet.subgroup = [] ∨ counter.key ∈ facet.subgroup
  shown : ∀ counter ∈ entry.2.counters, ∃ scope ∈ typeScope.get? facet.name,
    ∃ bucket ∈ buckets scope facet.name, (bucket.get? "key").bind Json.term? = some counter.key
  complete : facet.application.levels = false → ∀ scope ∈ typeScope.get? facet.name,
    ∀ bucket ∈ buckets scope facet.name, ∀ key, (bucket.get? "key").bind Json.term? = some key →
      (facet.subgroup = [] ∨ key ∈ facet.subgroup) →
        ∃ counter ∈ entry.2.counters, counter.key = key

theorem summarizes_of_summary? {query : Query} {typeScope : Json} {facet : Facet}
    {entry : String × FacetResult} (h : summary? query typeScope facet = some entry) :
    Summarizes query typeScope facet entry := by
  obtain ⟨scope, found, rfl⟩ := Option.map_eq_some_iff.mp h
  obtain ⟨-, among, all⟩ := keys_facetResult query facet scope
  have keys : ∀ counter ∈ (facetResult query facet scope).value.counters,
      counter.key ∈ bucketKeys scope facet.name ∧ facet.keeps counter.key = true :=
    fun counter hcounter => among counter.key (List.mem_map_of_mem hcounter)
  refine ⟨rfl, facetResult_name query facet scope, applied_facetResult query facet scope, ?_, ?_, ?_⟩
  · intro counter hcounter
    exact Facet.keeps_iff.mp (keys counter hcounter).2
  · intro counter hcounter
    obtain ⟨bucket, hbucket, shows⟩ := List.mem_filterMap.mp (keys counter hcounter).1
    exact ⟨scope, found, bucket, hbucket, shows⟩
  · intro flat other hother bucket hbucket key shows kept
    obtain rfl : scope = other := Option.some.inj (found.symm.trans hother)
    have shown : key ∈ bucketKeys scope facet.name := List.mem_filterMap.mpr ⟨bucket, hbucket, shows⟩
    exact List.mem_map.mp (all flat key shown (Facet.keeps_iff.mpr kept))

/-- The facets with a scope are summarized, in the order of the query. -/
theorem forall₂_summarizes (query : Query) (typeScope : Json) :
    List.Forall₂ (Summarizes query typeScope)
      (query.facets.items.filter fun facet => (typeScope.get? facet.name).isSome)
      (facetResults query typeScope).value.entries.items := by
  let start : FacetResults := { totalElements := documentCount typeScope }
  have fresh : ∀ facet ∈ query.facets.items, facet.name ∉ start.entries.keys :=
    fun _ _ => List.not_mem_nil
  have entries : (facetResults query typeScope).value.entries.items =
      [] ++ query.facets.items.filterMap (summary? query typeScope) :=
    entries_foldlM_addResult query typeScope query.facets.distinct fresh
  rw [entries, List.nil_append]
  have reads : ∀ facet, (typeScope.get? facet.name).isSome = true ↔
      (summary? query typeScope facet).isSome = true := by
    intro facet
    rw [summary?, Option.isSome_map]
  simpa using forall₂_filterMap reads (fun _ _ => summarizes_of_summary?) query.facets.items

end Response

/-! ## Any response -/

namespace Response

/-- What a dotted path leads to in a response. -/
def at? (response : Json) (path : String) : Option Json :=
  (Text.pieces '.' path).foldl (fun reached name => reached.bind fun outer => outer.get? name)
    (some response)

/-- The first of the parts that have to be there whose path leads nowhere. -/
def firstAbsent? (response : Json) : Option ResponsePart :=
  [ResponsePart.allScope, .typeScope, .commonScope].find? fun part =>
    (at? response part.path).isNone

/-- Every part is looked for inside the one before it. -/
theorem at?_path (response : Json) :
    at? response ResponsePart.allScope.path =
        (response.get? "aggregations").bind (fun outer => outer.get? Aggregation.allScope) ∧
      at? response ResponsePart.typeScope.path =
        (at? response ResponsePart.allScope.path).bind
          (fun outer => outer.get? Aggregation.typeScope) ∧
      at? response ResponsePart.commonScope.path =
        (at? response ResponsePart.typeScope.path).bind
          (fun outer => outer.get? Aggregation.commonScope) := by
  have all : Text.pieces '.' ResponsePart.allScope.path = ["aggregations", "all"] := by decide
  have type : Text.pieces '.' ResponsePart.typeScope.path =
      ["aggregations", "all", "all_products"] := by decide
  have common : Text.pieces '.' ResponsePart.commonScope.path =
      ["aggregations", "all", "all_products", "common"] := by decide
  unfold at?
  rw [all, type, common]
  exact ⟨rfl, rfl, rfl⟩

/-- The entities of a kind are those of the hits that decode to one, in the order of the hits. -/
theorem forall₂_decodesTo (response : Json) (kind : EntityKind) :
    List.Forall₂ (DecodesTo kind)
      ((hits response).filter fun hit => ∃ entity, DecodesTo kind hit entity)
      ((entities response).filter fun entity => entity.kind = kind) := by
  have ofKind : (entities response).filter (fun entity => entity.kind = kind) =
      (hits response).filterMap fun hit => (entity? hit).filter fun entity => entity.kind = kind :=
    List.filter_filterMap
  have yields : ∀ hit entity,
      (entity? hit).filter (fun entity => entity.kind = kind) = some entity ↔
        DecodesTo kind hit entity := by
    intro hit entity
    rw [decodesTo_iff, Option.filter_eq_some_iff, decide_eq_true_eq]
  rw [ofKind]
  refine forall₂_filterMap ?_ (fun hit entity => (yields hit entity).mp) _
  intro hit
  simp only [Option.isSome_iff_exists, yields]

end Response

namespace SearchResult

open Response (firstAbsent? at? hits need_of_none need_eq_ok_iff scopes_eq_ok_iff)

/-- The scopes of a response are refused for the first part that is absent, or are all there. -/
theorem scopes_cases (response : Json) :
    (∃ part, firstAbsent? response = some part ∧
      Response.scopes response = .error (.malformedResponse part)) ∨
    (firstAbsent? response = none ∧ ∃ scopes, Response.scopes response = .ok scopes ∧
      at? response ResponsePart.typeScope.path = some scopes.type) := by
  obtain ⟨allPath, typePath, commonPath⟩ := Response.at?_path response
  cases hall : at? response ResponsePart.allScope.path with
  | none =>
    have refused := need_of_none (allPath.symm.trans hall) .allScope
    refine .inl ⟨.allScope, by simp [firstAbsent?, hall], ?_⟩
    rw [Response.scopes, refused]
    rfl
  | some all =>
    have found : Response.need (response.get? "aggregations") Aggregation.allScope .allScope =
        .ok all := need_eq_ok_iff.mpr (allPath.symm.trans hall)
    rw [hall] at typePath
    cases htype : at? response ResponsePart.typeScope.path with
    | none =>
      have refused := need_of_none (typePath.symm.trans htype) .typeScope
      refine .inl ⟨.typeScope, by simp [firstAbsent?, hall, htype], ?_⟩
      simp only [Response.scopes, found, refused, bind, Except.bind]
    | some type =>
      have foundType : Response.need (some all) Aggregation.typeScope .typeScope = .ok type :=
        need_eq_ok_iff.mpr (typePath.symm.trans htype)
      rw [htype] at commonPath
      cases hcommon : at? response ResponsePart.commonScope.path with
      | none =>
        have refused := need_of_none (commonPath.symm.trans hcommon) .commonScope
        refine .inl ⟨.commonScope, by simp [firstAbsent?, hall, htype, hcommon], ?_⟩
        simp only [Response.scopes, found, foundType, refused, bind, Except.bind]
      | some common =>
        refine .inr ⟨by simp [firstAbsent?, hall, htype, hcommon], { all, type, common }, ?_, rfl⟩
        exact scopes_eq_ok_iff.mpr
          ⟨allPath.symm.trans hall, typePath.symm.trans htype, commonPath.symm.trans hcommon⟩

/-- Whatever the response is, it is refused exactly if a part that has to be there is absent, and for
the first such part. Otherwise the result has the facets that the response has a scope for, in the
order of the query, and of every kind the entities that hits decode to, in the order of the hits. It is
returned exactly if no facet runs out of levels. -/
theorem ofResponse_outcome (query : Query) (response : Json) :
    (∀ e, ofResponse query response = pure (.error e) ↔
      ∃ part, firstAbsent? response = some part ∧ e = .malformedResponse part) ∧
    (firstAbsent? response = none → ∃ result typeScope,
      (ofResponse query response).value = .ok result ∧
      (ofResponse query response = pure (.ok result) ↔ ¬ query.RunsOut response) ∧
      at? response ResponsePart.typeScope.path = some typeScope ∧
      List.Forall₂ (Response.Summarizes query typeScope)
        (query.facets.items.filter fun facet => (typeScope.get? facet.name).isSome)
        result.facets.entries.items ∧
      ∀ kind, List.Forall₂ (Response.DecodesTo kind)
        ((hits response).filter fun hit => ∃ entity, Response.DecodesTo kind hit entity)
        (result.ofKind kind)) := by
  rcases scopes_cases response with ⟨part, absent, refused⟩ | ⟨present, scopes, found, type⟩
  · have outcome : ofResponse query response = pure (.error (.malformedResponse part)) := by
      rw [ofResponse, refused]
    rw [outcome, absent]
    refine ⟨fun e => ?_, fun present => absurd present (Option.some_ne_none part)⟩
    simp [Checked.eq_pure_iff, eq_comm]
  · let facets := (Response.facetResults query scopes.type).value
    let result := (Response.entities response).foldl addEntity
      (Response.totals response scopes facets)
    have value : (ofResponse query response).value = .ok result :=
      value_ofResponse_eq_ok_iff.mpr ⟨scopes, found, rfl⟩
    rw [present]
    refine ⟨fun e => by simp [Checked.eq_pure_iff, value], fun _ =>
      ⟨result, scopes.type, value, ?_, type, ?_, fun kind => ?_⟩⟩
    · rw [Checked.eq_pure_iff, and_iff_left value, ← overflows_ofResponse, Bool.not_eq_true]
    · rw [facets_foldl_addEntity]
      exact Response.forall₂_summarizes query scopes.type
    · have empty : (Response.totals response scopes facets).ofKind kind = [] := by
        cases kind <;> rfl
      rw [ofKind_foldl_addEntity, empty, List.nil_append]
      exact Response.forall₂_decodesTo response kind

/-- A query for the colours and the sizes of what a store has. -/
def colorsAndSizesQuery : Query :=
  (Query.matchAll.facetBy
    { name := "color", field := "color", application := .onlyAtLeastOne }).facetBy
    { name := "size", field := "size", application := .onlyAtLeastOne }

/-- A response with a scope for the colours alone, of whose four hits two are entities. -/
def unevenResponse : Json :=
  .object
    [("aggregations", .object [("all", .object [("doc_count", .text "many"),
      ("all_products", .object [("common", .null), ("color", .object [("color", .object
        [("buckets", .array [.null, .object [("doc_count", .ofNat 3)],
          .object [("key", .text "red")]])])])])])]),
     ("results", .array
      [.null,
       .object [("id", .bool true), ("type", .text "product"), ("source", .array [])],
       .object [("id", .text "c1"), ("type", .text "category"),
         ("source", .object [("level", .text "deep")])],
       .object [("id", .text "t1"), ("type", .text "tag"),
         ("source", .object [("id", .text "other")])]])]

theorem ofResponse_outcome_uneven :
    (∃ result, ofResponse colorsAndSizesQuery unevenResponse = pure (.ok result) ∧
      result.facets.entries.items.length = 1 ∧ (result.ofKind .product).length = 1 ∧
      result.ofKind .category = [] ∧ (result.ofKind .tag).length = 1) ∧
    ofResponse colorsAndSizesQuery (.object [("aggregations", .object [("all", .null)])]) =
      pure (.error (.malformedResponse .typeScope)) := by
  constructor
  · obtain ⟨-, outcome⟩ := ofResponse_outcome colorsAndSizesQuery unevenResponse
    obtain ⟨result, typeScope, -, returned, found, facets, entities⟩ :=
      outcome (by decide +kernel)
    cases found
    refine ⟨result, returned.mpr (by decide +kernel), ?_, ?_, ?_, ?_⟩
    · exact facets.length_eq.symm.trans (by decide +kernel)
    · exact (entities .product).length_eq.symm.trans (by decide +kernel)
    · exact List.length_eq_zero_iff.mp ((entities .category).length_eq.symm.trans (by decide +kernel))
    · exact (entities .tag).length_eq.symm.trans (by decide +kernel)
  · exact ((ofResponse_outcome _ _).1 _).mpr ⟨.typeScope, by decide +kernel, rfl⟩

end SearchResult

end FacetSearch
