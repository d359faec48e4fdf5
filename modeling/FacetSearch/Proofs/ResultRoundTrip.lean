import FacetSearch.Proofs.EntityRoundTrip
import FacetSearch.Proofs.Hits
import FacetSearch.Proofs.Levels
/-!
Results that are written and read back.

Facets are written without loss whatever they are. Of the entities it is known that they were read
themselves, from the hits of a response.

What is proved:
  1. `Counter.readsBack`, `FacetResult.readsBack`, `FacetResults.readsBack`: facets and their
     counters are read as they were written.
  2. `SearchResult.ofJson?_toJson`: so is a result whose entities can be written.
  3. `SearchResult.isWritable_of_ofResponse`: the entities of a response can be.
  4. `SearchResult.reread_of_response`: so the result of every response is read as it was written,
     and so is every single entity.
-/

namespace FacetSearch

/-! ## Counters and facets -/

theorem readsBack_int64 : ReadsBack (fun i => Json.ofInt i.toInt) Json.int64? := by
  intro i
  have bounds : Int64.minValue.toInt ≤ i.toInt ∧ i.toInt ≤ Int64.maxValue.toInt :=
    ⟨i.minValue_le_toInt, i.toInt_le⟩
  show Json.int64? (.number (.integer i.toInt)) = some i
  rw [Json.int64?, dif_pos bounds, Int64.ofIntLE_toInt]

theorem Counter.readsBack : ReadsBack toJson ofJson? := by
  intro counter
  obtain ⟨key, values, level, count, isFilterValue⟩ := counter
  apply Option.bind_eq_some_iff.mpr ⟨_, rfl, ?_⟩
  apply Option.bind_eq_some_iff.mpr ⟨key, rfl, ?_⟩
  apply Option.bind_eq_some_iff.mpr ⟨values, readsBack_text.list values, ?_⟩
  apply Option.bind_eq_some_iff.mpr ⟨level, ?_, ?_⟩
  · cases level with
    | none => rfl
    | some level => exact nullable?_uint32 level
  · apply Option.bind_eq_some_iff.mpr ⟨count, readsBack_natural count, ?_⟩
    rfl

theorem FacetResult.readsBack : ReadsBack toJson ofJson? := by
  intro result
  obtain ⟨name, application, totalDocuments, applied, counters⟩ := result
  apply Option.bind_eq_some_iff.mpr ⟨_, rfl, ?_⟩
  apply Option.bind_eq_some_iff.mpr ⟨name, rfl, ?_⟩
  apply Option.bind_eq_some_iff.mpr ⟨application, ApplicationType.readsBack application, ?_⟩
  apply Option.bind_eq_some_iff.mpr ⟨totalDocuments, readsBack_natural totalDocuments, ?_⟩
  apply Option.bind_eq_some_iff.mpr ⟨applied, readsBack_text.list applied, ?_⟩
  apply Option.bind_eq_some_iff.mpr ⟨counters, Counter.readsBack.list counters, ?_⟩
  rfl

theorem FacetResults.readsBack : ReadsBack toJson ofJson? := by
  intro results
  obtain ⟨totalElements, entries⟩ := results
  have members : (entries.items.map fun entry => (entry.1, entry.2.toJson)).mapM entryOfJson? =
      some entries.items := by
    apply mapM_written
    rintro ⟨name, result⟩ -
    rw [entryOfJson?, FacetResult.readsBack, Option.map_some]
  unfold ofJson?
  apply Option.bind_eq_some_iff.mpr ⟨_, rfl, ?_⟩
  apply Option.bind_eq_some_iff.mpr ⟨totalElements, readsBack_natural totalElements, ?_⟩
  apply Option.bind_eq_some_iff.mpr ⟨_, rfl, ?_⟩
  apply Option.bind_eq_some_iff.mpr ⟨entries.items, members, ?_⟩
  rw [KeyedList.ofList_items]
  rfl

/-! ## Results -/

namespace SearchResult

def IsWritable (result : SearchResult) : Prop := ∀ entity ∈ result.entities, entity.IsWritable

theorem ofJson?_toJson {result : SearchResult} (h : result.IsWritable) :
    ofJson? result.toJson = some result := by
  obtain ⟨totalElements, totalItems, totalHits, minPrice, maxPrice, products, categories,
    manufacturers, brands, tags, facets⟩ := result
  have each : (∀ p ∈ products, (Entity.product p).IsWritable) ∧
      (∀ c ∈ categories, (Entity.category c).IsWritable) ∧
      (∀ l ∈ manufacturers, (Entity.manufacturer l).IsWritable) ∧
      (∀ l ∈ brands, (Entity.brand l).IsWritable) ∧
      ∀ t ∈ tags, (Entity.tag t).IsWritable := by
    simpa only [IsWritable, entities, List.forall_mem_append, List.forall_mem_map, and_assoc]
      using h
  obtain ⟨hproducts, hcategories, hmanufacturers, hbrands, htags⟩ := each
  unfold ofJson?
  apply Option.bind_eq_some_iff.mpr ⟨_, rfl, ?_⟩
  apply Option.bind_eq_some_iff.mpr ⟨totalElements, readsBack_natural totalElements, ?_⟩
  apply Option.bind_eq_some_iff.mpr ⟨totalItems, readsBack_natural totalItems, ?_⟩
  apply Option.bind_eq_some_iff.mpr ⟨totalHits, readsBack_natural totalHits, ?_⟩
  apply Option.bind_eq_some_iff.mpr ⟨minPrice, readsBack_int64 minPrice, ?_⟩
  apply Option.bind_eq_some_iff.mpr ⟨maxPrice, readsBack_int64 maxPrice, ?_⟩
  apply Option.bind_eq_some_iff.mpr ⟨products, Json.list?_written fun p hp =>
    Product.ofMembers?_members (hproducts p hp), ?_⟩
  apply Option.bind_eq_some_iff.mpr ⟨categories, Json.list?_written fun c hc =>
    Category.ofMembers?_members (hcategories c hc), ?_⟩
  apply Option.bind_eq_some_iff.mpr ⟨manufacturers, Json.list?_written fun l hl =>
    Label.ofMembers?_members (hmanufacturers l hl), ?_⟩
  apply Option.bind_eq_some_iff.mpr ⟨brands, Json.list?_written fun l hl =>
    Label.ofMembers?_members (hbrands l hl), ?_⟩
  apply Option.bind_eq_some_iff.mpr ⟨tags, Json.list?_written fun t ht =>
    Tag.ofMembers?_members (htags t ht), ?_⟩
  apply Option.bind_eq_some_iff.mpr ⟨facets, FacetResults.readsBack facets, ?_⟩
  rfl

end SearchResult

/-! ## Results of responses -/

theorem Response.isWritable_of_entity? {hit : Json} (fit : hit.fits = true) {entity : Entity}
    (h : entity? hit = some entity) : entity.IsWritable := by
  obtain ⟨id, -, h⟩ := Option.bind_eq_some_iff.mp h
  obtain ⟨kind, -, h⟩ := Option.bind_eq_some_iff.mp h
  have source : Json.membersFit (((hit.get? "source").bind Json.object?).getD []) = true := by
    cases found : hit.get? "source" with
    | none => rfl
    | some value =>
      cases value with
      | object members => exact Json.fits_of_get? fit found
      | _ => rfl
  apply Entity.isWritable_of_ofMembers? _ h
  apply Json.membersFit_iff.mpr
  intro entry hentry
  rcases mem_of_mem_upsert hentry with rfl | there
  · rfl
  · exact Json.membersFit_iff.mp source entry there

theorem Response.isWritable_of_mem_entities {response : Json} (fit : response.fits = true) :
    ∀ entity ∈ entities response, entity.IsWritable := by
  intro entity hentity
  obtain ⟨hit, hhit, read⟩ := List.mem_filterMap.mp hentity
  cases found : response.get? "results" with
  | none => simp [found] at hhit
  | some value =>
    cases value with
    | array hits =>
      have hhit : hit ∈ hits := by simpa [found, Json.array?] using hhit
      have each : Json.itemsFit hits = true := Json.fits_of_get? fit found
      exact isWritable_of_entity? (Json.itemsFit_iff.mp each hit hhit) read
    | _ => simp [found, Json.array?] at hhit

namespace SearchResult

theorem isWritable_of_ofResponse {query : Query} {response : Json} {result : SearchResult}
    (fit : response.fits = true) (h : (ofResponse query response).value = .ok result) :
    result.IsWritable := by
  obtain ⟨scopes, -, rfl⟩ := value_ofResponse_eq_ok_iff.mp h
  intro entity hentity
  apply Response.isWritable_of_mem_entities fit entity
  exact (entities_foldl_of_nil (Response.entities response) rfl).mem_iff.mp hentity

/-- The result of every response that a document can hold is read as it was written: with its
entities, each with the members that its kind knows and its attributes in their order, and with its
facets and their counters. So is every single entity that an object was read as. -/
theorem reread_of_response :
    (∀ (query : Query) (response : Json) (result : SearchResult), response.fits = true →
      (ofResponse query response).value = .ok result → ofJson? result.toJson = some result) ∧
    ∀ (kind : EntityKind) (members : List (String × Json)) (entity : Entity),
      Json.membersFit members = true → Entity.ofMembers? kind members = some entity →
        Entity.ofJson? kind entity.toJson = some entity := by
  refine ⟨fun query response result fit mapped => ?_, fun kind members entity fit read => ?_⟩
  · exact ofJson?_toJson (isWritable_of_ofResponse fit mapped)
  · rw [← Entity.kind_of_ofMembers? read]
    exact Entity.ofJson?_toJson (Entity.isWritable_of_ofMembers? fit read)

/-- The members of a phone: a price that is an integer, a price that is null, and attributes. -/
def phoneMembers : List (String × Json) :=
  [("color", .text "red"), ("id", .text "p0"), ("price", .ofNat 499), ("real_price", .null),
   ("memory", .object [("id", .ofNat 64)])]

/-- A response with the phone, and with a category that is counted. -/
def phoneResponse : Json :=
  .object
    [("total_hits", .ofNat 1),
     ("results", .array [.object
       [("id", .text "p1"), ("type", .text "product"), ("source", .object phoneMembers)]]),
     ("aggregations", .object [(Aggregation.allScope, .object [(Aggregation.typeScope, .object
       [("category", .object [("doc_count", .ofNat 1),
          ("category", Aggregation.bucketList [Aggregation.keyBucket ("phones~~1", 1)])]),
        (Aggregation.commonScope, .empty)])])])]

theorem reread_of_response_phone :
    phoneResponse.fits = true ∧
      (∃ result, (ofResponse levelsQuery phoneResponse).value = .ok result ∧
        ofJson? result.toJson = some result ∧
        result.products.map (fun p => p.attributes.map Prod.fst) = [["color", "memory"]] ∧
        result.facets.toList.map (fun facet => facet.counters.map Counter.values) =
          [[["phones", "1"]]]) ∧
      Json.membersFit phoneMembers = true ∧
      ∃ entity, Entity.ofMembers? .product phoneMembers = some entity ∧
        Entity.ofJson? .product entity.toJson = some entity := by
  obtain ⟨results, entities⟩ := reread_of_response
  have fit : phoneResponse.fits = true := by decide
  obtain ⟨result, mapped⟩ : ∃ result,
      (ofResponse levelsQuery phoneResponse).value = .ok result := ⟨_, rfl⟩
  have again := results levelsQuery phoneResponse result fit mapped
  have memberFit : Json.membersFit phoneMembers = true := by decide
  obtain ⟨entity, read⟩ : ∃ entity, Entity.ofMembers? .product phoneMembers = some entity :=
    ⟨_, rfl⟩
  refine ⟨fit, ⟨result, mapped, again, ?_⟩, memberFit, entity, read,
    entities .product phoneMembers entity memberFit read⟩
  cases mapped
  decide +kernel

end SearchResult

end FacetSearch
