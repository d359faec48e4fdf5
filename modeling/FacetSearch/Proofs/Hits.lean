import FacetSearch.Proofs.Pages
/-!
The hits of a search as entities.

A result holds its entities kind by kind, and is made by adding them one after the other to what is
known without hits. Which entities those are depends on what the query finds and on its window, and
not on its facets.

What is proved:
  1. `SearchResult.entities_foldl_addEntity`: entities that are added are there, beside those from
     before.
  2. `SearchResult.SameHits.foldl_addEntity`: results that show the same hits still do so when the
     same entities are added to both.
  3. `Engine.search_eq_foldl`: a query that compiles is answered with the overview of the store, to
     which the entities of the window are added.
-/

namespace FacetSearch

namespace SearchResult

/-! ## Entities of a result -/

/-- The entities of all kinds, kind by kind. -/
def entities (result : SearchResult) : List Entity :=
  result.products.map .product ++ result.categories.map .category
    ++ result.manufacturers.map .manufacturer ++ result.brands.map .brand
    ++ result.tags.map .tag

/-- An entity goes to the end of its kind, which is somewhere in between. -/
theorem entities_addEntity (result : SearchResult) (entity : Entity) :
    ∃ before after, result.entities = before ++ after ∧
      (result.addEntity entity).entities = before ++ entity :: after := by
  let products := result.products.map Entity.product
  let categories := result.categories.map Entity.category
  let manufacturers := result.manufacturers.map Entity.manufacturer
  let brands := result.brands.map Entity.brand
  let tags := result.tags.map Entity.tag
  cases entity with
  | product p =>
    refine ⟨products, categories ++ manufacturers ++ brands ++ tags, ?_, ?_⟩ <;>
      simp [entities, addEntity, products, categories, manufacturers, brands, tags]
  | category c =>
    refine ⟨products ++ categories, manufacturers ++ brands ++ tags, ?_, ?_⟩ <;>
      simp [entities, addEntity, products, categories, manufacturers, brands, tags]
  | manufacturer l =>
    refine ⟨products ++ categories ++ manufacturers, brands ++ tags, ?_, ?_⟩ <;>
      simp [entities, addEntity, products, categories, manufacturers, brands, tags]
  | brand l =>
    refine ⟨products ++ categories ++ manufacturers ++ brands, tags, ?_, ?_⟩ <;>
      simp [entities, addEntity, products, categories, manufacturers, brands, tags]
  | tag t =>
    refine ⟨products ++ categories ++ manufacturers ++ brands ++ tags, [], ?_, ?_⟩ <;>
      simp [entities, addEntity, products, categories, manufacturers, brands, tags]

theorem entities_foldl_addEntity (entities : List Entity) (result : SearchResult) :
    (entities.foldl addEntity result).entities.Perm (entities ++ result.entities) := by
  induction entities generalizing result with
  | nil => exact .refl _
  | cons entity rest ih =>
    obtain ⟨before, after, old, new⟩ := entities_addEntity result entity
    have added : (result.addEntity entity).entities.Perm (entity :: result.entities) := by
      rw [old, new]
      exact List.perm_middle
    apply (ih (result.addEntity entity)).trans
    exact (added.append_left rest).trans List.perm_middle

/-- Entities that are added where there were none are all that is there. -/
theorem entities_foldl_of_nil (entities : List Entity) {result : SearchResult}
    (none : result.entities = []) : (entities.foldl addEntity result).entities.Perm entities := by
  have added := entities_foldl_addEntity entities result
  rwa [none, List.append_nil] at added

theorem facets_foldl_addEntity (entities : List Entity) (result : SearchResult) :
    (entities.foldl addEntity result).facets = result.facets := by
  have known := congrArg facets (withoutHits_foldl_addEntity entities result)
  exact known

theorem totalHits_foldl_addEntity (entities : List Entity) (result : SearchResult) :
    (entities.foldl addEntity result).totalHits = result.totalHits := by
  have known := congrArg totalHits (withoutHits_foldl_addEntity entities result)
  exact known

/-! ## Results with the same hits -/

/-- The results show the same entities in the same order, the same numbers of documents and of hits,
and the same prices. -/
structure SameHits (result other : SearchResult) : Prop where
  totalElements : result.totalElements = other.totalElements
  totalHits : result.totalHits = other.totalHits
  minPrice : result.minPrice = other.minPrice
  maxPrice : result.maxPrice = other.maxPrice
  products : result.products = other.products
  categories : result.categories = other.categories
  manufacturers : result.manufacturers = other.manufacturers
  brands : result.brands = other.brands
  tags : result.tags = other.tags

namespace SameHits

variable {result other : SearchResult}

theorem addEntity (same : result.SameHits other) (entity : Entity) :
    (result.addEntity entity).SameHits (other.addEntity entity) := by
  cases entity with
  | product p => exact { same with products := congrArg (· ++ [p]) same.products }
  | category c => exact { same with categories := congrArg (· ++ [c]) same.categories }
  | manufacturer l => exact { same with manufacturers := congrArg (· ++ [l]) same.manufacturers }
  | brand l => exact { same with brands := congrArg (· ++ [l]) same.brands }
  | tag t => exact { same with tags := congrArg (· ++ [t]) same.tags }

end SameHits

end SearchResult

/-! ## Hits of a search -/

/-- The entity that is read off a hit for the document. -/
def Document.entity? (document : Document) : Option Entity := Response.entity? document.toJson

/-- The entities of the documents in a window of what a request finds. -/
def Store.window (store : Store) (request : Request) (offset size : Nat) : List Entity :=
  (((store.found request).drop offset).take size).filterMap Document.entity?

theorem Response.entities_search (store : Store) (request : Request) (offset size : Nat) :
    entities (store.search request offset size) = store.window request offset size := by
  show (hits (store.search request offset size)).filterMap entity? = _
  rw [hits_search, ← List.map_drop, ← List.map_take, List.filterMap_map]
  rfl

theorem Engine.search_eq_foldl (engine : Engine) (store : Store) (timing : Timing) {query : Query}
    {request : Request} (h : Request.ofQuery engine.settings query = .ok request) :
    ∃ scopes, query.HasScopes engine.settings scopes ∧
      (engine.search (Backend.ofStore store) timing query).value.1 =
        .ok ((store.window request query.offset query.size).foldl SearchResult.addEntity
          (store.overview engine.settings query request.query scopes)) := by
  obtain ⟨-, -, -, -, scopes, hscopes, htree⟩ := Request.ofQuery_eq_ok_iff.mp h
  refine ⟨scopes, hscopes, ?_⟩
  rw [value_search_ofStore engine store timing h,
    ofResponse_search store query.offset query.size hscopes htree, Response.entities_search]

end FacetSearch
