import FacetSearch.Proofs.Scopes
/-!
The pages of a query.

A page is a window whose offset is held within 64 bits. Where that cuts the offset short there are no
documents left, because a store has fewer than `2 ^ 32`; so pages lie as in exact arithmetic.

What is proved:
  1. `flatMap_pages`: the windows of one size, one after the other, are a list cut off at their end.
  2. `Store.respond_paginate`: a query that compiles is answered for every window, and each answer
     shows its part of one list of hits (`Response.hits_search`).
  3. `Store.pages_of_respond`: every page shows its part of the hits, with the same total, and pages
     that reach far enough show every hit once and in order.
-/

namespace FacetSearch

/-! ## Windows of a list -/

theorem drop_min {α : Type} {items : List α} {bound : Nat} (few : items.length ≤ bound)
    (offset : Nat) : items.drop (min offset bound) = items.drop offset := by
  rcases Nat.le_total offset bound with within | beyond
  · rw [Nat.min_eq_left within]
  · rw [Nat.min_eq_right beyond, List.drop_eq_nil_of_le few,
      List.drop_eq_nil_of_le (Nat.le_trans few beyond)]

theorem flatMap_pages {α : Type} (items : List α) (size count : Nat) :
    ((List.range' 1 count).flatMap fun number => (items.drop ((number - 1) * size)).take size) =
      items.take (count * size) := by
  -- The last page takes up where all before it together end.
  induction count with
  | zero => simp
  | succ count ih =>
    rw [List.range'_1_concat, List.flatMap_append, List.flatMap_singleton, ih, Nat.succ_mul,
      List.take_add]
    simp only [Nat.add_sub_cancel_left]

/-! ## Hits of a response -/

def Response.hits (response : Json) : List Json :=
  ((response.get? "results").bind Json.array?).getD []

namespace Store

/-- The response of a store to a query, for the query's window. -/
def respond (store : Store) (settings : Settings) (query : Query) : Except SearchError Json := do
  let request ← Request.ofQuery settings query
  Backend.ofStore store request query.offset query.size

/-- What a request finds, in the order of the hits. -/
def found (store : Store) (request : Request) : List Document :=
  sorted (store.matching request.query.clause) request.sort

theorem sorted_perm (documents : List Document) (sort : SortBy) :
    (sorted documents sort).Perm documents := by
  cases sort with
  | score => exact .refl documents
  | field name order => exact stableSort_perm _ documents

theorem length_found (store : Store) (request : Request) :
    (store.found request).length = (store.matching request.query.clause).length :=
  (sorted_perm _ request.sort).length_eq

theorem length_found_le (store : Store) (request : Request) :
    (store.found request).length ≤ store.size := by
  rw [length_found]
  exact List.length_filter_le _ _

end Store

theorem Response.hits_search (store : Store) (request : Request) (offset size : Nat) :
    hits (store.search request offset size) =
      (((store.found request).map Document.toJson).drop offset).take size := by
  rw [← List.map_drop, ← List.map_take]
  rfl

namespace Store

variable {settings : Settings} {query : Query} {request : Request}

/-- The window does not matter to compiling, and the rest of the request does not change with it. -/
theorem respond_paginate (store : Store) (h : Request.ofQuery settings query = .ok request)
    (offset size : Nat) :
    store.respond settings (query.paginate offset size) =
      .ok (store.search request offset size) := by
  obtain ⟨hfound, hsort, -, -, facets, hfacets, htree⟩ := Request.ofQuery_eq_ok_iff.mp h
  have compiled : Request.ofQuery settings (query.paginate offset size) =
      .ok { request with offset, size } :=
    Request.ofQuery_eq_ok_iff.mpr ⟨hfound, hsort, rfl, rfl, facets, hfacets, htree⟩
  exact bind_eq_ok_iff.mpr ⟨_, compiled, rfl⟩

/-- Every page of a query shows the part of all hits that its number and its size say, and the number
of all hits. Pages from the first on that have room for all hits show each of them once, in order. -/
theorem pages_of_respond (store : Store) (h : Request.ofQuery settings query = .ok request)
    (few : store.size < UInt32.size) (size : Nat) :
    ∃ whole, store.respond settings (query.paginate 0 store.size) = .ok whole ∧
      (Response.hits whole).length = Response.totalHits whole ∧
      (∀ number, ∃ page, store.respond settings (query.page number size) = .ok page ∧
        Response.hits page = ((Response.hits whole).drop ((number - 1) * size)).take size ∧
        Response.totalHits page = Response.totalHits whole) ∧
      ∀ count, Response.totalHits whole ≤ count * size → ∃ pages,
        ((List.range' 1 count).mapM fun number =>
          store.respond settings (query.page number size)) = .ok pages ∧
        pages.flatMap Response.hits = Response.hits whole := by
  let all := (store.found request).map Document.toJson
  have fits : all.length ≤ store.size := by
    rw [List.length_map]
    exact length_found_le store request
  have bounded : all.length ≤ Query.maxOffset := by
    have room : UInt32.size ≤ Query.maxOffset := by decide
    omega
  have shown : Response.hits (store.search request 0 store.size) = all := by
    rw [Response.hits_search, List.drop_zero, List.take_of_length_le fits]
  have total : ∀ offset, Response.totalHits (store.search request offset size) = all.length := by
    intro offset
    rw [Response.totalHits_search, List.length_map, length_found]
  have whole : Response.totalHits (store.search request 0 store.size) = all.length := by
    rw [Response.totalHits_search, List.length_map, length_found]
  -- The offset of a page is held within 64 bits, beyond which nothing is stored.
  let page := fun number => store.search request (min ((number - 1) * size) Query.maxOffset) size
  have answered : ∀ number, store.respond settings (query.page number size) = .ok (page number) :=
    fun number => respond_paginate store h _ size
  have window : ∀ number,
      Response.hits (page number) = (all.drop ((number - 1) * size)).take size := by
    intro number
    rw [Response.hits_search, drop_min bounded]
  refine ⟨_, respond_paginate store h 0 store.size, ?_, ?_, ?_⟩
  · rw [shown, whole]
  · intro number
    refine ⟨page number, answered number, ?_, ?_⟩
    · rw [shown, window]
    · rw [whole, total]
  · intro count reaches
    rw [whole] at reaches
    refine ⟨(List.range' 1 count).map page, ?_, ?_⟩
    · rw [mapM_eq_ok_iff, List.forall₂_map_right_iff, List.forall₂_same]
      exact fun number _ => answered number
    · calc ((List.range' 1 count).map page).flatMap Response.hits
        _ = (List.range' 1 count).flatMap fun number =>
              (all.drop ((number - 1) * size)).take size := by
            rw [List.flatMap_map]
            simp only [window]
        _ = all.take (count * size) := flatMap_pages all size count
        _ = Response.hits (store.search request 0 store.size) := by
            rw [List.take_of_length_le reaches, shown]

def threeProducts : Store where
  documents := ["p1", "p2", "p3"].map fun id => { id, type := "product" }

/-- Two pages of two hits show all three, and the last page that can be asked for shows none. -/
theorem pages_of_respond_three :
    ∃ request, Request.ofQuery {} Query.matchAll = .ok request ∧
      threeProducts.size < UInt32.size ∧
      ∃ whole, threeProducts.respond {} (Query.matchAll.paginate 0 3) = .ok whole ∧
        (Response.hits whole).length = 3 ∧
        (∃ last, threeProducts.respond {} (Query.matchAll.page (UInt64.size - 1) 2) = .ok last ∧
          Response.hits last = []) ∧
        ∃ pages, ([1, 2].mapM fun number =>
            threeProducts.respond {} (Query.matchAll.page number 2)) = .ok pages ∧
          pages.flatMap Response.hits = Response.hits whole := by
  have few : threeProducts.size < UInt32.size := by decide
  have compiled : ∃ request, Request.ofQuery {} Query.matchAll = .ok request := ⟨_, rfl⟩
  obtain ⟨request, h⟩ := compiled
  obtain ⟨whole, answered, all, each, together⟩ := pages_of_respond threeProducts h few 2
  have three : Response.totalHits whole = 3 := by
    cases answered
    decide +kernel
  obtain ⟨last, asked, shown, -⟩ := each (UInt64.size - 1)
  have past : Response.hits last = [] := by
    have beyond : (Response.hits whole).length ≤ (UInt64.size - 1 - 1) * 2 := by
      rw [all, three]
      decide
    rw [shown, List.drop_eq_nil_of_le beyond, List.take_nil]
  exact ⟨request, h, few, whole, answered, all.trans three, ⟨last, asked, past⟩,
    together 2 (by omega)⟩

end Store

end FacetSearch
