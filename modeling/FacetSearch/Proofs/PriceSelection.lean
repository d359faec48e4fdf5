import FacetSearch.Proofs.Acceptance
import FacetSearch.Proofs.Prices
/-!
The prices of a search that selects a range of prices.

A range clause finds a product by one of its numbers; the least and the greatest price are taken over
all of them. So the range bounds the prices exactly as far as it bounds every number of the products
found, and it bounds them where each product has one number.

What is proved:
  1. `Range.bounds_of_contains`: a number of the range is finite, and cut to an integer it keeps to
     both bounds.
  2. `least_of_finite`, `greatest_of_finite`: among finite numbers the reported price is one of
     them, cut to an integer, and bounds the others.
  3. `Filter.SelectsRange.accepts_iff`: a filter with one range finds by one number in it.
  4. `Engine.prices_of_selection`: when the prices of a search keep to a selected range.
-/

namespace FacetSearch

namespace Binary64

/-! ## Between numbers -/

/-- Infinities are at the ends and not-a-number is nowhere, so what lies between is finite. -/
theorem isFinite_of_lt {x y z : Binary64} (hxy : x.lt y = true) (hyz : y.lt z = true) :
    y.isFinite = true := by
  cases x with
  | nan => cases hxy
  | signed n r hr =>
    cases y with
    | nan => cases hxy
    | signed n' r' hr' =>
      cases z with
      | nan => cases hyz
      | signed n'' r'' hr'' =>
        have below : place n r < place n' r' := of_decide_eq_true hxy
        have above : place n' r' < place n'' r'' := of_decide_eq_true hyz
        refine decide_eq_true ?_
        cases n <;> cases n' <;> cases n'' <;>
          simp only [place, if_true, Bool.false_eq_true, if_false] at below above <;> omega

/-! ## Integers below numbers -/

/-- The integer is at most the number, compared in units and not rounded. -/
def IsAtLeast : Binary64 → Int → Prop
  | nan, _ => False
  | signed n r _, i => i * unitsPerOne ≤ signedUnits n r

instance (x : Binary64) (i : Int) : Decidable (x.IsAtLeast i) :=
  match x with
  | nan => inferInstanceAs (Decidable False)
  | signed n r _ => inferInstanceAs (Decidable (i * unitsPerOne ≤ signedUnits n r))

theorem IsAtLeast.anti {x : Binary64} {i j : Int} (h : x.IsAtLeast j) (hij : i ≤ j) :
    x.IsAtLeast i := by
  cases x with
  | nan => exact h
  | signed n r hr => exact Int.le_trans (Int.mul_le_mul_of_nonneg_right hij (by omega)) h

theorem toInt_clampToInt64_le {x : Binary64} (h : 0 ≤ x.truncate) :
    x.clampToInt64.toInt ≤ x.truncate := by
  have least : Int64.minValue.toInt < 0 := by decide
  rw [clampToInt64, toInt_ofIntClamp]
  omega

/-- A positive number that is cut to an integer is at most every number that it is at most. -/
theorem isAtLeast_of_le {x y : Binary64} (positive : zero.lt x = true) (h : x.le y = true) :
    y.IsAtLeast x.clampToInt64.toInt := by
  cases x with
  | nan => cases positive
  | signed n r hr =>
    cases y with
    | nan => cases h
    | signed n' r' hr' =>
      have above : place false 0 < place n r := of_decide_eq_true positive
      have below : place n r ≤ place n' r' := of_decide_eq_true h
      obtain ⟨rfl, rfl⟩ : n = false ∧ n' = false := by
        cases n <;> cases n' <;> simp [place] at above below ⊢ <;> omega
      have ranks : r ≤ r' := by simpa [place] using below
      have held : (signed false r hr).clampToInt64.toInt ≤ ((units r / unitsPerOne : Nat) : Int) :=
        toInt_clampToInt64_le (Int.natCast_nonneg _)
      -- Cutting off the fraction and holding the integer within 64 bits only take away.
      calc (signed false r hr).clampToInt64.toInt * (unitsPerOne : Int)
        _ ≤ ((units r / unitsPerOne : Nat) : Int) * (unitsPerOne : Int) :=
            Int.mul_le_mul_of_nonneg_right held (by omega)
        _ = ((units r / unitsPerOne * unitsPerOne : Nat) : Int) := (Int.natCast_mul _ _).symm
        _ ≤ (units r : Int) := by exact_mod_cast Nat.div_mul_le_self (units r) unitsPerOne
        _ ≤ (units r' : Int) := by exact_mod_cast units_mono ranks

end Binary64

/-! ## Numbers of a range -/

namespace Range

theorem contains_iff {range : Range} {high : Binary64}
    (positive : Binary64.zero.lt range.low = true) (ends : range.high = some high) (x : Binary64) :
    range.contains x = true ↔ range.low.le x = true ∧ x.lt high = true := by
  simp [contains, lower?, upper?, positive, ends]

theorem isUnbounded_eq_false {range : Range} {high : Binary64} (ends : range.high = some high) :
    range.isUnbounded = false := by
  simp [isUnbounded, upper?, ends]

theorem bounds_of_contains {range : Range} {high x : Binary64}
    (positive : Binary64.zero.lt range.low = true) (ends : range.high = some high)
    (inside : range.contains x = true) :
    x.isFinite = true ∧ range.low.clampToInt64 ≤ x.clampToInt64 ∧
      high.IsAtLeast x.clampToInt64.toInt := by
  obtain ⟨above, below⟩ := (contains_iff positive ends x).mp inside
  have nonzero : Binary64.zero.lt x = true := Binary64.lt_of_lt_of_le positive above
  exact ⟨Binary64.isFinite_of_lt nonzero below, Binary64.clampToInt64_mono above,
    Binary64.isAtLeast_of_le nonzero (Binary64.le_of_lt below)⟩

end Range

namespace Filter

/-- The filter selects one range of the numbers of a field. -/
structure SelectsRange (filter : Filter) (field token : String) : Prop where
  kind : filter.kind = .range
  field : filter.field = field
  values : filter.values = [token]

theorem SelectsRange.accepts_iff {filter : Filter} {field token : String} {range : Range}
    (selects : filter.SelectsRange field token) (decoded : Range.decode token = .ok range)
    (bounded : range.isUnbounded = false) (within : Range → Binary64 → Bool)
    (settings : Settings) (document : Json) :
    filter.Accepts within settings none false document ↔
      ∃ x ∈ document.numbers field, within range x = true := by
  simp [Accepts, SelectionHolds, ValueHolds, isVoid, rangeSelects, selects.kind, selects.field,
    selects.values, decoded, bounded]

end Filter

/-! ## Reported prices -/

theorem Binary64.clampToInt64_le_of_totalLe {x y : Binary64} (h : x.totalLe y = true)
    (finite : y.isFinite = true) : x.clampToInt64 ≤ y.clampToInt64 :=
  clampToInt64_mono (le_of_totalLe h (Bounds.ne_nan_of_isFinite finite)).2

theorem least_of_finite {readings : List Binary64} (nonempty : readings ≠ [])
    (finite : ∀ x ∈ readings, x.isFinite = true) :
    (∃ x ∈ readings, reportedPrice (Aggregation.least? readings) = x.clampToInt64) ∧
      ∀ x ∈ readings, reportedPrice (Aggregation.least? readings) ≤ x.clampToInt64 := by
  obtain ⟨low, hlow⟩ : ∃ low, Aggregation.least? readings = some low := by
    obtain ⟨first, rest, rfl⟩ := List.exists_cons_of_ne_nil nonempty
    exact ⟨_, rfl⟩
  obtain ⟨among, bound⟩ := Aggregation.least?_spec hlow
  rw [hlow, reportedPrice, if_pos (finite low among)]
  exact ⟨⟨low, among, rfl⟩,
    fun x hx => Binary64.clampToInt64_le_of_totalLe (bound x hx) (finite x hx)⟩

theorem greatest_of_finite {readings : List Binary64} (nonempty : readings ≠ [])
    (finite : ∀ x ∈ readings, x.isFinite = true) :
    (∃ x ∈ readings, reportedPrice (Aggregation.greatest? readings) = x.clampToInt64) ∧
      ∀ x ∈ readings, x.clampToInt64 ≤ reportedPrice (Aggregation.greatest? readings) := by
  obtain ⟨high, hhigh⟩ : ∃ high, Aggregation.greatest? readings = some high := by
    obtain ⟨first, rest, rfl⟩ := List.exists_cons_of_ne_nil nonempty
    exact ⟨_, rfl⟩
  obtain ⟨among, bound⟩ := Aggregation.greatest?_spec hhigh
  rw [hhigh, reportedPrice, if_pos (finite high among)]
  exact ⟨⟨high, among, rfl⟩,
    fun x hx => Binary64.clampToInt64_le_of_totalLe (bound x hx) (finite high among)⟩

/-- Finite prices with one among them in the range: an extreme keeps to its own bound exactly if all of
them do, and to the other bound in any case. -/
theorem Range.reportedPrices_iff {range : Range} {high : Binary64} {readings : List Binary64}
    (positive : Binary64.zero.lt range.low = true) (ends : range.high = some high)
    (finite : ∀ y ∈ readings, y.isFinite = true)
    (among : ∃ x ∈ readings, range.contains x = true) :
    (range.low.clampToInt64 ≤ reportedPrice (Aggregation.least? readings) ↔
      ∀ y ∈ readings, range.low.clampToInt64 ≤ y.clampToInt64) ∧
    (high.IsAtLeast (reportedPrice (Aggregation.greatest? readings)).toInt ↔
      ∀ y ∈ readings, high.IsAtLeast y.clampToInt64.toInt) ∧
    high.IsAtLeast (reportedPrice (Aggregation.least? readings)).toInt ∧
    range.low.clampToInt64 ≤ reportedPrice (Aggregation.greatest? readings) := by
  obtain ⟨x, hx, inside⟩ := among
  obtain ⟨-, above, below⟩ := bounds_of_contains positive ends inside
  have nonempty := List.ne_nil_of_mem hx
  obtain ⟨⟨low, hlow, lowest⟩, least⟩ := least_of_finite nonempty finite
  obtain ⟨⟨top, htop, highest⟩, greatest⟩ := greatest_of_finite nonempty finite
  refine ⟨⟨?_, ?_⟩, ⟨?_, ?_⟩, ?_, ?_⟩
  · exact fun keeps y hy => Int64.le_trans keeps (least y hy)
  · intro all
    rw [lowest]
    exact all low hlow
  · exact fun keeps y hy => keeps.anti (Int64.le_iff_toInt_le.mp (greatest y hy))
  · intro all
    rw [highest]
    exact all top htop
  · exact below.anti (Int64.le_iff_toInt_le.mp (least x hx))
  · exact Int64.le_trans above (greatest x hx)

/-! ## Searches of a store -/

def Store.products (store : Store) (settings : Settings) (request : Request) : List Json :=
  (store.primary settings).filter request.query.clause.holds

/-- The numbers that the products found have in the ranking field. -/
def Store.prices (store : Store) (settings : Settings) (request : Request) : List Binary64 :=
  (store.products settings request).flatMap fun product => product.numbers settings.rankingField

theorem Engine.search_prices (engine : Engine) (store : Store) (timing : Timing)
    {query : Query} {request : Request}
    (h : Request.ofQuery engine.settings query = .ok request) :
    ∃ result, (engine.search (Backend.ofStore store) timing query).value.1 = .ok result ∧
      result.minPrice =
        reportedPrice (Aggregation.least? (store.prices engine.settings request)) ∧
      result.maxPrice =
        reportedPrice (Aggregation.greatest? (store.prices engine.settings request)) := by
  obtain ⟨facets, result, -, answered, overview⟩ := search_ofStore engine store timing h
  obtain ⟨low, high⟩ := Aggregation.get?_pricesOf engine.settings request.query
    (store.primary engine.settings)
  exact ⟨result, answered,
    (congrArg SearchResult.minPrice overview).trans (Response.price_of_extreme low),
    (congrArg SearchResult.maxPrice overview).trans (Response.price_of_extreme high)⟩

/-- Every product found has a number in a range that the query selects, if it has numbers only. -/
theorem Store.exists_price_of_selected {store : Store} {settings : Settings} {query : Query}
    {request : Request} {filter : Filter} {token : String} {range : Range}
    (h : Request.ofQuery settings query = .ok request) (hfilter : filter ∈ query.filters.items)
    (selects : filter.SelectsRange settings.rankingField token)
    (decoded : Range.decode token = .ok range) (bounded : range.isUnbounded = false)
    {product : Json} (hproduct : product ∈ store.products settings request)
    (readable : .nan ∉ product.numbers settings.rankingField) :
    ∃ x ∈ product.numbers settings.rankingField, range.contains x = true := by
  obtain ⟨compiled, -⟩ := Request.ofQuery_eq_ok_iff.mp h
  have matched := (List.mem_filter.mp hproduct).2
  have accepted := (Combination.holds_ofFilters compiled product).mp matched filter hfilter
  obtain ⟨x, hx, admitted⟩ := (selects.accepts_iff decoded bounded _ settings product).mp accepted
  have number : x ≠ .nan := fun isNaN => readable (isNaN ▸ hx)
  exact ⟨x, hx, by simpa [Range.admits, number] using admitted⟩

/-- Where a range of prices is selected and all prices of the products found are finite, each of the
two reported prices keeps to its bound of the range exactly if all those prices do, and to the other
bound in any case. So both keep to the range if every product found has one price, which is a number. -/
theorem Engine.prices_of_selection (engine : Engine) (store : Store) (timing : Timing)
    {query : Query} {request : Request} {filter : Filter} {token : String} {range : Range}
    {high : Binary64} (h : Request.ofQuery engine.settings query = .ok request)
    (hfilter : filter ∈ query.filters.items)
    (selects : filter.SelectsRange engine.settings.rankingField token)
    (decoded : Range.decode token = .ok range)
    (positive : Binary64.zero.lt range.low = true) (ends : range.high = some high)
    (found : store.products engine.settings request ≠ []) :
    ∃ result, (engine.search (Backend.ofStore store) timing query).value.1 = .ok result ∧
      ((∀ x ∈ store.prices engine.settings request, x.isFinite = true) →
        (range.low.clampToInt64 ≤ result.minPrice ↔
          ∀ x ∈ store.prices engine.settings request,
            range.low.clampToInt64 ≤ x.clampToInt64) ∧
        (high.IsAtLeast result.maxPrice.toInt ↔
          ∀ x ∈ store.prices engine.settings request, high.IsAtLeast x.clampToInt64.toInt) ∧
        high.IsAtLeast result.minPrice.toInt ∧ range.low.clampToInt64 ≤ result.maxPrice) ∧
      ((∀ product ∈ store.products engine.settings request,
          ∃ x, product.numbers engine.settings.rankingField = [x] ∧ x ≠ .nan) →
        range.low.clampToInt64 ≤ result.minPrice ∧ high.IsAtLeast result.maxPrice.toInt) := by
  obtain ⟨result, answered, minimum, maximum⟩ := search_prices engine store timing h
  refine ⟨result, answered, ?_⟩
  rw [minimum, maximum]
  have selected : ∀ product ∈ store.products engine.settings request,
      .nan ∉ product.numbers engine.settings.rankingField →
        ∃ x ∈ product.numbers engine.settings.rankingField, range.contains x = true :=
    fun product => Store.exists_price_of_selected h hfilter selects decoded
      (Range.isUnbounded_eq_false ends)
  have among : (∀ x ∈ store.prices engine.settings request, x.isFinite = true) →
      ∃ x ∈ store.prices engine.settings request, range.contains x = true := by
    intro finite
    obtain ⟨product, hproduct⟩ := List.exists_mem_of_ne_nil _ found
    have priced : ∀ x ∈ product.numbers engine.settings.rankingField,
        x ∈ store.prices engine.settings request :=
      fun x hx => List.mem_flatMap.mpr ⟨product, hproduct, hx⟩
    have readable : .nan ∉ product.numbers engine.settings.rankingField :=
      fun hx => Bounds.ne_nan_of_isFinite (finite _ (priced _ hx)) rfl
    obtain ⟨x, hx, inside⟩ := selected product hproduct readable
    exact ⟨x, priced x hx, inside⟩
  have keeps := fun finite => Range.reportedPrices_iff positive ends finite (among finite)
  refine ⟨keeps, fun single => ?_⟩
  -- The one price of a product is the number by which it is found.
  have inside : ∀ x ∈ store.prices engine.settings request, range.contains x = true := by
    intro x hx
    obtain ⟨product, hproduct, hx⟩ := List.mem_flatMap.mp hx
    obtain ⟨one, alone, number⟩ := single product hproduct
    have readable : .nan ∉ product.numbers engine.settings.rankingField := by
      rw [alone, List.mem_singleton]
      exact number.symm
    obtain ⟨y, hy, inside⟩ := selected product hproduct readable
    rw [alone, List.mem_singleton] at hx hy
    rwa [hx, ← hy]
  have bounds := fun x hx => Range.bounds_of_contains positive ends (inside x hx)
  obtain ⟨minimum, maximum, -⟩ := keeps fun x hx => (bounds x hx).1
  exact ⟨minimum.mpr fun x hx => (bounds x hx).2.1, maximum.mpr fun x hx => (bounds x hx).2.2⟩

def priceQuery : Query := Query.matchAll.filterBy priceFilter

theorem priceFilter_selects : priceFilter.SelectsRange "real_price" "10..20" :=
  ⟨rfl, rfl, rfl⟩

set_option maxRecDepth 3000 in
/-- Of two products the one for fifteen is found. -/
theorem Engine.prices_of_selection_fifteen :
    ∃ range high request, Range.decode "10..20" = .ok range ∧
      Binary64.zero.lt range.low = true ∧ range.high = some high ∧
      Request.ofQuery {} priceQuery = .ok request ∧ priceFilter ∈ priceQuery.filters.items ∧
      (pricedStore (.ofNat 15)).products {} request ≠ [] ∧
      ∃ result, (Engine.search {} (Backend.ofStore (pricedStore (.ofNat 15))) {} priceQuery).value.1 =
          .ok result ∧
        range.low.clampToInt64 ≤ result.minPrice ∧ high.IsAtLeast result.maxPrice.toInt := by
  obtain ⟨range, high, decoded, positive, ends⟩ : ∃ range high,
      Range.decode "10..20" = .ok range ∧ Binary64.zero.lt range.low = true ∧
        range.high = some high := ⟨_, _, rfl, by decide +kernel, rfl⟩
  obtain ⟨request, h, found, single⟩ : ∃ request, Request.ofQuery {} priceQuery = .ok request ∧
      (pricedStore (.ofNat 15)).products {} request ≠ [] ∧
      ((pricedStore (.ofNat 15)).products {} request).map (fun p => p.numbers "real_price") =
        [[.ofInt 15]] := ⟨_, rfl, by decide +kernel, by decide +kernel⟩
  have hfilter : priceFilter ∈ priceQuery.filters.items := List.mem_singleton_self _
  obtain ⟨result, answered, -, keeps⟩ := Engine.prices_of_selection {} (pricedStore (.ofNat 15)) {}
    h hfilter priceFilter_selects decoded positive ends found
  refine ⟨range, high, request, decoded, positive, ends, h, hfilter, found, result, answered,
    keeps fun product hproduct => ⟨.ofInt 15, ?_, by decide +kernel⟩⟩
  have listed := List.mem_map_of_mem (f := fun p : Json => p.numbers "real_price") hproduct
  rw [single] at listed
  exact List.mem_singleton.mp listed

set_option maxRecDepth 3000 in
/-- A product for five and for fifteen is found too, and five is reported. -/
theorem Engine.price_below_selection :
    ∃ range high request, Range.decode "10..20" = .ok range ∧
      Binary64.zero.lt range.low = true ∧ range.high = some high ∧
      Request.ofQuery {} priceQuery = .ok request ∧ priceFilter ∈ priceQuery.filters.items ∧
      (pricedStore (.array [.ofNat 5, .ofNat 15])).products {} request ≠ [] ∧
      ∃ result, (Engine.search {} (Backend.ofStore (pricedStore (.array [.ofNat 5, .ofNat 15]))) {}
          priceQuery).value.1 = .ok result ∧
        result.minPrice = 5 ∧ ¬ range.low.clampToInt64 ≤ result.minPrice := by
  obtain ⟨range, high, decoded, positive, ends, dearer⟩ : ∃ range high,
      Range.decode "10..20" = .ok range ∧ Binary64.zero.lt range.low = true ∧
        range.high = some high ∧ ¬ range.low.clampToInt64 ≤ 5 :=
    ⟨_, _, rfl, by decide +kernel, rfl, by decide +kernel⟩
  let store := pricedStore (.array [.ofNat 5, .ofNat 15])
  obtain ⟨request, h, found, least⟩ : ∃ request, Request.ofQuery {} priceQuery = .ok request ∧
      store.products {} request ≠ [] ∧
      reportedPrice (Aggregation.least? (store.prices {} request)) = 5 :=
    ⟨_, rfl, by decide +kernel, by decide +kernel⟩
  obtain ⟨result, answered, minimum, -⟩ := Engine.search_prices {} store {} h
  have five : result.minPrice = 5 := minimum.trans least
  refine ⟨range, high, request, decoded, positive, ends, h, List.mem_singleton_self _, found,
    result, answered, five, ?_⟩
  rwa [five]

end FacetSearch
