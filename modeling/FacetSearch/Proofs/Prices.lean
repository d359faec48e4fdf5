import FacetSearch.Proofs.Bounds
import FacetSearch.Proofs.Order
import FacetSearch.Proofs.Scopes
/-!
The least and the greatest price of a search.

Each extreme travels alone: it is picked in the total order of numbers, written as a number or, if
it is not finite, as null, read back with zero for null, and cut to a 64-bit integer. Every step
keeps the order except that zero, which may take the place of only one of the two.

What is proved:
  1. `Response.price_of_extreme`: the price that is read is the extreme, or zero.
  2. `reportedPrice_le_iff`: the prices of a list of readings are in order unless zero stands for
     one end and the other end lies on the wrong side of it (`Disordered`).
  3. `Engine.prices_of_search`: so it is with the prices of a search.
-/

namespace FacetSearch

namespace Binary64

/-! ## Sides of zero -/

/-- The number is above zero when its fraction is cut off; not-a-number is above everything. -/
def IsOver (x : Binary64) : Prop := x = .nan ∨ 0 < x.truncate

/-- The number is below zero when its fraction is cut off. -/
def IsUnder (x : Binary64) : Prop := x ≠ .nan ∧ x.truncate < 0

variable {x y : Binary64}

theorem IsOver.not_isUnder (isOver : x.IsOver) : ¬ x.IsUnder := by
  intro isUnder
  rcases isOver with isNaN | above
  · exact isUnder.1 isNaN
  · have := isUnder.2
    omega

theorem IsOver.mono (isOver : x.IsOver) (h : x.totalLe y = true) : y.IsOver := by
  by_cases isNaN : y = .nan
  · exact .inl isNaN
  · obtain ⟨number, below⟩ := le_of_totalLe h isNaN
    have above := isOver.resolve_left number
    have := truncate_mono below
    exact .inr (by omega)

theorem IsUnder.mono (isUnder : y.IsUnder) (h : x.totalLe y = true) : x.IsUnder := by
  obtain ⟨number, below⟩ := le_of_totalLe h isUnder.1
  have := truncate_mono below
  have := isUnder.2
  exact ⟨number, by omega⟩

theorem eq_infinity_of_isFinite (h : x.isFinite = false) :
    x = .nan ∨ x = infinity true ∨ x = infinity false := by
  cases x with
  | nan => exact .inl rfl
  | signed n r hr =>
    have last : r = infinityRank := by
      have : ¬ r < infinityRank := of_decide_eq_false h
      omega
    subst last
    cases n
    · exact .inr (.inr rfl)
    · exact .inr (.inl rfl)

theorem isOver_infinity : (infinity false).IsOver := by
  refine .inr ?_
  decide +kernel

theorem isUnder_infinity : (infinity true).IsUnder := by
  refine ⟨by decide, ?_⟩
  decide +kernel

/-- What is not finite and lies below a finite number is negative infinity. -/
theorem isUnder_of_totalLe (h : x.totalLe y = true) (hx : x.isFinite = false)
    (hy : y.isFinite = true) : x.IsUnder := by
  cases y with
  | nan => cases hy
  | signed n r hr =>
    rcases eq_infinity_of_isFinite hx with rfl | rfl | rfl
    · cases h
    · exact isUnder_infinity
    · have finite : r < infinityRank := of_decide_eq_true hy
      have below : (infinityRank : Int) ≤ place n r := of_decide_eq_true h
      unfold place at below
      split at below <;> omega

/-- What is not finite and lies above a finite number is infinity or not-a-number. -/
theorem isOver_of_totalLe (h : x.totalLe y = true) (hx : x.isFinite = true)
    (hy : y.isFinite = false) : y.IsOver := by
  rcases eq_infinity_of_isFinite hy with rfl | rfl | rfl
  · exact .inl rfl
  · cases x with
    | nan => cases hx
    | signed n r hr =>
      have finite : r < infinityRank := of_decide_eq_true hx
      have below : place n r ≤ -(infinityRank : Int) := of_decide_eq_true h
      unfold place at below
      split at below <;> omega
  · exact isOver_infinity

theorem clampToInt64_le_zero_iff (number : x ≠ .nan) : x.clampToInt64 ≤ 0 ↔ ¬ x.IsOver := by
  have bounds : Int64.minValue.toInt < 0 ∧ 0 < Int64.maxValue.toInt := by decide
  have side : x.clampToInt64 ≤ 0 ↔ x.truncate ≤ 0 := by
    rw [Int64.le_iff_toInt_le, clampToInt64, toInt_ofIntClamp, Int64.toInt_zero]
    omega
  rw [side, IsOver, not_or, Int.not_lt]
  exact ⟨fun below => ⟨number, below⟩, fun below => below.2⟩

theorem zero_le_clampToInt64_iff (number : x ≠ .nan) : 0 ≤ x.clampToInt64 ↔ ¬ x.IsUnder := by
  have bounds : Int64.minValue.toInt < 0 ∧ 0 < Int64.maxValue.toInt := by decide
  have side : 0 ≤ x.clampToInt64 ↔ 0 ≤ x.truncate := by
    rw [Int64.le_iff_toInt_le, clampToInt64, toInt_ofIntClamp, Int64.toInt_zero]
    omega
  rw [side, IsUnder, not_and, Int.not_lt]
  exact ⟨fun above _ => above, fun above => above number⟩

end Binary64

/-! ## Reported prices -/

/-- The price reported for an extreme: zero if there is no finite one. -/
def reportedPrice : Option Binary64 → Int64
  | some x => if x.isFinite then x.clampToInt64 else 0
  | none => 0

theorem Response.price_of_extreme {common : Json} {name : String} {value : Option Binary64}
    (h : common.get? name = some (Aggregation.extreme value)) :
    price common name = reportedPrice value := by
  unfold price
  rw [h]
  cases value with
  | none => rfl
  | some x =>
    by_cases finite : x.isFinite = true
    · simp [Aggregation.extreme, Json.get?, Json.findMember?, Json.ofOption, Json.ofBinary64,
        finite, Json.binary64?, Number.toBinary64, reportedPrice]
    · simp [Aggregation.extreme, Json.get?, Json.findMember?, Json.ofOption, Json.ofBinary64,
        finite, Json.binary64?, reportedPrice]

/-- Some readings are finite and some are not, and all of them are over zero or all are under, so
that zero stands for one end and the other end is finite and on the wrong side of it. -/
structure Disordered (readings : List Binary64) : Prop where
  finite : ∃ x ∈ readings, x.isFinite = true
  infinite : ∃ x ∈ readings, x.isFinite = false
  sided : (∀ x ∈ readings, x.IsOver) ∨ (∀ x ∈ readings, x.IsUnder)

theorem disordered_iff {readings : List Binary64} {low high : Binary64}
    (hlow : Aggregation.least? readings = some low)
    (hhigh : Aggregation.greatest? readings = some high) :
    Disordered readings ↔
      (low.isFinite = true ∧ high.isFinite = false ∧ low.IsOver) ∨
        (low.isFinite = false ∧ high.isFinite = true ∧ high.IsUnder) := by
  obtain ⟨lowMem, above⟩ := Aggregation.least?_spec hlow
  obtain ⟨highMem, below⟩ := Aggregation.greatest?_spec hhigh
  constructor
  · intro disordered
    obtain ⟨x, hx, finite⟩ := disordered.finite
    obtain ⟨y, hy, infinite⟩ := disordered.infinite
    cases lowFinite : low.isFinite <;> cases highFinite : high.isFinite
    case false.false =>
      -- A finite reading lies between, so the ends lie on different sides.
      have isUnder := Binary64.isUnder_of_totalLe (above x hx) lowFinite finite
      have isOver := Binary64.isOver_of_totalLe (below x hx) finite highFinite
      rcases disordered.sided with allOver | allUnder
      · exact absurd isUnder (allOver low lowMem).not_isUnder
      · exact absurd (allUnder high highMem) isOver.not_isUnder
    case false.true =>
      have isUnder := Binary64.isUnder_of_totalLe (above high highMem) lowFinite highFinite
      rcases disordered.sided with allOver | allUnder
      · exact absurd isUnder (allOver low lowMem).not_isUnder
      · exact .inr ⟨rfl, rfl, allUnder high highMem⟩
    case true.false =>
      have isOver := Binary64.isOver_of_totalLe (above high highMem) lowFinite highFinite
      rcases disordered.sided with allOver | allUnder
      · exact .inl ⟨rfl, rfl, allOver low lowMem⟩
      · exact absurd (allUnder high highMem) isOver.not_isUnder
    case true.true =>
      -- Between finite extremes every reading is finite.
      have isOver := Binary64.isOver_of_totalLe (above y hy) lowFinite infinite
      have isUnder := Binary64.isUnder_of_totalLe (below y hy) infinite highFinite
      exact absurd isUnder isOver.not_isUnder
  · intro ends
    rcases ends with ⟨lowFinite, highFinite, isOver⟩ | ⟨lowFinite, highFinite, isUnder⟩
    · exact ⟨⟨low, lowMem, lowFinite⟩, ⟨high, highMem, highFinite⟩,
        .inl fun x hx => isOver.mono (above x hx)⟩
    · exact ⟨⟨high, highMem, highFinite⟩, ⟨low, lowMem, lowFinite⟩,
        .inr fun x hx => isUnder.mono (below x hx)⟩

theorem reportedPrice_le_iff (readings : List Binary64) :
    reportedPrice (Aggregation.least? readings) ≤ reportedPrice (Aggregation.greatest? readings) ↔
      ¬ Disordered readings := by
  cases readings with
  | nil =>
    refine iff_of_true (Int64.le_refl 0) fun disordered => ?_
    obtain ⟨x, hx, -⟩ := disordered.finite
    exact List.not_mem_nil hx
  | cons first rest =>
    obtain ⟨low, hlow⟩ : ∃ low, Aggregation.least? (first :: rest) = some low := ⟨_, rfl⟩
    obtain ⟨high, hhigh⟩ : ∃ high, Aggregation.greatest? (first :: rest) = some high := ⟨_, rfl⟩
    have between : low.totalLe high = true :=
      (Aggregation.least?_spec hlow).2 high (Aggregation.greatest?_spec hhigh).1
    rw [disordered_iff hlow hhigh, hlow, hhigh, reportedPrice, reportedPrice]
    cases lowFinite : low.isFinite <;> cases highFinite : high.isFinite
    case false.false => simp
    case false.true =>
      have number := Bounds.ne_nan_of_isFinite highFinite
      simp [Binary64.zero_le_clampToInt64_iff number]
    case true.false =>
      have number := Bounds.ne_nan_of_isFinite lowFinite
      simp [Binary64.clampToInt64_le_zero_iff number]
    case true.true =>
      have number := Bounds.ne_nan_of_isFinite highFinite
      have ordered := (Binary64.le_of_totalLe between number).2
      simp [Binary64.clampToInt64_mono ordered]

/-! ## Searches of a store -/

theorem Aggregation.get?_pricesOf (settings : Settings) (found : Combination)
    (documents : List Json) :
    let readings := (documents.filter found.clause.holds).flatMap fun document =>
      document.numbers settings.rankingField
    (evaluate documents (pricesOf settings found)).get? minPrice =
        some (extreme (least? readings)) ∧
      (evaluate documents (pricesOf settings found)).get? maxPrice =
        some (extreme (greatest? readings)) := by
  have distinct : ([least minPrice settings.rankingField,
      greatest maxPrice settings.rankingField].map name).Nodup := by
    show [minPrice, maxPrice].Nodup
    decide
  let narrowed := documents.filter found.clause.holds
  have children := (findMember?_evaluateAll narrowed distinct (scopeCount narrowed)).1
  constructor
  · exact children (least minPrice settings.rankingField) (by simp)
  · exact children (greatest maxPrice settings.rankingField) (by simp)

/-- The prices of a search are in order, unless zero stands for one of them: the readings are those
of the products that the query finds. -/
theorem Engine.prices_of_search (engine : Engine) (store : Store) (timing : Timing)
    {query : Query} {request : Request}
    (h : Request.ofQuery engine.settings query = .ok request) :
    ∃ result, (engine.search (Backend.ofStore store) timing query).value.1 = .ok result ∧
      (result.minPrice ≤ result.maxPrice ↔
        ¬ Disordered
          (((store.primary engine.settings).filter request.query.clause.holds).flatMap
            fun document => document.numbers engine.settings.rankingField)) := by
  obtain ⟨facets, result, -, answered, overview⟩ := search_ofStore engine store timing h
  refine ⟨result, answered, ?_⟩
  obtain ⟨low, high⟩ := Aggregation.get?_pricesOf engine.settings request.query
    (store.primary engine.settings)
  have minimum := (congrArg SearchResult.minPrice overview).trans (Response.price_of_extreme low)
  have maximum := (congrArg SearchResult.maxPrice overview).trans (Response.price_of_extreme high)
  rw [← reportedPrice_le_iff, ← minimum, ← maximum]
  rfl

/-- Two products, one for five and one for the given price. -/
def pricedStore (price : Json) : Store where
  documents :=
    [{ id := "p1", type := "product", source := [("real_price", .ofNat 5)] },
     { id := "p2", type := "product", source := [("real_price", price)] }]

theorem Engine.prices_of_search_seven :
    ∃ request, Request.ofQuery {} Query.matchAll = .ok request ∧
      ∃ result, (Engine.search {} (Backend.ofStore (pricedStore (.ofNat 7))) {}
          Query.matchAll).value.1 = .ok result ∧ result.minPrice ≤ result.maxPrice := by
  have compiled : ∃ request, Request.ofQuery {} Query.matchAll = .ok request := ⟨_, rfl⟩
  obtain ⟨request, h⟩ := compiled
  obtain ⟨result, answered, ordered⟩ :=
    Engine.prices_of_search {} (pricedStore (.ofNat 7)) {} h
  refine ⟨request, h, result, answered, ordered.mpr fun disordered => ?_⟩
  cases h
  obtain ⟨x, hx, infinite⟩ := disordered.infinite
  have finite : ∀ x ∈ (((pricedStore (.ofNat 7)).primary {}).filter
      (Combination.clause {}).holds).flatMap fun document => document.numbers "real_price",
      x.isFinite = true := by
    decide +kernel
  exact absurd infinite (by simp [finite x hx])

/-- Where the greatest price is not a number it is reported as zero, below the least. -/
theorem Engine.disordered_prices :
    ∃ result, (Engine.search {} (Backend.ofStore (pricedStore (.text "NaN"))) {}
        Query.matchAll).value.1 = .ok result ∧
      result.minPrice = 5 ∧ result.maxPrice = 0 ∧ ¬ result.minPrice ≤ result.maxPrice :=
  ⟨_, rfl, by decide +kernel, by decide +kernel, by decide +kernel⟩

end FacetSearch
