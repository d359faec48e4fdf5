import FacetSearch.Clause.Matching
import FacetSearch.Proofs.Bounds
import FacetSearch.Proofs.JsonEquality
import FacetSearch.Proofs.Order
/-!
What a clause means, read off its form in the request language.

Nothing that decides which documents a clause matches is lost when the clause is written: clauses of
different types have different names, and what one type leaves out is what it does not look at. Only
bounds that are not finite cannot be written, and all become null.

What is proved:
  1. `Bounds.contains_eq_of_same`: bounds that are written alike contain the same numbers, if those
     on one side are finite.
  2. `Clause.typeName_eq_of_alike` and one inversion for each type: what is written like a clause
     is a clause of its type, with its names and with parts that are written alike.
  3. `Clause.WrittenAlike.refl`: every clause is written like itself, so that clauses with one JSON
     value are written alike.
  4. `Clause.means_same_of_same_json`: clauses that are written alike match the same documents and
     count alike towards the score.
-/

namespace FacetSearch

/-! ## Bounds -/

/-- The bound can be written: it is an integer or a finite number. -/
def BoundValue.isFinite : BoundValue → Bool
  | whole _ => true
  | real x => x.isFinite

/-- Bounds that are written alike are equal as numbers. -/
theorem BoundValue.same_toBinary64 {a b : BoundValue} (finite : a.isFinite = true)
    (h : a.toJson.same b.toJson = true) : a.toBinary64.same b.toBinary64 = true := by
  cases a with
  | whole i =>
    cases b with
    | whole j =>
      have integers : i.toInt = j.toInt := beq_iff_eq.mp h
      rw [toBinary64, toBinary64, integers]
      exact Binary64.same_self (by simp [Binary64.ofInt, Binary64.ofUnits])
    | real y =>
      -- An integer is written, and this is neither a fraction nor null.
      by_cases finite' : y.isFinite = true <;>
        simp [toJson, Json.ofInt, Json.ofBinary64, finite', Json.same, Number.same] at h
  | real x =>
    change x.isFinite = true at finite
    cases b with
    | whole j => simp [toJson, Json.ofInt, Json.ofBinary64, finite, Json.same, Number.same] at h
    | real y =>
      by_cases finite' : y.isFinite = true
      · show x.same y = true
        simpa [toJson, Json.ofBinary64, finite, finite', Json.same, Number.same] using h
      · simp [toJson, Json.ofBinary64, finite, finite', Json.same] at h

theorem BoundValue.same_toJson_self (bound : BoundValue) :
    bound.toJson.same bound.toJson = true := by
  cases bound with
  | whole i => exact beq_self_eq_true i.toInt
  | real x =>
    show (Json.ofBinary64 x).same (Json.ofBinary64 x) = true
    by_cases finite : x.isFinite = true
    · rw [Json.ofBinary64, dif_pos finite]
      exact Binary64.same_self (Bounds.ne_nan_of_isFinite finite)
    · rw [Json.ofBinary64, dif_neg finite]
      rfl

namespace Bounds

def isFinite (bounds : Bounds) : Bool :=
  bounds.gte.all BoundValue.isFinite && bounds.lt.all BoundValue.isFinite

theorem nodup_members (bounds : Bounds) : (bounds.members.map Prod.fst).Nodup := by
  unfold members
  cases bounds.gte <;> cases bounds.lt <;> simp

theorem findMember?_members (bounds : Bounds) :
    Json.findMember? bounds.members "gte" = bounds.gte.map BoundValue.toJson ∧
      Json.findMember? bounds.members "lt" = bounds.lt.map BoundValue.toJson := by
  unfold members
  cases bounds.gte <;> cases bounds.lt <;> simp [Json.findMember?]

theorem same_toJson_self (bounds : Bounds) : bounds.toJson.same bounds.toJson = true := by
  apply Json.same_self_object bounds.nodup_members
  intro entry hentry
  unfold members at hentry
  rcases List.mem_append.mp hentry with lower | upper
  · obtain ⟨bound, -, rfl⟩ := Option.map_eq_some_iff.mp (Option.mem_toList.mp lower)
    exact bound.same_toJson_self
  · obtain ⟨bound, -, rfl⟩ := Option.map_eq_some_iff.mp (Option.mem_toList.mp upper)
    exact bound.same_toJson_self

/-- A test that looks at numbers only treats bounds alike that are written alike. -/
theorem test_eq_of_rel {a b : Option BoundValue} (finite : a.all BoundValue.isFinite = true)
    (h : Option.Rel (fun value other => value.same other = true)
      (a.map BoundValue.toJson) (b.map BoundValue.toJson))
    {test : Binary64 → Bool} (congr : ∀ x y, x.same y = true → test x = test y) :
    (a.map fun bound => test bound.toBinary64) = b.map fun bound => test bound.toBinary64 := by
  cases a with
  | none =>
    cases b with
    | none => rfl
    | some bound => cases h
  | some bound =>
    cases b with
    | none => cases h
    | some other =>
      cases h with
      | some equal =>
        rw [Option.map_some, Option.map_some, congr _ _ (BoundValue.same_toBinary64 finite equal)]

/-- Bounds that are written alike contain the same numbers. -/
theorem contains_eq_of_same {a b : Bounds} (finite : a.isFinite = true)
    (h : a.toJson.same b.toJson = true) : a.contains = b.contains := by
  obtain ⟨finiteGte, finiteLt⟩ := Bool.and_eq_true_iff.mp finite
  have gte := Json.rel_findMember?_of_same a.nodup_members h "gte"
  have lt := Json.rel_findMember?_of_same a.nodup_members h "lt"
  rw [a.findMember?_members.1, b.findMember?_members.1] at gte
  rw [a.findMember?_members.2, b.findMember?_members.2] at lt
  funext x
  have below := test_eq_of_rel finiteGte gte fun _ _ equal => Binary64.lt_congr equal x
  have above := test_eq_of_rel finiteLt lt fun _ _ equal => Binary64.le_congr equal x
  rw [contains, contains, below, above]

end Bounds

namespace Clause

mutual

/-- Every bound of a range in the clause can be written. -/
def hasFiniteBounds : Clause → Bool
  | matchAll | term _ _ | words _ _ => true
  | range _ bounds => bounds.isFinite
  | nested _ inner => inner.hasFiniteBounds
  | bool must should filter _ =>
    allFiniteBounds must && allFiniteBounds should && allFiniteBounds filter

def allFiniteBounds : List Clause → Bool
  | [] => true
  | clause :: rest => clause.hasFiniteBounds && allFiniteBounds rest

end

/-! ## Clauses that mean the same -/

/-- The clauses match the same documents, and both or neither of them contribute to the score. -/
structure MeansSame (a b : Clause) : Prop where
  holds : ∀ document, a.holds document = b.holds document
  isScoring : a.isScoring = b.isScoring

namespace MeansSame

theorem refl (clause : Clause) : clause.MeansSame clause := ⟨fun _ => rfl, rfl⟩

section Lists

variable {clauses others : List Clause}

theorem allHold_eq (h : List.Forall₂ MeansSame clauses others) (document : Json) :
    allHold clauses document = allHold others document := by
  induction h with
  | nil => rfl
  | cons first _ ih => rw [allHold, allHold, first.holds, ih]

theorem countHolding_eq (h : List.Forall₂ MeansSame clauses others) (document : Json) :
    countHolding clauses document = countHolding others document := by
  induction h with
  | nil => rfl
  | cons first _ ih => rw [countHolding, countHolding, first.holds, ih]

theorem anyScoring_eq (h : List.Forall₂ MeansSame clauses others) :
    anyScoring clauses = anyScoring others := by
  induction h with
  | nil => rfl
  | cons first _ ih => rw [anyScoring, anyScoring, first.isScoring, ih]

theorem isEmpty_eq (h : List.Forall₂ MeansSame clauses others) :
    clauses.isEmpty = others.isEmpty := by
  cases h <;> rfl

end Lists

theorem range (field : String) {bounds other : Bounds} (h : bounds.contains = other.contains) :
    (range field bounds).MeansSame (.range field other) where
  holds document := by rw [Clause.holds, Clause.holds, h]
  isScoring := rfl

theorem nested (relation : String) {inner other : Clause} (h : inner.MeansSame other) :
    (nested relation inner).MeansSame (.nested relation other) where
  holds document := by
    have same : inner.holds = other.holds := funext h.holds
    rw [Clause.holds, Clause.holds, same]
  isScoring := by
    rw [Clause.isScoring, Clause.isScoring, h.isScoring]

theorem bool {must should filter must' should' filter' : List Clause}
    (minimumShould : Option Nat) (hmust : List.Forall₂ MeansSame must must')
    (hshould : List.Forall₂ MeansSame should should')
    (hfilter : List.Forall₂ MeansSame filter filter') :
    (bool must should filter minimumShould).MeansSame
      (.bool must' should' filter' minimumShould) where
  holds document := by
    rw [Clause.holds, Clause.holds, allHold_eq hfilter, allHold_eq hmust, isEmpty_eq hshould,
      isEmpty_eq hmust, isEmpty_eq hfilter, countHolding_eq hshould]
  isScoring := by
    rw [Clause.isScoring, Clause.isScoring, anyScoring_eq hmust, anyScoring_eq hshould]

end MeansSame

/-! ## Clauses that are written alike -/

theorem listToJson_eq_map (clauses : List Clause) : listToJson clauses = clauses.map toJson := by
  induction clauses with
  | nil => rfl
  | cons clause rest ih => rw [listToJson, ih, List.map_cons]

section Members

variable (must should filter : List Json) (minimumShould : Option Nat)

theorem nodup_boolMembers :
    ((boolMembers must should filter minimumShould).map Prod.fst).Nodup := by
  unfold boolMembers
  cases must.isEmpty <;> cases should.isEmpty <;> cases filter.isEmpty <;>
    cases minimumShould <;> simp

/-- What is written for a list of clauses, if anything. -/
def listMember? (items : List Json) : Option Json :=
  if items.isEmpty then none else some (.array items)

theorem findMember?_boolMembers :
    let members := boolMembers must should filter minimumShould
    Json.findMember? members "must" = listMember? must ∧
      Json.findMember? members "should" = listMember? should ∧
      Json.findMember? members "filter" = listMember? filter ∧
      Json.findMember? members "minimum_should_match" = minimumShould.map Json.ofNat := by
  unfold boolMembers listMember?
  cases must.isEmpty <;> cases should.isEmpty <;> cases filter.isEmpty <;>
    cases minimumShould <;> simp [Json.findMember?]

theorem forall_boolMembers {P : Json → Prop} (hmust : P (.array must))
    (hshould : P (.array should)) (hfilter : P (.array filter))
    (hcount : ∀ count, P (.ofNat count)) :
    ∀ entry ∈ boolMembers must should filter minimumShould, P entry.2 := by
  unfold boolMembers
  cases must.isEmpty <;> cases should.isEmpty <;> cases filter.isEmpty <;>
    cases minimumShould <;> simp [hmust, hshould, hfilter, hcount]

end Members

/-- Boolean clauses that are written alike have parts that are written alike. -/
theorem rel_boolMembers {must should filter must' should' filter' : List Json}
    {minimumShould minimumShould' : Option Nat}
    (h : (Json.object (boolMembers must should filter minimumShould)).same
      (.object (boolMembers must' should' filter' minimumShould')) = true) :
    let alike := Option.Rel fun value other : Json => value.same other = true
    alike (listMember? must) (listMember? must') ∧
      alike (listMember? should) (listMember? should') ∧
      alike (listMember? filter) (listMember? filter') ∧
      alike (minimumShould.map Json.ofNat) (minimumShould'.map Json.ofNat) := by
  have found := Json.rel_findMember?_of_same (nodup_boolMembers _ _ _ _) h
  obtain ⟨hmust, hshould, hfilter, hcount⟩ :=
    findMember?_boolMembers must should filter minimumShould
  obtain ⟨hmust', hshould', hfilter', hcount'⟩ :=
    findMember?_boolMembers must' should' filter' minimumShould'
  rw [← hmust, ← hmust', ← hshould, ← hshould', ← hfilter, ← hfilter', ← hcount, ← hcount']
  exact ⟨found "must", found "should", found "filter", found "minimum_should_match"⟩

theorem count_eq_of_rel {count count' : Option Nat}
    (h : Option.Rel (fun value other => value.same other = true)
      (count.map Json.ofNat) (count'.map Json.ofNat)) : count' = count := by
  cases count with
  | none =>
    cases count' with
    | none => rfl
    | some n => cases h
  | some m =>
    cases count' with
    | none => cases h
    | some n =>
      cases h with
      | some written =>
        have integers : (m : Int) = (n : Int) := beq_iff_eq.mp written
        rw [Int.ofNat.inj integers]

/-- The clauses are written as equal values. -/
def WrittenAlike (a b : Clause) : Prop := a.toJson.same b.toJson = true

variable {a b : Clause}

theorem exists_body (clause : Clause) :
    ∃ body, clause.toJson = .object [(clause.typeName, body)] := by
  cases clause <;> exact ⟨_, rfl⟩

theorem typeName_eq_of_alike (h : WrittenAlike a b) : a.typeName = b.typeName := by
  obtain ⟨body, ha⟩ := exists_body a
  obtain ⟨body', hb⟩ := exists_body b
  rw [WrittenAlike, ha, hb, Json.same_singleton_iff] at h
  exact h.1

theorem eq_matchAll_of_alike (h : matchAll.WrittenAlike b) : b = matchAll := by
  have kind := typeName_eq_of_alike h
  cases b with
  | matchAll => rfl
  | _ => simp [typeName] at kind

theorem eq_term_of_alike {field value : String}
    (h : (term field value).WrittenAlike b) : b = term field value := by
  have kind := typeName_eq_of_alike h
  cases b with
  | term field' value' =>
    obtain ⟨-, body⟩ := Json.same_singleton_iff.mp h
    obtain ⟨rfl, values⟩ := Json.same_singleton_iff.mp body
    rw [beq_iff_eq.mp values]
  | _ => simp [typeName] at kind

theorem eq_words_of_alike {field text : String}
    (h : (words field text).WrittenAlike b) : b = words field text := by
  have kind := typeName_eq_of_alike h
  cases b with
  | words field' text' =>
    obtain ⟨-, body⟩ := Json.same_singleton_iff.mp h
    obtain ⟨rfl, members⟩ := Json.same_singleton_iff.mp body
    have texts := Json.rel_findMember?_of_same (by simp) members "query"
    cases texts with
    | some equal => rw [beq_iff_eq.mp equal]
  | _ => simp [typeName] at kind

theorem eq_range_of_alike {field : String} {bounds : Bounds}
    (h : (range field bounds).WrittenAlike b) :
    ∃ other, b = range field other ∧ bounds.toJson.same other.toJson = true := by
  have kind := typeName_eq_of_alike h
  cases b with
  | range field' other =>
    obtain ⟨-, body⟩ := Json.same_singleton_iff.mp h
    obtain ⟨rfl, written⟩ := Json.same_singleton_iff.mp body
    exact ⟨other, rfl, written⟩
  | _ => simp [typeName] at kind

theorem eq_nested_of_alike {relation : String} {inner : Clause}
    (h : (nested relation inner).WrittenAlike b) :
    ∃ other, b = nested relation other ∧ inner.WrittenAlike other := by
  have kind := typeName_eq_of_alike h
  cases b with
  | nested relation' other =>
    obtain ⟨-, members⟩ := Json.same_singleton_iff.mp h
    have paths := Json.rel_findMember?_of_same (by simp) members "path"
    have inners := Json.rel_findMember?_of_same (by simp) members "query"
    cases paths with
    | some path =>
      cases inners with
      | some written =>
        rw [← beq_iff_eq.mp path]
        exact ⟨other, rfl, written⟩
  | _ => simp [typeName] at kind

/-- Lists that are written alike in a boolean clause have clauses that are written alike. -/
theorem forall₂_of_rel {clauses others : List Clause}
    (h : Option.Rel (fun value other => value.same other = true)
      (listMember? (listToJson clauses)) (listMember? (listToJson others))) :
    List.Forall₂ WrittenAlike clauses others := by
  rw [listToJson_eq_map, listToJson_eq_map] at h
  cases clauses with
  | nil =>
    cases others with
    | nil => exact .nil
    | cons other others => cases h
  | cons clause clauses =>
    cases others with
    | nil => cases h
    | cons other others =>
      cases h with
      | some equal =>
        have items := Json.forall₂_of_sameItems equal
        rwa [List.forall₂_map_left_iff, List.forall₂_map_right_iff] at items

theorem eq_bool_of_alike {must should filter : List Clause} {minimumShould : Option Nat}
    (h : (bool must should filter minimumShould).WrittenAlike b) :
    ∃ must' should' filter', b = bool must' should' filter' minimumShould ∧
      List.Forall₂ WrittenAlike must must' ∧
      List.Forall₂ WrittenAlike should should' ∧
      List.Forall₂ WrittenAlike filter filter' := by
  have kind := typeName_eq_of_alike h
  cases b with
  | bool must' should' filter' minimumShould' =>
    obtain ⟨-, members⟩ := Json.same_singleton_iff.mp h
    obtain ⟨musts, shoulds, filters, counts⟩ := rel_boolMembers members
    rw [count_eq_of_rel counts]
    exact ⟨must', should', filter', rfl, forall₂_of_rel musts, forall₂_of_rel shoulds,
      forall₂_of_rel filters⟩
  | _ => simp [typeName] at kind

mutual

/-- Every clause is written like itself. An object with a name twice would not be equal to itself,
but no clause is written as one. -/
theorem WrittenAlike.refl : ∀ clause : Clause, clause.WrittenAlike clause
  | matchAll => rfl
  | term field value =>
    Json.same_singleton_iff.mpr
      ⟨rfl, Json.same_singleton_iff.mpr ⟨rfl, beq_self_eq_true value⟩⟩
  | words field text => by
    apply Json.same_singleton_iff.mpr ⟨rfl, Json.same_singleton_iff.mpr ⟨rfl, ?_⟩⟩
    apply Json.same_self_object (by simp)
    simp [Json.same]
  | range field bounds =>
    Json.same_singleton_iff.mpr ⟨rfl, Json.same_singleton_iff.mpr ⟨rfl, bounds.same_toJson_self⟩⟩
  | nested relation inner => by
    have written : inner.toJson.same inner.toJson = true := WrittenAlike.refl inner
    apply Json.same_singleton_iff.mpr ⟨rfl, Json.same_self_object (by simp) ?_⟩
    simp [Json.same, written]
  | bool must should filter minimumShould => by
    apply Json.same_singleton_iff.mpr ⟨rfl, Json.same_self_object (nodup_boolMembers _ _ _ _) ?_⟩
    have counts : ∀ count, (Json.ofNat count).same (.ofNat count) = true :=
      fun count => beq_self_eq_true (count : Int)
    exact forall_boolMembers (P := fun json => json.same json = true) _ _ _ _
      (Json.same_self_array (WrittenAlike.refl_list must))
      (Json.same_self_array (WrittenAlike.refl_list should))
      (Json.same_self_array (WrittenAlike.refl_list filter)) counts

theorem WrittenAlike.refl_list : ∀ clauses : List Clause,
    ∀ json ∈ listToJson clauses, json.same json = true
  | [] => fun _ hjson => absurd hjson List.not_mem_nil
  | clause :: rest =>
    List.forall_mem_cons.mpr ⟨WrittenAlike.refl clause, WrittenAlike.refl_list rest⟩

end

/-! ## The meaning of what is written -/

mutual

theorem WrittenAlike.meansSame : ∀ a b : Clause, a.hasFiniteBounds = true →
    a.WrittenAlike b → a.MeansSame b
  | matchAll, b, _, h => by
    rw [eq_matchAll_of_alike h]
    exact .refl _
  | term field value, b, _, h => by
    rw [eq_term_of_alike h]
    exact .refl _
  | words field text, b, _, h => by
    rw [eq_words_of_alike h]
    exact .refl _
  | range field bounds, b, finite, h => by
    obtain ⟨other, rfl, written⟩ := eq_range_of_alike h
    exact .range field (Bounds.contains_eq_of_same finite written)
  | nested relation inner, b, finite, h => by
    obtain ⟨other, rfl, written⟩ := eq_nested_of_alike h
    exact .nested relation (WrittenAlike.meansSame inner other finite written)
  | bool must should filter minimumShould, b, finite, h => by
    obtain ⟨must', should', filter', rfl, musts, shoulds, filters⟩ := eq_bool_of_alike h
    obtain ⟨finite, finiteFilter⟩ := Bool.and_eq_true_iff.mp finite
    obtain ⟨finiteMust, finiteShould⟩ := Bool.and_eq_true_iff.mp finite
    exact .bool minimumShould (WrittenAlike.forall₂_meansSame must must' finiteMust musts)
      (WrittenAlike.forall₂_meansSame should should' finiteShould shoulds)
      (WrittenAlike.forall₂_meansSame filter filter' finiteFilter filters)

theorem WrittenAlike.forall₂_meansSame : ∀ clauses others : List Clause,
    allFiniteBounds clauses = true → List.Forall₂ WrittenAlike clauses others →
    List.Forall₂ MeansSame clauses others
  | [], others, _, h => by
    rw [List.forall₂_nil_left_iff.mp h]
    exact .nil
  | clause :: rest, others, finite, h => by
    obtain ⟨other, rest', first, later, rfl⟩ := List.forall₂_cons_left_iff.mp h
    obtain ⟨finiteFirst, finiteRest⟩ := Bool.and_eq_true_iff.mp finite
    exact .cons (WrittenAlike.meansSame clause other finiteFirst first)
      (WrittenAlike.forall₂_meansSame rest rest' finiteRest later)

end

/-- Clauses that are written as equal values match the same documents and count alike towards the
score. Bounds that are not finite are all written as null, so one of the clauses has to be without
them. -/
theorem means_same_of_same_json (a b : Clause) (finite : a.hasFiniteBounds = true)
    (written : a.toJson.same b.toJson = true) :
    (∀ document, a.holds document = b.holds document) ∧ a.isScoring = b.isScoring := by
  have means := WrittenAlike.meansSame a b finite written
  exact ⟨means.holds, means.isScoring⟩

/-- A clause for red children of a brand that cost zero or more, by either zero. -/
def pricedFromZero (negative : Bool) : Clause :=
  .nested "brand" (.bool [.words "brand.name" "red"] []
    [.range "price" { gte := some (.real (.signed negative 0 (Nat.zero_le _))) }] none)

theorem means_same_of_same_json_zero :
    (pricedFromZero false).hasFiniteBounds = true ∧
      (pricedFromZero false).toJson.same (pricedFromZero true).toJson = true ∧
      pricedFromZero false ≠ pricedFromZero true ∧
      ∀ document, (pricedFromZero false).holds document = (pricedFromZero true).holds document :=
  have finite : (pricedFromZero false).hasFiniteBounds = true := by decide +kernel
  have written : (pricedFromZero false).toJson.same (pricedFromZero true).toJson = true := by
    decide +kernel
  ⟨finite, written, by simp [pricedFromZero],
    (means_same_of_same_json (pricedFromZero false) (pricedFromZero true) finite written).1⟩

/-- A lower bound that is not a number and one that is infinite are written alike, and only the
first lets a number through. -/
example :
    let unbounded : Clause := .range "price" { gte := some (.real .nan) }
    let unreachable : Clause := .range "price" { gte := some (.real (.infinity false)) }
    unbounded.toJson.same unreachable.toJson = true ∧
      unbounded.holds (.object [("price", .ofNat 5)]) = true ∧
      unreachable.holds (.object [("price", .ofNat 5)]) = false := by
  decide +kernel

end Clause

end FacetSearch
