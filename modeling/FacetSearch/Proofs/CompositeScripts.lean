import FacetSearch.Proofs.LinkedTexts
import FacetSearch.Proofs.NestedKeys
import FacetSearch.Proofs.RequestScopes
/-!
Scripts over several fields, and which fields a script is of.

The script of a composite facet quotes the names of its fields and joins what it reads of them, and it
takes the names as they are. So what stands between two names, `Aggregation.scriptLink`, can also
stand in a name, and then the script is that of other fields. Of all lists of fields that have one
script, one is legible: in none of its names does the link show up.

What is proved:
  1. `Aggregation.compositeScript_eq_iff`: scripts are equal exactly if the names are joined by links
     to equal texts.
  2. `Facet.isLegible_of_unquoted`: fields without quotes are legible; `Facet.exists_legible_field`:
     for any others there are legible ones with the same script.
  3. `Aggregation.script_of_body`, `Aggregation.exists_scope_onField`: facets whose scopes show the
     same have the same script, and where they have it their scopes show the same.
  4. `Facet.fields_of_compiled`: legible fields are told apart by the aggregations that a query with
     the facet becomes, and no others are.
-/

namespace FacetSearch

namespace Aggregation

/-! ## Scripts -/

/-- What stands between the names of two fields in a script. -/
def scriptLink : String := "'].value" ++ (" + \"" ++ Facet.keySeparator ++ "\" + ") ++ "doc['"

/-- A script is the names of its fields, joined by links. -/
theorem toList_compositeScript {fields : List String} (any : fields ≠ []) :
    (compositeScript fields).toList =
      "doc['".toList ++ (scriptLink.toList.intercalate (fields.map String.toList) ++
        "'].value".toList) := by
  induction fields with
  | nil => exact absurd rfl any
  | cons field rest ih =>
    cases rest with
    | nil => simp [compositeScript]
    | cons next later =>
      have more : compositeScript (field :: next :: later) =
          "doc['" ++ field ++ "'].value" ++ (" + \"" ++ Facet.keySeparator ++ "\" + ") ++
            compositeScript (next :: later) :=
        String.intercalate_cons_cons
      rw [more, String.toList_append, ih (List.cons_ne_nil _ _)]
      simp only [scriptLink, List.map_cons, List.intercalate_cons_cons, String.toList_append,
        List.append_assoc]

theorem compositeScript_eq_iff {fields others : List String} (any : fields ≠ [])
    (any' : others ≠ []) :
    compositeScript fields = compositeScript others ↔
      scriptLink.toList.intercalate (fields.map String.toList) =
        scriptLink.toList.intercalate (others.map String.toList) := by
  rw [← String.toList_inj, toList_compositeScript any, toList_compositeScript any',
    List.append_cancel_left_eq, List.append_cancel_right_eq]

theorem overlapsLittle_scriptLink : Text.OverlapsLittle scriptLink.toList := by
  decide

theorem length_scriptLink : 1 < scriptLink.toList.length := by
  decide

theorem fieldMark_not_mem_scriptLink : Facet.fieldMark ∉ scriptLink.toList := by
  decide

def quote : Char := '\x27'

theorem count_quote_scriptLink :
    (scriptLink.toList.take 1).count quote < scriptLink.toList.count quote := by
  decide

end Aggregation

namespace Text

/-- The characters of pieces are those of the text, other than the separator. -/
theorem mem_of_mem_splitAt {sep : Char} {cs : List Char} :
    ∀ piece ∈ splitAt sep cs, ∀ c ∈ piece, c ∈ cs ∧ c ≠ sep := by
  induction cs with
  | nil => simp [splitAt]
  | cons first rest ih =>
    rw [splitAt]
    split
    · intro piece hpiece c hc
      rcases List.mem_cons.mp hpiece with rfl | later
      · cases hc
      · exact (ih piece later c hc).imp_left (List.mem_cons_of_mem first)
    · rename_i apart
      intro piece hpiece c hc
      cases cut : splitAt sep rest with
      | nil =>
        rw [cut] at hpiece
        cases List.mem_singleton.mp hpiece
        cases List.mem_singleton.mp hc
        exact ⟨List.mem_cons_self, apart⟩
      | cons before pieces =>
        rw [cut] at hpiece ih
        rcases List.mem_cons.mp hpiece with rfl | later
        · rcases List.mem_cons.mp hc with rfl | hc
          · exact ⟨List.mem_cons_self, apart⟩
          · exact (ih before List.mem_cons_self c hc).imp_left (List.mem_cons_of_mem first)
        · exact (ih piece (List.mem_cons_of_mem before later) c hc).imp_left
            (List.mem_cons_of_mem first)

end Text

namespace Facet

/-! ## Legible fields -/

def onField (facet : Facet) (field : String) : Facet := { facet with field }

/-- The field of these names, with bars between them. -/
def fieldOf (names : List (List Char)) : String :=
  (String.singleton fieldMark).intercalate (names.map String.ofList)

/-- The names of the facet's fields, as they stand in a script. -/
def names (facet : Facet) : List (List Char) := facet.fields.map String.toList

/-- The link between the names in a script shows up in none of the names, also not where another link
follows the name. -/
def IsLegible (facet : Facet) : Prop :=
  Text.Legible Aggregation.scriptLink.toList facet.names

instance (facet : Facet) : Decidable facet.IsLegible :=
  inferInstanceAs (Decidable (Text.Legible _ _))

variable {facet other : Facet}

theorem names_eq_splitAt (facet : Facet) :
    facet.names = Text.splitAt fieldMark facet.field.toList := by
  simp [names, fields, Text.pieces, Function.comp_def]

theorem exists_fields (several : 2 ≤ facet.fields.length) :
    ∃ first next rest, facet.fields = first :: next :: rest := by
  cases all : facet.fields with
  | nil => simp [all] at several
  | cons first others =>
    cases others with
    | nil => simp [all] at several
    | cons next rest => exact ⟨first, next, rest, rfl⟩

theorem ne_nil_of_several (several : 2 ≤ facet.fields.length) : facet.fields ≠ [] := by
  obtain ⟨first, next, rest, all⟩ := exists_fields several
  rw [all]
  exact List.cons_ne_nil _ _

/-- Legible fields are told apart by their scripts. -/
theorem fields_eq_of_script (legible : facet.IsLegible) (legible' : other.IsLegible)
    (any : facet.fields ≠ []) (any' : other.fields ≠ [])
    (same : Aggregation.compositeScript facet.fields =
      Aggregation.compositeScript other.fields) : facet.fields = other.fields := by
  have names : facet.names = other.names :=
    legible.eq_of_intercalate Aggregation.overlapsLittle_scriptLink legible'
      (by simpa [names] using any) (by simpa [names] using any')
      ((Aggregation.compositeScript_eq_iff any any').mp same)
  exact List.map_injective_iff.mpr (fun _ _ => String.toList_injective) names

/-- The link has more quotes than a name without any and the first character of another link. -/
theorem isLegible_of_unquoted (plain : Aggregation.quote ∉ facet.field.toList) :
    facet.IsLegible := by
  have unlinked : ∀ name ∈ facet.names, Text.Unlinked Aggregation.scriptLink.toList name := by
    intro name hname shown
    rw [names_eq_splitAt] at hname
    have zero : name.count Aggregation.quote = 0 := by
      rw [List.count_eq_zero]
      exact fun among => plain (Text.mem_of_mem_splitAt name hname _ among).1
    have many := shown.sublist.count_le Aggregation.quote
    rw [List.count_append, zero] at many
    have more := Aggregation.count_quote_scriptLink
    omega
  refine ⟨fun name hname => (unlinked name hname).not_shown, fun name hname => ?_⟩
  exact unlinked name (List.mem_of_mem_dropLast hname)

/-- No bar stands in a name. -/
theorem ne_fieldMark_of_mem_names (facet : Facet) :
    ∀ name ∈ facet.names, ∀ c ∈ name, c ≠ fieldMark := by
  rw [names_eq_splitAt]
  exact fun name hname c hc => (Text.mem_of_mem_splitAt name hname c hc).2

/-- Names without bars are those of the field that is joined of them. -/
theorem names_fieldOf {pieces : List (List Char)} (any : pieces ≠ [])
    (free : ∀ piece ∈ pieces, ∀ c ∈ piece, c ≠ fieldMark) :
    (facet.onField (fieldOf pieces)).names = pieces := by
  have unmarked : ∀ part ∈ pieces.map String.ofList, fieldMark ∉ part.toList := by
    simp only [List.forall_mem_map, String.toList_ofList]
    exact fun piece hpiece among => free piece hpiece fieldMark among rfl
  have fields := Text.pieces_joined (by simpa using any) unmarked
  rw [names, Facet.fields, onField, fieldOf, fields]
  simp [Function.comp_def]

theorem length_names (facet : Facet) : facet.names.length = facet.fields.length :=
  List.length_map _

/-- For the fields of every facet there are legible ones with the same script. -/
theorem exists_legible_field (several : 2 ≤ facet.fields.length) :
    ∃ field, (facet.onField field).IsLegible ∧ 2 ≤ (facet.onField field).fields.length ∧
      Aggregation.compositeScript (facet.onField field).fields =
        Aggregation.compositeScript facet.fields := by
  have shown : Aggregation.scriptLink.toList <:+:
      Aggregation.scriptLink.toList.intercalate facet.names := by
    obtain ⟨first, next, rest, all⟩ := exists_fields several
    rw [names, all, List.map_cons, List.map_cons, List.intercalate_cons_cons]
    exact ⟨first.toList, _, rfl⟩
  obtain ⟨pieces, any, joined, legible, more⟩ := Text.exists_legible Aggregation.length_scriptLink
    (Aggregation.scriptLink.toList.intercalate facet.names)
  have ofLink : ∀ c ∈ Aggregation.scriptLink.toList, c ≠ fieldMark :=
    fun c hc => ne_of_mem_of_not_mem hc Aggregation.fieldMark_not_mem_scriptLink
  have free : ∀ piece ∈ pieces, ∀ c ∈ piece, c ≠ fieldMark := by
    rw [← Text.forall_mem_intercalate_iff ofLink, joined, Text.forall_mem_intercalate_iff ofLink]
    exact facet.ne_fieldMark_of_mem_names
  have same : (facet.onField (fieldOf pieces)).names = pieces := names_fieldOf any free
  have several' : 2 ≤ (facet.onField (fieldOf pieces)).fields.length := by
    rw [← length_names, same]
    exact more shown
  refine ⟨fieldOf pieces, ?_, several', ?_⟩
  · rw [IsLegible, same]
    exact legible
  · rw [Aggregation.compositeScript_eq_iff (ne_nil_of_several several')
      (ne_nil_of_several several), ← names, ← names, same, joined]

end Facet

namespace Aggregation

/-! ## Scopes of composite facets -/

variable {settings : Settings} {filters : List Filter} {f g : Facet} {a b : Aggregation}

theorem body_termsOf (settings : Settings) (several : 2 ≤ f.fields.length) :
    (termsOf settings f).body =
      .object [("terms", .object
        [("script", .text (compositeScript f.fields)), ("size", .ofNat settings.facetSize)])] := by
  obtain ⟨first, next, rest, all⟩ := Facet.exists_fields several
  rw [termsOf, all]
  rfl

theorem script_of_body_termsOf (several : 2 ≤ f.fields.length) (several' : 2 ≤ g.fields.length)
    (same : (termsOf settings g).body = (termsOf settings f).body) :
    compositeScript g.fields = compositeScript f.fields := by
  rw [body_termsOf settings several, body_termsOf settings several'] at same
  simpa using same

/-- A facet that is no range facet has one aggregation of terms, in the scope of its relation if it is
a nested facet. -/
theorem bucketsOf_of_unranged (settings : Settings) (unranged : f.kind ≠ .range) :
    bucketsOf settings f = .ok (if f.kind = .nested then
      nested f.name f.relation [termsOf settings f] else termsOf settings f) := by
  rw [bucketsOf]
  cases isKind : f.kind with
  | range => exact absurd isKind unranged
  | _ => rfl

theorem field_of_body_bucketsOf (isRange : f.kind = .range) (isRange' : g.kind = .range)
    (made : bucketsOf settings f = .ok a) (made' : bucketsOf settings g = .ok b)
    (same : b.body = a.body) : g.field = f.field := by
  rw [bucketsOf, isRange] at made
  rw [bucketsOf, isRange'] at made'
  obtain ⟨ranges, -, made⟩ := bind_eq_ok_iff.mp made
  obtain ⟨ranges', -, made'⟩ := bind_eq_ok_iff.mp made'
  rw [← pure_eq_ok_iff.mp made, ← pure_eq_ok_iff.mp made', body, body] at same
  simp only [Json.object.injEq, List.cons.injEq, Prod.mk.injEq, Json.text.injEq] at same
  exact same.1.2.1.2

/-- Facets of one kind whose buckets show the same have the same script, and as range facets the same
field. -/
theorem script_of_body_bucketsOf (kind : g.kind = f.kind) (several : 2 ≤ f.fields.length)
    (several' : 2 ≤ g.fields.length) (made : bucketsOf settings f = .ok a)
    (made' : bucketsOf settings g = .ok b) (same : b.body = a.body) :
    (f.kind = .range → g.field = f.field) ∧
      compositeScript g.fields = compositeScript f.fields := by
  by_cases ranged : f.kind = .range
  · have field := field_of_body_bucketsOf ranged (kind.trans ranged) made made' same
    exact ⟨fun _ => field, by rw [Facet.fields, Facet.fields, field]⟩
  · refine ⟨fun isRange => absurd isRange ranged, ?_⟩
    rw [bucketsOf_of_unranged settings ranged] at made
    rw [bucketsOf_of_unranged settings (kind ▸ ranged), kind] at made'
    cases made
    cases made'
    by_cases inside : f.kind = .nested
    · rw [if_pos inside, if_pos inside] at same
      have inner := aggs_of_scopeBody same
      exact script_of_body_termsOf several several' (Prod.mk.inj (List.cons.inj inner).1).2
    · rw [if_neg inside, if_neg inside] at same
      exact script_of_body_termsOf several several' same

/-- What the scope of a facet shows of the facet's buckets. -/
theorem exists_body_facetScope (made : facetScope settings filters f = .ok a) :
    ∃ clause buckets, bucketsOf settings f = .ok buckets ∧
      a.body = scopeBody "filter" clause [(f.name, buckets.body)] := by
  obtain ⟨-, scope, buckets, -, hbuckets, rfl⟩ := facetScope_eq_ok_iff.mp made
  refine ⟨scope.clause.toJson, buckets, hbuckets, ?_⟩
  rw [← bucketsOf_name hbuckets]
  rfl

theorem script_of_body (kind : g.kind = f.kind) (several : 2 ≤ f.fields.length)
    (several' : 2 ≤ g.fields.length) (made : facetScope settings filters f = .ok a)
    (made' : facetScope settings filters g = .ok b) (same : b.body = a.body) :
    (f.kind = .range → g.field = f.field) ∧
      compositeScript g.fields = compositeScript f.fields := by
  obtain ⟨clause, buckets, hbuckets, shown⟩ := exists_body_facetScope made
  obtain ⟨clause', buckets', hbuckets', shown'⟩ := exists_body_facetScope made'
  rw [shown, shown'] at same
  have inner := aggs_of_scopeBody same
  exact script_of_body_bucketsOf kind several several' hbuckets hbuckets'
    (Prod.mk.inj (List.cons.inj inner).1).2

/-- A facet on other fields with the same script shows the same buckets, and as a nested facet too if
the fields are of the same relation. -/
theorem exists_bucketsOf_onField {field : String} (several : 2 ≤ f.fields.length)
    (several' : 2 ≤ (f.onField field).fields.length)
    (same : compositeScript (f.onField field).fields = compositeScript f.fields)
    (unranged : f.kind ≠ .range)
    (inside : f.kind = .nested → (f.onField field).relation = f.relation)
    (made : bucketsOf settings f = .ok a) :
    ∃ b, bucketsOf settings (f.onField field) = .ok b ∧ b.name = a.name ∧ b.body = a.body := by
  have terms : (termsOf settings (f.onField field)).body = (termsOf settings f).body := by
    rw [body_termsOf settings several, body_termsOf settings several', same]
  have kind : (f.onField field).kind = f.kind := rfl
  have named : (termsOf settings (f.onField field)).name = (termsOf settings f).name := rfl
  rw [bucketsOf_of_unranged settings unranged] at made
  cases made
  refine ⟨_, bucketsOf_of_unranged settings unranged, ?_⟩
  rw [kind]
  by_cases isNested : f.kind = .nested
  · rw [if_pos isNested, if_pos isNested]
    refine ⟨rfl, ?_⟩
    rw [body, body, bodies_congr (.cons ⟨named, terms⟩ .nil), inside isNested]
  · rw [if_neg isNested, if_neg isNested]
    exact ⟨named, terms⟩

theorem exists_scope_onField {field : String} (several : 2 ≤ f.fields.length)
    (several' : 2 ≤ (f.onField field).fields.length)
    (same : compositeScript (f.onField field).fields = compositeScript f.fields)
    (unranged : f.kind ≠ .range)
    (inside : f.kind = .nested → (f.onField field).relation = f.relation)
    (made : facetScope settings filters f = .ok a) :
    ∃ b, facetScope settings filters (f.onField field) = .ok b ∧
      b.name = a.name ∧ b.body = a.body := by
  obtain ⟨free, scope, buckets, hscope, hbuckets, rfl⟩ := facetScope_eq_ok_iff.mp made
  obtain ⟨buckets', hbuckets', named, shown⟩ :=
    exists_bucketsOf_onField several several' same unranged inside hbuckets
  refine ⟨_, facetScope_eq_ok_iff.mpr ⟨free, scope, buckets', hscope, hbuckets', rfl⟩, rfl, ?_⟩
  rw [body, body, bodies_congr (.cons ⟨named, shown⟩ .nil)]

end Aggregation

/-! ## Which fields a request is of -/

/-- A query with a composite facet becomes some aggregations. The facet is legible if its field has no
quotes. If the query becomes the same aggregations with another composite facet of that name and kind,
range facets have the same fields, and where the first facet is legible, the two have the same fields
exactly if the other one is legible too. Where it is not legible, and no range facet, there are other
fields, legible ones, with which the query becomes the same aggregations; with a nested facet, if they
are of the same relation. -/
theorem Facet.fields_of_compiled {settings : Settings} {query : Query} {f : Facet} {a : Aggregation}
    (several : 2 ≤ f.fields.length)
    (compiled : Aggregation.ofQuery settings (query.facetBy f) = .ok a) :
    (Aggregation.quote ∉ f.field.toList → f.IsLegible) ∧
    (∀ g b, g.name = f.name → g.kind = f.kind → 2 ≤ g.fields.length →
      Aggregation.ofQuery settings (query.facetBy g) = .ok b → b.toJson = a.toJson →
        (f.kind = .range → g.fields = f.fields) ∧
        (f.IsLegible → (g.fields = f.fields ↔ g.IsLegible))) ∧
    (f.kind ≠ .range → ¬ f.IsLegible → ∃ field, (f.onField field).IsLegible ∧
      2 ≤ (f.onField field).fields.length ∧ (f.onField field).fields ≠ f.fields ∧
      ((f.kind = .nested → (f.onField field).relation = f.relation) →
        ∃ b, Aggregation.ofQuery settings (query.facetBy (f.onField field)) = .ok b ∧
          b.toJson = a.toJson)) := by
  refine ⟨isLegible_of_unquoted, ?_, ?_⟩
  · intro g b named kind several' compiled' same
    obtain ⟨scope, scope', made, made', shown⟩ :=
      Aggregation.exists_scopes_of_same named compiled compiled' same
    obtain ⟨ofRange, script⟩ :=
      Aggregation.script_of_body kind several several' made made' shown
    refine ⟨fun isRange => by rw [fields, fields, ofRange isRange], fun legible => ?_⟩
    constructor
    · intro equal
      rw [IsLegible, names, equal]
      exact legible
    · intro legible'
      exact fields_eq_of_script legible' legible (ne_nil_of_several several')
        (ne_nil_of_several several) script
  · intro unranged illegible
    obtain ⟨field, legible, several', script⟩ := exists_legible_field several
    refine ⟨field, legible, several', ?_, ?_⟩
    · intro equal
      apply illegible
      rw [IsLegible, names, ← equal]
      exact legible
    · intro inside
      have named : (f.onField field).name = f.name := rfl
      refine Aggregation.exists_ofQuery_of_swap named ?_ compiled
      intro scope made
      exact Aggregation.exists_scope_onField several several' script unranged inside made

def brandFacet : Facet where
  name := "model"
  field := "brand|model|size"
  application := .onlyAtLeastOne

/-- The field of two names, of which the first shows the link. -/
def splicedField : String := "brand'].value + \"~~\" + doc['model|size"

/-- Other fields that make the same aggregations as these show the link in some name. -/
theorem Facet.fields_of_compiled_brand :
    2 ≤ brandFacet.fields.length ∧ ∃ a,
      Aggregation.ofQuery {} (Query.matchAll.facetBy brandFacet) = .ok a ∧
      ∀ g b, g.name = brandFacet.name → g.kind = brandFacet.kind → 2 ≤ g.fields.length →
        Aggregation.ofQuery {} (Query.matchAll.facetBy g) = .ok b → b.toJson = a.toJson →
          (g.fields = brandFacet.fields ↔ g.IsLegible) := by
  have several : 2 ≤ brandFacet.fields.length := by decide
  refine ⟨several, _, rfl, ?_⟩
  intro g b named kind several' compiled same
  have made : Aggregation.ofQuery {} (Query.matchAll.facetBy brandFacet) = .ok _ := rfl
  obtain ⟨legible, told, -⟩ := Facet.fields_of_compiled several made
  exact (told g b named kind several' compiled same).2 (legible (by decide))

/-- Two fields, of which the first has a name that shows the link, make the script of three. -/
theorem Facet.script_of_other_fields :
    ∃ a b, Aggregation.ofQuery {} (Query.matchAll.facetBy brandFacet) = .ok a ∧
      Aggregation.ofQuery {} (Query.matchAll.facetBy (brandFacet.onField splicedField)) = .ok b ∧
      b.toJson = a.toJson ∧ 2 ≤ brandFacet.fields.length ∧
      2 ≤ (brandFacet.onField splicedField).fields.length ∧
      (brandFacet.onField splicedField).fields ≠ brandFacet.fields :=
  ⟨_, _, rfl, rfl, rfl, by decide, by decide, by decide⟩

end FacetSearch
