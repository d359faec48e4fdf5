import FacetSearch.Proofs.Ranking
/-!
The counted keys of documents are the first of a ranking.

A ranking lists every key that some document has, once, with the number of documents that have it,
by falling numbers and, where these are equal, by key. That leaves one list only. A terms aggregation
shows as much of it as it has room for.

What is proved:
  1. `mem_keysOf_iff`: the keys of a document, said without lists of keys.
  2. `IsRanking.unique`: documents have at most one ranking.
  3. `isRanking_sorted_tally`: the sorted tally of their keys is a ranking.
  4. `topKeys_eq_take_ranking`: a terms aggregation returns the beginning of the ranking, so that
     what it returns ranks above what it leaves out.
-/

namespace FacetSearch.Aggregation

/-! ## Keys of a document -/

/-- The key is put together from the first terms of the fields, each of which has a term. -/
def HasJoinedKey (fields : List String) (key : String) (document : Json) : Prop :=
  ∃ parts, List.Forall₂ (fun field part => (document.terms field).head? = some part) fields parts ∧
    key = Facet.keySeparator.intercalate parts

/-- The document has the key: every term of one field is a key, and several fields make one key. -/
def HasKey (fields : List String) (key : String) (document : Json) : Prop :=
  match fields with
  | [field] => key ∈ document.terms field
  | _ => HasJoinedKey fields key document

theorem mapM_eq_some_iff {α β : Type} {f : α → Option β} {items : List α} {results : List β} :
    items.mapM f = some results ↔ List.Forall₂ (fun a b => f a = some b) items results := by
  induction items generalizing results with
  | nil => simp [eq_comm]
  | cons a rest ih =>
    rw [List.mapM_cons, List.forall₂_cons_left_iff]
    simp only [Option.bind_eq_bind, Option.bind_eq_some_iff, ih, Option.pure_def,
      Option.some.injEq]
    constructor
    · rintro ⟨b, hb, bs, hbs, rfl⟩
      exact ⟨b, bs, hb, hbs, rfl⟩
    · rintro ⟨b, bs, hb, hbs, rfl⟩
      exact ⟨b, hb, bs, hbs, rfl⟩

theorem mem_keysOf_iff {fields : List String} {key : String} {document : Json} :
    key ∈ keysOf fields document ↔ HasKey fields key document := by
  cases fields with
  | nil => simp [keysOf, HasKey, HasJoinedKey]
  | cons field rest =>
    cases rest with
    | nil => exact List.mem_eraseDups
    | cons second rest =>
      simp only [keysOf, HasKey, HasJoinedKey, ← mapM_eq_some_iff]
      cases (field :: second :: rest).mapM fun field => (document.terms field).head? <;> simp

/-- Several fields make one key, or none where one of them has no term. -/
theorem keysOf_of_several {fields : List String} (several : 2 ≤ fields.length) (document : Json) :
    keysOf fields document =
      ((fields.mapM fun field => (document.terms field).head?).map
        Facet.keySeparator.intercalate).toList := by
  match fields with
  | first :: second :: rest =>
    unfold keysOf
    cases (first :: second :: rest).mapM fun field => (document.terms field).head? <;> rfl

instance (fields : List String) (key : String) (document : Json) :
    Decidable (HasJoinedKey fields key document) :=
  decidable_of_iff
    ((fields.mapM fun field => (document.terms field).head?).map
      Facet.keySeparator.intercalate = some key) <| by
    simp only [HasJoinedKey, ← mapM_eq_some_iff, Option.map_eq_some_iff, eq_comm (a := key)]

theorem hasKey_iff_of_several {fields : List String} (several : 2 ≤ fields.length) {key : String}
    {document : Json} : HasKey fields key document ↔ HasJoinedKey fields key document := by
  match fields with
  | _ :: _ :: _ => rfl

instance (fields : List String) (key : String) (document : Json) :
    Decidable (HasKey fields key document) :=
  decidable_of_iff _ mem_keysOf_iff

/-! ## Rankings -/

/-- The first entry has the greater count, or the smaller key of the same count. -/
def RanksAbove (a b : String × Nat) : Prop := b.2 < a.2 ∨ (a.2 = b.2 ∧ a.1 < b.1)

structure IsRanking (fields : List String) (documents : List Json)
    (ranking : List (String × Nat)) : Prop where
  /-- The keys are those that some document has. -/
  complete : ∀ key, key ∈ ranking.map Prod.fst ↔ ∃ document ∈ documents, HasKey fields key document
  /-- A key comes with the number of documents that have it. -/
  counted : ∀ entry ∈ ranking,
    entry.2 = documents.countP fun document => HasKey fields entry.1 document
  /-- Every entry ranks above all that come later. -/
  ordered : ranking.Pairwise RanksAbove

theorem RanksAbove.irrefl (a : String × Nat) : ¬ RanksAbove a a := by
  rintro (more | ⟨-, before⟩)
  · exact Nat.lt_irrefl _ more
  · exact String.lt_irrefl _ before

theorem RanksAbove.asymm {a b : String × Nat} (hab : RanksAbove a b) : ¬ RanksAbove b a := by
  rintro (more | ⟨same, before⟩)
  · rcases hab with more' | ⟨same', -⟩ <;> omega
  · rcases hab with more' | ⟨-, before'⟩
    · omega
    · exact String.lt_asymm before before'

/-- Entries of different keys that the order of buckets puts first rank above. -/
theorem ranksAbove_of_ranksBefore {a b : String × Nat} (h : ranksBefore a b = true)
    (apart : a.1 ≠ b.1) : RanksAbove a b := by
  rcases ranksBefore_iff.mp h with more | ⟨same, first⟩
  · exact .inl more
  · refine .inr ⟨same, String.not_le.mp fun later => apart (String.le_antisymm first later)⟩

namespace IsRanking

variable {fields : List String} {documents : List Json} {ranking other : List (String × Nat)}

theorem mem_iff (h : IsRanking fields documents ranking) {key : String} {count : Nat} :
    (key, count) ∈ ranking ↔ (∃ document ∈ documents, HasKey fields key document) ∧
      count = documents.countP fun document => HasKey fields key document := by
  rw [← h.complete]
  constructor
  · intro listed
    exact ⟨List.mem_map_of_mem listed, h.counted _ listed⟩
  · rintro ⟨listed, rfl⟩
    obtain ⟨⟨found, times⟩, hfound, rfl⟩ := List.mem_map.mp listed
    have counted := h.counted _ hfound
    rwa [← counted]

theorem nodup (h : IsRanking fields documents ranking) : ranking.Nodup := by
  refine h.ordered.imp fun {a b} above same => ?_
  rw [same] at above
  exact RanksAbove.irrefl b above

/-- Documents have one ranking only. -/
theorem unique (h : IsRanking fields documents ranking) (h' : IsRanking fields documents other) :
    other = ranking := by
  have entries : other.Perm ranking := by
    rw [List.perm_ext_iff_of_nodup h'.nodup h.nodup]
    intro entry
    exact h'.mem_iff.trans h.mem_iff.symm
  exact entries.eq_of_pairwise (fun a b _ _ hab hba => absurd hba hab.asymm) h'.ordered h.ordered

end IsRanking

theorem isRanking_sorted_tally (fields : List String) (documents : List Json) :
    IsRanking fields documents
      (stableSort ranksBefore (tally (documents.flatMap (keysOf fields)))) := by
  have entries := stableSort_perm ranksBefore (tally (documents.flatMap (keysOf fields)))
  refine ⟨?_, ?_, ?_⟩
  · intro key
    rw [(entries.map Prod.fst).mem_iff, mem_keys_tally, List.mem_flatMap]
    simp only [mem_keysOf_iff]
  · intro entry hentry
    have tallied := mem_tally_iff.mp (entries.mem_iff.mp hentry)
    rw [tallied.2, count_keysOf]
    simp only [mem_keysOf_iff]
  · have distinct := (entries.map Prod.fst).nodup_iff.mpr (nodup_tally _)
    have sorted := pairwise_stableSort ranksBefore_total ranksBefore_trans
      (tally (documents.flatMap (keysOf fields)))
    exact List.Pairwise.imp₂ (fun _ _ => ranksAbove_of_ranksBefore) sorted
      (List.pairwise_map.mp distinct)

/-- Documents have one ranking of their keys, and a terms aggregation of any size returns its
beginning, in whatever order the counted keys are taken up. What it returns ranks above what it leaves
out. -/
theorem topKeys_eq_take_ranking (fields : List String) (documents : List Json) :
    ∃ ranking, IsRanking fields documents ranking ∧
      (∀ other, IsRanking fields documents other → other = ranking) ∧
      ∀ size, topKeys fields size documents = ranking.take size ∧
        (∀ name, evaluate documents (.terms name fields size) =
          bucketList ((ranking.take size).map keyBucket)) ∧
        (∀ counts, counts.Perm (tally (documents.flatMap (keysOf fields))) →
          (stableSort ranksBefore counts).take size = ranking.take size) ∧
        ∀ returned ∈ ranking.take size, ∀ omitted ∈ ranking.drop size,
          RanksAbove returned omitted := by
  have ranking := isRanking_sorted_tally fields documents
  refine ⟨_, ranking, fun other h => ranking.unique h, fun size => ⟨rfl, ?_, ?_, ?_⟩⟩
  · intro name
    rw [evaluate]
    rfl
  · intro counts order
    exact topKeys_of_perm fields size (.refl documents) order
  · have parts := ranking.ordered
    rw [← List.take_append_drop size (stableSort _ _), List.pairwise_append] at parts
    exact parts.2.2

-- A document counts once for a value that it repeats, and the smaller of two keys is kept.
example :
    topKeys ["color"] 2
      [.object [("color", .array [.text "red", .text "green", .text "red"])],
       .object [("color", .text "red")], .object [("color", .text "blue")]] =
      [("red", 2), ("blue", 1)] := by
  decide +kernel

end FacetSearch.Aggregation
