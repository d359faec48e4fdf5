import Mathlib.Data.List.Nodup
import FacetSearch.Upsert
/-!
Items that are written one after the other, each over the first one of its key.

After a run of such writes (`writeAll`), the last item that was written under a key stands where the
first item of that key stood; only the first is ever replaced, and what else had the key before stays.

What is proved:
  1. `map_key_writeAll`: keys keep their places, and new ones follow in the order of their arrival.
  2. `itemsOf_writeAll`: what is there under a key is the last item written under it, in place of
     the first one from before.
  3. `filter_writeAll`: items of keys that are not written stay as they are.
  4. `getElem?_writeAll`: what stands at each place of the items from before.
  5. `writeAll_of_nodup`: items of new and different keys come to the end as they are.
-/

namespace FacetSearch

variable {α κ : Type} [DecidableEq κ] (key : α → κ)

def writeAll (items new : List α) : List α :=
  new.foldl (fun items x => upsert (fun y => key y = key x) x items) items

def itemsOf (k : κ) (items : List α) : List α := items.filter fun x => key x = k

def lastOf? (k : κ) (items : List α) : Option α := (itemsOf key k items).getLast?

variable {key} {items new : List α}

theorem lastOf?_cons (k : κ) (x : α) (rest : List α) :
    lastOf? key k (x :: rest) =
      (lastOf? key k rest).or (if key x = k then some x else none) := by
  unfold lastOf? itemsOf
  by_cases own : key x = k
  · rw [if_pos own, List.filter_cons_of_pos (by simpa using own), List.getLast?_cons]
    cases (rest.filter fun y => key y = k).getLast? <;> rfl
  · rw [if_neg own, List.filter_cons_of_neg (by simpa using own), Option.or_none]

theorem mem_of_lastOf? {k : κ} {x : α} (h : lastOf? key k items = some x) :
    x ∈ items ∧ key x = k := by
  obtain ⟨found, own⟩ := List.mem_filter.mp (List.mem_of_getLast? h)
  exact ⟨found, of_decide_eq_true own⟩

theorem lastOf?_eq_none_iff {k : κ} : lastOf? key k items = none ↔ k ∉ items.map key := by
  rw [lastOf?, List.getLast?_eq_none_iff, itemsOf, List.filter_eq_nil_iff]
  simp

theorem exists_lastOf? (key : α → κ) {x : α} (h : x ∈ items) :
    ∃ last, lastOf? key (key x) items = some last := by
  apply Option.ne_none_iff_exists'.mp
  intro none
  exact lastOf?_eq_none_iff.mp none (List.mem_map_of_mem h)

/-! ## One write -/

theorem itemsOf_upsert (k : κ) (item : α) (items : List α) :
    itemsOf key k (upsert (fun y => key y = key item) item items) =
      if key item = k then item :: (itemsOf key k items).tail else itemsOf key k items := by
  unfold itemsOf
  induction items with
  | nil => by_cases own : key item = k <;> simp [upsert, own]
  | cons x rest ih =>
    by_cases same : key x = key item
    · by_cases own : key item = k <;> simp [upsert, same, own]
    · by_cases own : key item = k
      · have other : key x ≠ k := fun h => same (h.trans own.symm)
        simpa [upsert, same, own, other] using ih
      · by_cases found : key x = k
        · have apart : ¬ k = key item := fun h => own h.symm
          simpa [upsert, own, found, apart] using ih
        · simpa [upsert, same, own, found] using ih

theorem filter_upsert {p : α → Bool} {item : α} (h : ∀ y, key y = key item → p y = false)
    (items : List α) :
    (upsert (fun y => key y = key item) item items).filter p = items.filter p := by
  induction items with
  | nil => simp [upsert, h item rfl]
  | cons x rest ih =>
    by_cases same : key x = key item
    · simp [upsert, same, h item rfl, h x same]
    · simp [upsert, same, List.filter_cons, ih]

theorem getElem?_upsert [BEq κ] [LawfulBEq κ] (key : α → κ) (item : α) {i : Nat} {x : α}
    (h : items[i]? = some x) :
    (upsert (fun y => key y = key item) item items)[i]? =
      some (if key x ∈ (items.take i).map key then x
        else if key x = key item then item else x) := by
  induction items generalizing i with
  | nil => simp at h
  | cons y rest ih =>
    cases i with
    | zero =>
      obtain rfl : y = x := by simpa using h
      by_cases same : key y = key item <;> simp [upsert, same]
    | succ i =>
      have h : rest[i]? = some x := by simpa using h
      by_cases same : key y = key item
      · -- The first item is replaced, so that no later one is.
        have kept : key x = key item → key x = key y := fun own => own.trans same.symm
        by_cases own : key x = key item
        · simp [upsert, same, h, own]
        · simp [upsert, same, h, own]
      · by_cases own : key x = key y
        · have apart : key x ≠ key item := fun e => same (own.symm.trans e)
          simp [upsert, same, ih h, own]
        · simp [upsert, same, ih h, own]

/-- A write does not move the items before it. -/
theorem map_key_take_upsert (key : α → κ) (item : α) (items : List α) {i : Nat}
    (h : i ≤ items.length) :
    ((upsert (fun y => key y = key item) item items).take i).map key =
      (items.take i).map key := by
  rw [List.map_take, List.map_take]
  by_cases known : key item ∈ items.map key
  · rw [map_upsert_of_mem key item items known]
  · rw [upsert_of_not_mem key item items known, List.map_append,
      List.take_append_of_le_length (by rwa [List.length_map])]

theorem mem_of_mem_upsert {same : α → Bool} {item x : α} (h : x ∈ upsert same item items) :
    x = item ∨ x ∈ items := by
  induction items with
  | nil => exact .inl (List.mem_singleton.mp h)
  | cons y rest ih =>
    unfold upsert at h
    split at h
    · rcases List.mem_cons.mp h with rfl | later
      · exact .inl rfl
      · exact .inr (List.mem_cons_of_mem y later)
    · rcases List.mem_cons.mp h with rfl | later
      · exact .inr List.mem_cons_self
      · exact (ih later).imp_right (List.mem_cons_of_mem y)

/-! ## Runs of writes -/

theorem writeAll_cons (items : List α) (x : α) (rest : List α) :
    writeAll key items (x :: rest) =
      writeAll key (upsert (fun y => key y = key x) x items) rest := rfl

theorem map_key_writeAll [BEq κ] [LawfulBEq κ] (items new : List α) :
    (writeAll key items new).map key =
      items.map key ++ ((new.map key).filter fun k => k ∉ items.map key).eraseDups := by
  induction new generalizing items with
  | nil => simp [writeAll]
  | cons x rest ih =>
    rw [writeAll_cons, ih, List.map_cons]
    by_cases known : key x ∈ items.map key
    · rw [map_upsert_of_mem key x items known, List.filter_cons_of_neg (by simpa using known)]
    · rw [upsert_of_not_mem key x items known, List.filter_cons_of_pos (by simpa using known),
        List.eraseDups_cons, List.filter_filter, List.map_append, List.append_assoc]
      have later : ∀ k, decide (k ∉ items.map key ++ [x].map key) =
          ((!k == key x) && decide (k ∉ items.map key)) := by
        intro k
        by_cases own : k = key x <;> simp [own]
      simp only [later]
      rfl

theorem itemsOf_writeAll (key : α → κ) (k : κ) (items new : List α) :
    itemsOf key k (writeAll key items new) =
      match lastOf? key k new with
      | none => itemsOf key k items
      | some last => last :: (itemsOf key k items).tail := by
  induction new generalizing items with
  | nil => rfl
  | cons x rest ih =>
    have step := ih (upsert (fun y => key y = key x) x items)
    rw [itemsOf_upsert] at step
    rw [lastOf?_cons]
    refine Eq.trans step ?_
    cases lastOf? key k rest with
    | none => by_cases own : key x = k <;> simp [own]
    | some last => by_cases own : key x = k <;> simp [own]

theorem filter_writeAll {p : α → Bool} (h : ∀ x ∈ new, ∀ y, key y = key x → p y = false)
    (items : List α) : (writeAll key items new).filter p = items.filter p := by
  induction new generalizing items with
  | nil => rfl
  | cons x rest ih =>
    rw [← filter_upsert (h x List.mem_cons_self) items]
    exact ih (fun y hy => h y (List.mem_cons_of_mem x hy)) _

theorem getElem?_writeAll [BEq κ] [LawfulBEq κ] {i : Nat} {x : α} (h : items[i]? = some x)
    (new : List α) :
    (writeAll key items new)[i]? =
      some (if key x ∈ (items.take i).map key then x else (lastOf? key (key x) new).getD x) := by
  induction new generalizing items x with
  | nil =>
    rw [writeAll, List.foldl_nil, h]
    simp [lastOf?, itemsOf]
  | cons y rest ih =>
    obtain ⟨inside, -⟩ := List.getElem?_eq_some_iff.mp h
    have before := map_key_take_upsert key y items (Nat.le_of_lt inside)
    have first := getElem?_upsert key y h
    rw [writeAll_cons, lastOf?_cons]
    by_cases taken : key x ∈ (items.take i).map key
    · rw [if_pos taken] at first ⊢
      rw [ih first, before, if_pos taken]
    · rw [if_neg taken] at first ⊢
      by_cases own : key x = key y
      · rw [if_pos own] at first
        rw [ih first, before, ← own, if_neg taken, if_pos rfl]
        cases lastOf? key (key x) rest <;> rfl
      · rw [if_neg own] at first
        rw [ih first, before, if_neg taken, if_neg (Ne.symm own), Option.or_none]

theorem writeAll_of_nodup (distinct : ((items ++ new).map key).Nodup) :
    writeAll key items new = items ++ new := by
  induction new generalizing items with
  | nil => exact (List.append_nil items).symm
  | cons x rest ih =>
    have fresh : key x ∉ items.map key := by
      rw [List.map_append, List.map_cons] at distinct
      intro known
      exact (List.nodup_append.mp distinct).2.2 _ known _ List.mem_cons_self rfl
    have split : items ++ x :: rest = (items ++ [x]) ++ rest := by rw [List.append_assoc]; rfl
    rw [split] at distinct ⊢
    rw [← ih distinct, ← upsert_of_not_mem key x items fresh]
    rfl

theorem nodup_writeAll (distinct : (items.map key).Nodup) (new : List α) :
    ((writeAll key items new).map key).Nodup := by
  induction new generalizing items with
  | nil => exact distinct
  | cons x rest ih => exact ih (nodup_map_upsert key x items distinct)

theorem mem_of_mem_writeAll {x : α} (h : x ∈ writeAll key items new) : x ∈ items ∨ x ∈ new := by
  induction new generalizing items with
  | nil => exact .inl h
  | cons y rest ih =>
    rcases ih h with before | later
    · rcases mem_of_mem_upsert before with rfl | before
      · exact .inr List.mem_cons_self
      · exact .inl before
    · exact .inr (List.mem_cons_of_mem y later)

end FacetSearch
