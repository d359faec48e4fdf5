import FacetSearch.Store
import FacetSearch.Proofs.Upserts
/-!
Documents that are indexed one after the other.

Documents are told apart by identifier and type together (`Document.identity`). Indexing writes a
document over the first one of its identity. A store may be created with any list of documents, and
nothing removes copies of one identity there: where there are several, only the first is replaced.

What is proved:
  1. `Store.documents_indexAll`: a run of indexing is a run of writes by identity.
  2. `Store.indexed_once`: after any run, what the store holds of an indexed identity is the document
     indexed last, in the place of the first one from before, and it holds nothing else of it exactly
     if it was not created with copies; all other documents stay as they were.
-/

namespace FacetSearch

/-- What tells documents apart. -/
def Document.identity (document : Document) : String × String := (document.id, document.type)

namespace Store

def indexAll (store : Store) (documents : List Document) : Store := documents.foldl index store

theorem documents_index (store : Store) (document : Document) :
    (store.index document).documents =
      upsert (fun d => d.identity = document.identity) document store.documents := by
  have same : (fun d : Document => decide (d.id = document.id) && decide (d.type = document.type)) =
      fun d => decide (d.identity = document.identity) := by
    funext d
    simp [Document.identity]
  rw [index, same]

theorem documents_indexAll (store : Store) (documents : List Document) :
    (store.indexAll documents).documents =
      writeAll Document.identity store.documents documents := by
  induction documents generalizing store with
  | nil => rfl
  | cons document rest ih =>
    rw [writeAll_cons, ← documents_index]
    exact ih (store.index document)

/-- After a run of indexing,
  * of an indexed identity there is the document that was indexed last, and besides it all but the
    first of those that the store was created with, so nothing else exactly if that was at most one;
  * the documents of other identities are those from before, in their order;
  * every document stands where it stood, but the first of an indexed identity has given its place
    to the one indexed last;
  * new identities follow in the order in which they were first indexed. -/
theorem indexed_once (created indexed : List Document) :
    let stored := (indexAll ⟨created⟩ indexed).documents
    (∀ document ∈ indexed, ∃ last,
      lastOf? Document.identity document.identity indexed = some last ∧
      itemsOf Document.identity document.identity stored =
        last :: (itemsOf Document.identity document.identity created).tail ∧
      (itemsOf Document.identity document.identity stored = [last] ↔
        (itemsOf Document.identity document.identity created).length ≤ 1)) ∧
    stored.filter (fun d => d.identity ∉ indexed.map Document.identity) =
      created.filter (fun d => d.identity ∉ indexed.map Document.identity) ∧
    (∀ i document, created[i]? = some document →
      stored[i]? = some
        (if document.identity ∈ (created.take i).map Document.identity then document
          else (lastOf? Document.identity document.identity indexed).getD document)) ∧
    stored.map Document.identity =
      created.map Document.identity ++
        ((indexed.map Document.identity).filter
          fun k => k ∉ created.map Document.identity).eraseDups := by
  intro stored
  have written : stored = writeAll Document.identity created indexed :=
    documents_indexAll ⟨created⟩ indexed
  rw [written]
  refine ⟨?_, ?_, ?_, map_key_writeAll created indexed⟩
  · intro document hdocument
    obtain ⟨last, hlast⟩ := exists_lastOf? Document.identity hdocument
    have left := itemsOf_writeAll Document.identity document.identity created indexed
    rw [hlast] at left
    refine ⟨last, hlast, left, ?_⟩
    rw [left]
    cases itemsOf Document.identity document.identity created with
    | nil => simp
    | cons first others => simp
  · apply filter_writeAll
    intro document hdocument other same
    have known : other.identity ∈ indexed.map Document.identity := by
      rw [same]
      exact List.mem_map_of_mem hdocument
    exact decide_eq_false (not_not_intro known)
  · intro i document h
    exact getElem?_writeAll h indexed

def phone (color : String) : Document where
  id := "p1"
  type := "product"
  source := [("color", .text color)]

theorem indexed_once_phone :
    let stored := (indexAll ⟨[phone "red"]⟩ [phone "green", phone "blue"]).documents
    itemsOf Document.identity (phone "green").identity stored = [phone "blue"] ∧
      stored[0]? = some (phone "blue") := by
  obtain ⟨once, -, places, -⟩ := indexed_once [phone "red"] [phone "green", phone "blue"]
  obtain ⟨last, hlast, -, alone⟩ := once (phone "green") List.mem_cons_self
  cases hlast
  exact ⟨alone.mpr (Nat.le_refl 1), places 0 (phone "red") rfl⟩

/-- A store that was created with two copies of a phone keeps one of them when the phone is indexed
once more. -/
theorem copy_of_indexed :
    let stored := (indexAll ⟨[phone "red", phone "red"]⟩ [phone "green"]).documents
    stored = [phone "green", phone "red"] ∧
      (itemsOf Document.identity (phone "green").identity stored).length = 2 :=
  ⟨rfl, rfl⟩

end Store

end FacetSearch
