import Mathlib.Data.List.Forall2
import Mathlib.Data.List.Perm.Subperm
import FacetSearch.Proofs.Lookup
/-!
Equality of JSON values as their readers see it.

Objects are equal if they have as many members and each member of the one is found, with an equal
value, in the other, in whatever order they stand. Integers are equal to integers only, and floating
point numbers as numbers, so that the zeros of both signs are one.

What is proved:
  1. `Json.forall₂_of_sameItems`: equal arrays have equal items, place by place.
  2. `Json.rel_findMember?_of_same`: if the one object has no name twice, every name finds equal
     values in both, or nothing in both.
  3. `Json.same_singleton_iff`: objects of one member are equal if the member is.
  4. `Json.same_self_object`: an object without a name twice is equal to itself if its values are.
-/

namespace FacetSearch

/-- The numbers are equal integers, or equal as floating point numbers. -/
def Number.same : Number → Number → Bool
  | integer i, integer j => i == j
  | real x _, real y _ => x.same y
  | _, _ => false

namespace Json

mutual

/-- The values are equal, whatever the order of members and the sign of zero. -/
def same : Json → Json → Bool
  | null, null => true
  | bool a, bool b => a == b
  | number m, number n => m.same n
  | text s, text t => s == t
  | array items, array others => sameItems items others
  | object members, object others =>
    members.length == others.length && sameMembers members others
  | _, _ => false

def sameItems : List Json → List Json → Bool
  | [], [] => true
  | item :: rest, other :: others => item.same other && sameItems rest others
  | _, _ => false

/-- Every member is found with an equal value among the others. -/
def sameMembers : List (String × Json) → List (String × Json) → Bool
  | [], _ => true
  | (name, value) :: rest, others =>
    (match findMember? others name with
      | some other => value.same other
      | none => false) && sameMembers rest others

end

/-! ## Items -/

theorem forall₂_of_sameItems {items others : List Json} (h : sameItems items others = true) :
    List.Forall₂ (fun item other => item.same other = true) items others := by
  induction items generalizing others with
  | nil =>
    cases others with
    | nil => exact .nil
    | cons other others => cases h
  | cons item rest ih =>
    cases others with
    | nil => cases h
    | cons other others =>
      obtain ⟨first, later⟩ := Bool.and_eq_true_iff.mp h
      exact .cons first (ih later)

/-! ## Members -/

theorem sameMembers_iff {members others : List (String × Json)} :
    sameMembers members others = true ↔ ∀ entry ∈ members,
      ∃ other, findMember? others entry.1 = some other ∧ entry.2.same other = true := by
  induction members with
  | nil => simp [sameMembers]
  | cons entry rest ih =>
    rw [sameMembers, Bool.and_eq_true, ih, List.forall_mem_cons]
    cases findMember? others entry.1 <;> simp

/-- In equal objects every name finds equal values, or nothing in both. -/
theorem rel_findMember?_of_same {members others : List (String × Json)}
    (distinct : (members.map Prod.fst).Nodup)
    (h : (object members).same (object others) = true) (name : String) :
    Option.Rel (fun value other => value.same other = true)
      (findMember? members name) (findMember? others name) := by
  obtain ⟨lengths, matched⟩ := Bool.and_eq_true_iff.mp h
  rw [sameMembers_iff] at matched
  cases found : findMember? members name with
  | some value =>
    obtain ⟨other, hother, equal⟩ := matched _ (mem_of_findMember? found)
    rw [hother]
    exact .some equal
  | none =>
    -- As many names, none of them twice on the one side, leave no other name on the other side.
    have part : members.map Prod.fst ⊆ others.map Prod.fst := by
      intro name' hname'
      obtain ⟨entry, hentry, rfl⟩ := List.mem_map.mp hname'
      obtain ⟨other, hother, -⟩ := matched entry hentry
      exact List.mem_map.mpr ⟨_, mem_of_findMember? hother, rfl⟩
    have names : (members.map Prod.fst).Perm (others.map Prod.fst) := by
      apply (List.subperm_of_subset distinct part).perm_of_length_le
      rw [List.length_map, List.length_map]
      exact Nat.le_of_eq (beq_iff_eq.mp lengths).symm
    have absent : name ∉ others.map Prod.fst := by
      rw [← names.mem_iff]
      exact findMember?_eq_none_iff.mp found
    rw [findMember?_eq_none_iff.mpr absent]
    exact .none

theorem same_singleton_iff {name other : String} {value content : Json} :
    (object [(name, value)]).same (object [(other, content)]) = true ↔
      name = other ∧ value.same content = true := by
  by_cases named : other = name
  · subst named
    simp [same, sameMembers, findMember?]
  · simp [same, sameMembers, findMember?, named, Ne.symm named]

/-! ## Values that are equal to themselves -/

theorem same_self_array {items : List Json} (h : ∀ item ∈ items, item.same item = true) :
    (array items).same (array items) = true := by
  induction items with
  | nil => rfl
  | cons item rest ih =>
    obtain ⟨first, later⟩ := List.forall_mem_cons.mp h
    exact Bool.and_eq_true_iff.mpr ⟨first, ih later⟩

/-- An object without a name twice is equal to itself if its values are. -/
theorem same_self_object {members : List (String × Json)}
    (distinct : (members.map Prod.fst).Nodup)
    (h : ∀ entry ∈ members, entry.2.same entry.2 = true) :
    (object members).same (object members) = true := by
  apply Bool.and_eq_true_iff.mpr
  refine ⟨beq_self_eq_true _, sameMembers_iff.mpr ?_⟩
  intro entry hentry
  exact ⟨entry.2, findMember?_of_mem distinct hentry, h entry hentry⟩

end Json

end FacetSearch
