import Mathlib.Data.List.Infix
import FacetSearch.Proofs.TopKeys
/-!
Composite keys and their parts.

A composite key is written with the mark twice between its parts, and is read by cutting it at every
doubled mark, from the left. A part that ends with the mark lends it to the separator after it, so
that the cut comes one place too early; the last part has no separator after it.

What is proved:
  1. `Text.separable_splitAtDouble`: no piece of a text holds a doubled separator, and no piece but
     the last ends with the separator.
  2. `Text.splitAtDouble_joined_iff`: pieces of that kind, and no others, are got back from the text
     that they are joined to.
  3. `Counter.values_of_joined`: so a counter has the parts that its key was made of, exactly if they
     are of that kind.
-/

namespace FacetSearch

namespace Text

variable {sep : Char} {part : List Char} {parts : List (List Char)}

/-- No two separators stand next to each other in the text. -/
def Free (sep : Char) (cs : List Char) : Prop := ¬ [sep, sep] <:+: cs

/-- The pieces can be told apart where they are joined by doubled separators: none of them holds one,
and none but the last ends with half of one. -/
def Separable (sep : Char) (parts : List (List Char)) : Prop :=
  (∀ part ∈ parts, Free sep part) ∧ ∀ part ∈ parts.dropLast, part.getLast? ≠ some sep

theorem free_nil (sep : Char) : Free sep [] := by
  simp [Free]

theorem free_singleton (sep c : Char) : Free sep [c] := by
  simp [Free, List.infix_cons_iff]

theorem free_cons_cons {c d : Char} {rest : List Char} :
    Free sep (c :: d :: rest) ↔ ¬ (c = sep ∧ d = sep) ∧ Free sep (d :: rest) := by
  simp only [Free, List.infix_cons_iff, List.cons_prefix_cons, List.nil_prefix, and_true]
  rw [not_or, eq_comm (a := c), eq_comm (a := d)]

/-! ## Cutting -/

theorem splitAtDouble_of_free (free : Free sep part) : splitAtDouble sep part = [part] := by
  fun_induction splitAtDouble sep part with
  | case1 => rfl
  | case2 => rfl
  | case3 c d rest both => exact absurd both (free_cons_cons.mp free).1
  | case4 c d rest _ ih =>
    rw [ih (free_cons_cons.mp free).2]
    rfl

/-- The first cut comes after a part that neither holds nor begins a doubled separator. -/
theorem cutAtDouble?_append (free : Free sep part) (ends : part.getLast? ≠ some sep)
    (rest : List Char) : cutAtDouble? sep (part ++ sep :: sep :: rest) = some (part, rest) := by
  induction part with
  | nil => simp [cutAtDouble?]
  | cons c later ih =>
    cases later with
    | nil =>
      have other : c ≠ sep := by simpa using ends
      simp [cutAtDouble?, other]
    | cons d later =>
      obtain ⟨apart, free⟩ := free_cons_cons.mp free
      have cut := ih free (by simpa using ends)
      rw [List.cons_append] at cut
      rw [List.cons_append, List.cons_append, cutAtDouble?, if_neg apart, cut]
      rfl

/-- The pieces of a text are what comes before the first cut, and the pieces of what comes after. -/
theorem splitAtDouble_of_cutAtDouble? {cs before after : List Char}
    (cut : cutAtDouble? sep cs = some (before, after)) :
    splitAtDouble sep cs = before :: splitAtDouble sep after := by
  fun_induction cutAtDouble? sep cs generalizing before with
  | case1 => cases cut
  | case2 => cases cut
  | case3 c d rest both =>
    cases cut
    rw [splitAtDouble, if_pos both]
  | case4 c d rest apart ih =>
    obtain ⟨⟨first, _⟩, found, pieces⟩ := Option.map_eq_some_iff.mp cut
    cases pieces
    rw [splitAtDouble, if_neg apart, ih found]
    rfl

theorem splitAtDouble_append (free : Free sep part) (ends : part.getLast? ≠ some sep)
    (rest : List Char) :
    splitAtDouble sep (part ++ sep :: sep :: rest) = part :: splitAtDouble sep rest :=
  splitAtDouble_of_cutAtDouble? (cutAtDouble?_append free ends rest)

/-! ## Pieces -/

/-- The first piece of a text begins as the text does, unless the text begins with a separator. -/
theorem exists_first_splitAtDouble (sep c : Char) (cs : List Char) :
    ∃ piece pieces, splitAtDouble sep (c :: cs) = piece :: pieces ∧
      ((∃ later, piece = c :: later) ∨ (piece = [] ∧ c = sep)) := by
  cases cs with
  | nil => exact ⟨_, _, rfl, .inl ⟨[], rfl⟩⟩
  | cons d rest =>
    rw [splitAtDouble]
    by_cases both : c = sep ∧ d = sep
    · rw [if_pos both]
      exact ⟨_, _, rfl, .inr ⟨rfl, both.1⟩⟩
    · rw [if_neg both]
      obtain ⟨piece, pieces, found⟩ :=
        List.exists_cons_of_ne_nil (splitAtDouble_ne_nil sep (d :: rest))
      rw [found]
      exact ⟨_, _, rfl, .inl ⟨piece, rfl⟩⟩

theorem separable_cons_cons {next : List Char} :
    Separable sep (part :: next :: parts) ↔
      Free sep part ∧ part.getLast? ≠ some sep ∧ Separable sep (next :: parts) := by
  have others : (part :: next :: parts).dropLast = part :: (next :: parts).dropLast := rfl
  rw [Separable, Separable, others, List.forall_mem_cons, List.forall_mem_cons (a := part)]
  constructor
  · rintro ⟨⟨free, frees⟩, ends, allEnd⟩
    exact ⟨free, ends, frees, allEnd⟩
  · rintro ⟨free, ends, frees, allEnd⟩
    exact ⟨⟨free, frees⟩, ends, allEnd⟩

theorem separable_singleton : Separable sep [part] ↔ Free sep part := by
  simp [Separable]

/-- Putting a character in front of the first piece leaves pieces that can be told apart, if it does
not complete a doubled separator. -/
theorem Separable.consFirst {c d : Char} (apart : ¬ (c = sep ∧ d = sep))
    (first : (∃ later, part = d :: later) ∨ (part = [] ∧ d = sep))
    (h : Separable sep (part :: parts)) : Separable sep ((c :: part) :: parts) := by
  have free : Free sep part → Free sep (c :: part) := by
    rcases first with ⟨later, rfl⟩ | ⟨rfl, -⟩
    · exact fun free => free_cons_cons.mpr ⟨apart, free⟩
    · exact fun _ => free_singleton sep c
  cases parts with
  | nil => exact separable_singleton.mpr (free (separable_singleton.mp h))
  | cons next others =>
    obtain ⟨freeFirst, ends, rest⟩ := separable_cons_cons.mp h
    refine separable_cons_cons.mpr ⟨free freeFirst, ?_, rest⟩
    rcases first with ⟨later, rfl⟩ | ⟨rfl, isSep⟩
    · simpa using ends
    · have other : c ≠ sep := fun same => apart ⟨same, isSep⟩
      simpa using other

theorem separable_splitAtDouble (sep : Char) (cs : List Char) :
    Separable sep (splitAtDouble sep cs) := by
  fun_induction splitAtDouble sep cs with
  | case1 => exact separable_singleton.mpr (free_nil sep)
  | case2 c => exact separable_singleton.mpr (free_singleton sep c)
  | case3 c d rest both ih =>
    obtain ⟨piece, pieces, found⟩ := List.exists_cons_of_ne_nil (splitAtDouble_ne_nil sep rest)
    rw [found] at ih ⊢
    exact separable_cons_cons.mpr ⟨free_nil sep, by simp, ih⟩
  | case4 c d rest apart ih =>
    obtain ⟨piece, pieces, found, first⟩ := exists_first_splitAtDouble sep d rest
    rw [found] at ih ⊢
    exact ih.consFirst apart first

/-- Joined pieces are got back exactly if they can be told apart. -/
theorem splitAtDouble_joined_iff (any : parts ≠ []) :
    splitAtDouble sep ([sep, sep].intercalate parts) = parts ↔ Separable sep parts := by
  constructor
  · intro back
    rw [← back]
    exact separable_splitAtDouble sep _
  · intro separable
    induction parts with
    | nil => exact absurd rfl any
    | cons part later ih =>
      cases later with
      | nil => simpa using splitAtDouble_of_free (separable_singleton.mp separable)
      | cons next others =>
        obtain ⟨free, ends, rest⟩ := separable_cons_cons.mp separable
        have joined : [sep, sep].intercalate (part :: next :: others) =
            part ++ sep :: sep :: [sep, sep].intercalate (next :: others) := by
          simp [List.intercalate]
        rw [joined, splitAtDouble_append free ends, ih (List.cons_ne_nil _ _) rest]

end Text

/-! ## Keys -/

namespace Facet

/-- The parts can be told apart in the composite key that they make: none of them holds what stands
between parts, and none but the last ends with the mark. -/
def TellsApart (parts : List String) : Prop :=
  (∀ part ∈ parts, ¬ keySeparator.toList <:+: part.toList) ∧
    ∀ part ∈ parts.dropLast, part.toList.getLast? ≠ some keyMark

instance (parts : List String) : Decidable (TellsApart parts) :=
  inferInstanceAs (Decidable (_ ∧ _))

theorem separable_iff_tellsApart (parts : List String) :
    Text.Separable keyMark (parts.map String.toList) ↔ TellsApart parts := by
  rw [Text.Separable, TellsApart, ← List.map_dropLast, List.forall_mem_map, List.forall_mem_map]
  rfl

end Facet

theorem Text.piecesAtDouble_joined_iff {parts : List String} (any : parts ≠ []) :
    piecesAtDouble Facet.keyMark (Facet.keySeparator.intercalate parts) = parts ↔
      Facet.TellsApart parts := by
  have read : ∀ pieces : List (List Char), pieces.map String.ofList = parts ↔
      pieces = parts.map String.toList := by
    intro pieces
    constructor
    · rintro rfl
      simp
    · rintro rfl
      simp
  rw [piecesAtDouble, read, String.toList_intercalate, ← Facet.separable_iff_tellsApart]
  exact splitAtDouble_joined_iff (by simpa using any)

/-- The first terms of several fields of a document make up its composite key. The counter of that
key, whatever its count and the selection, has these terms as its parts exactly if none of them holds
what stands between parts and none but the last ends with the mark. -/
theorem Counter.values_of_joined {parts : List String} (several : 2 ≤ parts.length) :
    (∀ fields document,
      List.Forall₂ (fun field part => (Json.terms document field).head? = some part) fields parts →
        Aggregation.keysOf fields document = [Facet.keySeparator.intercalate parts]) ∧
    ∀ count applied,
      (Counter.ofKey (Facet.keySeparator.intercalate parts) count applied).values = parts ↔
        Facet.TellsApart parts := by
  have any : parts ≠ [] := by
    rintro rfl
    simp at several
  refine ⟨?_, fun count applied => Text.piecesAtDouble_joined_iff any⟩
  intro fields document first
  rw [← first.length_eq] at several
  rw [Aggregation.keysOf_of_several several, Aggregation.mapM_eq_some_iff.mpr first]
  rfl

theorem Counter.values_of_joined_shirt :
    2 ≤ ["~red", "m~"].length ∧ (Counter.ofKey "~red~~m~" 1 []).values = ["~red", "m~"] := by
  have several : 2 ≤ ["~red", "m~"].length := by decide
  obtain ⟨-, read⟩ := Counter.values_of_joined several
  exact ⟨several, (read 1 []).mpr (by decide)⟩

-- The first part ends with the mark, and the cut comes one place too early.
example : Text.piecesAtDouble Facet.keyMark "red~~~m" = ["red", "~m"] := by decide

end FacetSearch
