import Mathlib.Data.List.Infix
/-!
Texts that are joined by a link of several characters.

A text that is joined of pieces is read from the left, and every link that shows up in it is one
between pieces. A piece spoils that if it holds the link itself; and where the link ends with the
character that it begins with, also if it ends with all of the link but that character, which it then
takes from the link after it.

What is proved:
  1. `Text.eq_of_append_link`: pieces without a link are told apart in what begins with them and the
     link.
  2. `Text.Legible.eq_of_intercalate`: legible pieces are told apart by the text that they are joined
     to.
  3. `Text.exists_legible`: every text is joined of legible pieces.
-/

namespace FacetSearch.Text

/-- Two links that overlap share one character at most. -/
def OverlapsLittle (link : List Char) : Prop :=
  ∀ n < link.length - 1, 0 < n → ¬ link.drop n <+: link

instance (link : List Char) : Decidable (OverlapsLittle link) :=
  inferInstanceAs (Decidable (∀ n < _, _))

/-- No link shows up in the piece where another link follows it. -/
def Unlinked (link piece : List Char) : Prop := ¬ link <:+: piece ++ link.take 1

/-- Joined by links, the pieces show no other links: none but the last shows one before the link that
follows it, and the last shows none. -/
def Legible (link : List Char) (pieces : List (List Char)) : Prop :=
  (∀ piece ∈ pieces, ¬ link <:+: piece) ∧ ∀ piece ∈ pieces.dropLast, Unlinked link piece

instance (link piece : List Char) : Decidable (Unlinked link piece) :=
  inferInstanceAs (Decidable (¬ _))

instance (link : List Char) (pieces : List (List Char)) : Decidable (Legible link pieces) :=
  inferInstanceAs (Decidable (_ ∧ _))

variable {link piece other : List Char} {pieces others : List (List Char)}

/-- What all characters of the link have, all of the joined text have if those of the pieces do. -/
theorem forall_mem_intercalate_iff {p : Char → Prop} (ofLink : ∀ c ∈ link, p c) :
    (∀ c ∈ link.intercalate pieces, p c) ↔ ∀ piece ∈ pieces, ∀ c ∈ piece, p c := by
  induction pieces with
  | nil => simp
  | cons piece rest ih =>
    cases rest with
    | nil => simp
    | cons next later =>
      rw [List.intercalate_cons_cons, List.forall_mem_append, List.forall_mem_append, ih,
        List.forall_mem_cons (a := piece)]
      exact ⟨fun h => ⟨h.1.1, h.2⟩, fun h => ⟨⟨h.1, ofLink⟩, h.2⟩⟩

/-- Where a link follows a piece, so does its first character. -/
theorem append_link_start (piece link rest : List Char) :
    piece ++ link.take 1 <+: piece ++ (link ++ rest) :=
  (List.prefix_append_right_inj piece).mpr
    ((List.take_prefix 1 link).trans (List.prefix_append link rest))

theorem legible_singleton : Legible link [piece] ↔ ¬ link <:+: piece := by
  simp [Legible]

theorem Unlinked.not_shown (h : Unlinked link piece) : ¬ link <:+: piece :=
  fun shown => h (shown.trans (List.prefix_append piece _).isInfix)

theorem legible_cons_cons :
    Legible link (piece :: other :: pieces) ↔
      Unlinked link piece ∧ Legible link (other :: pieces) := by
  have init : (piece :: other :: pieces).dropLast = piece :: (other :: pieces).dropLast := rfl
  rw [Legible, Legible, init, List.forall_mem_cons, List.forall_mem_cons (a := piece)]
  constructor
  · intro h
    obtain ⟨⟨-, frees⟩, unlinked, others⟩ := h
    exact ⟨unlinked, frees, others⟩
  · intro h
    obtain ⟨unlinked, frees, others⟩ := h
    exact ⟨⟨unlinked.not_shown, frees⟩, unlinked, others⟩

/-! ## Telling pieces apart -/

section

variable (little : OverlapsLittle link)
include little

/-- A link that begins before another one ends with it at the latest after its first character. -/
theorem prefix_of_overlap {gap x y : List Char} (shifted : gap ≠ [])
    (h : link ++ x = gap ++ (link ++ y)) : link <+: gap ++ link.take 1 := by
  have first : link <+: gap ++ (link ++ y) := h ▸ List.prefix_append link x
  by_cases inside : gap.length + 1 < link.length
  · -- The links would share more than one character.
    have begins : gap <+: link :=
      List.prefix_of_prefix_length_le (List.prefix_append gap _) first (by omega)
    obtain ⟨rest, rfl⟩ := begins
    rw [List.append_assoc, List.append_cancel_left_eq] at h
    have shared : rest <+: gap ++ rest :=
      List.prefix_of_prefix_length_le (h ▸ List.prefix_append rest x)
        (List.prefix_append (gap ++ rest) y) (by simp)
    have apart := little gap.length (by omega) (List.length_pos_iff.mpr shifted)
    rw [List.drop_left] at apart
    exact absurd shared apart
  · refine List.prefix_of_prefix_length_le first (append_link_start gap link y) ?_
    rw [List.length_append, List.length_take]
    omega

theorem eq_nil_of_overlap {gap x y : List Char} (unlinked : Unlinked link (piece ++ gap))
    (h : link ++ x = gap ++ (link ++ y)) : gap = [] := by
  by_contra shifted
  apply unlinked
  rw [List.append_assoc]
  exact (prefix_of_overlap little shifted h).isInfix.trans (List.suffix_append piece _).isInfix

/-- Pieces without a link are told apart in texts that begin with them and the link. -/
theorem eq_of_append_link {x y : List Char} (first : Unlinked link piece)
    (second : Unlinked link other) (h : piece ++ (link ++ x) = other ++ (link ++ y)) :
    piece = other ∧ x = y := by
  rcases List.append_eq_append_iff.mp h with ⟨gap, rfl, rest⟩ | ⟨gap, rfl, rest⟩
  · cases eq_nil_of_overlap little second rest
    exact ⟨(List.append_nil piece).symm, List.append_cancel_left rest⟩
  · cases eq_nil_of_overlap little first rest
    exact ⟨List.append_nil other, (List.append_cancel_left rest).symm⟩

/-- Legible pieces are told apart by the text that they are joined to. -/
theorem Legible.eq_of_intercalate (h : Legible link pieces) (h' : Legible link others)
    (any : pieces ≠ []) (any' : others ≠ [])
    (same : link.intercalate pieces = link.intercalate others) : pieces = others := by
  induction pieces generalizing others with
  | nil => exact absurd rfl any
  | cons piece rest ih =>
    obtain ⟨other, rest', rfl⟩ := List.exists_cons_of_ne_nil any'
    cases rest with
    | nil =>
      cases rest' with
      | nil => simpa using same
      | cons next later =>
        -- One piece would show the link that stands between the others.
        rw [List.intercalate_singleton, List.intercalate_cons_cons] at same
        refine absurd ?_ (legible_singleton.mp h)
        rw [same]
        exact ⟨other, _, rfl⟩
    | cons next later =>
      cases rest' with
      | nil =>
        rw [List.intercalate_singleton, List.intercalate_cons_cons] at same
        refine absurd ?_ (legible_singleton.mp h')
        rw [← same]
        exact ⟨piece, _, rfl⟩
      | cons next' later' =>
        obtain ⟨unlinked, legible⟩ := legible_cons_cons.mp h
        obtain ⟨unlinked', legible'⟩ := legible_cons_cons.mp h'
        rw [List.intercalate_cons_cons, List.intercalate_cons_cons, List.append_assoc,
          List.append_assoc] at same
        obtain ⟨rfl, rests⟩ := eq_of_append_link little unlinked unlinked' same
        rw [ih legible legible' (List.cons_ne_nil _ _) (List.cons_ne_nil _ _) rests]

end

/-! ## Reading a text -/

section

variable (wide : 1 < link.length)
include wide

/-- The first link of a text comes after a piece without one. -/
theorem exists_first_link {text : List Char} (shown : link <:+: text) :
    ∃ before after, text = before ++ (link ++ after) ∧ Unlinked link before := by
  induction text with
  | nil =>
    have empty := List.eq_nil_of_infix_nil shown
    rw [empty] at wide
    simp at wide
  | cons c rest ih =>
    by_cases here : link <+: c :: rest
    · obtain ⟨after, begins⟩ := here
      refine ⟨[], after, begins.symm, fun early => ?_⟩
      have short := early.length_le
      rw [List.nil_append, List.length_take] at short
      omega
    · have later := (List.infix_cons_iff.mp shown).resolve_left here
      obtain ⟨before, after, rfl, unlinked⟩ := ih later
      refine ⟨c :: before, after, rfl, fun early => ?_⟩
      rcases List.infix_cons_iff.mp early with atOnce | early
      · have begins := append_link_start before link after
        exact here (atOnce.trans ((List.prefix_cons_inj c).mpr begins))
      · exact unlinked early

/-- Every text is joined of legible pieces, and of more than one if it shows a link. -/
theorem exists_legible (text : List Char) :
    ∃ pieces, pieces ≠ [] ∧ link.intercalate pieces = text ∧ Legible link pieces ∧
      (link <:+: text → 2 ≤ pieces.length) := by
  by_cases shown : link <:+: text
  · obtain ⟨before, after, rfl, unlinked⟩ := exists_first_link wide shown
    have shorter : after.length < (before ++ (link ++ after)).length := by
      simp only [List.length_append]
      omega
    obtain ⟨pieces, any, joined, legible, -⟩ := exists_legible after
    obtain ⟨piece, rest, rfl⟩ := List.exists_cons_of_ne_nil any
    refine ⟨before :: piece :: rest, List.cons_ne_nil _ _, ?_,
      legible_cons_cons.mpr ⟨unlinked, legible⟩, by simp⟩
    rw [List.intercalate_cons_cons, joined, List.append_assoc]
  · exact ⟨[text], List.cons_ne_nil _ _, List.intercalate_singleton, legible_singleton.mpr shown,
      fun h => absurd h shown⟩
termination_by text.length

end

end FacetSearch.Text
