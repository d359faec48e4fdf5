import FacetSearch.Error
import Mathlib.Data.List.Forall2
/-!
Opening outcomes step by step: a sequence of steps succeeds exactly when every step does, and a
list is worked through exactly when every item is. `FailsFor` says why a computation fails, and
follows the steps of the computation in the same way.
-/

namespace FacetSearch

variable {ε α β : Type}

theorem bind_eq_ok_iff {x : Except ε α} {f : α → Except ε β} {b : β} :
    (x >>= f) = .ok b ↔ ∃ a, x = .ok a ∧ f a = .ok b := by
  cases x with
  | error e => simp [bind, Except.bind]
  | ok a => simp [bind, Except.bind]

theorem pure_eq_ok_iff {a b : α} : (pure a : Except ε α) = .ok b ↔ a = b := by
  simp [pure, Except.pure]

theorem map_eq_ok_iff {x : Except ε α} {g : α → β} {b : β} :
    g <$> x = .ok b ↔ ∃ a, x = .ok a ∧ g a = b := by
  cases x with
  | error e => simp [Functor.map, Except.map]
  | ok a => simp [Functor.map, Except.map]

theorem mapM_eq_ok_iff {f : α → Except ε β} {items : List α} {results : List β} :
    items.mapM f = .ok results ↔ List.Forall₂ (fun a b => f a = .ok b) items results := by
  induction items generalizing results with
  | nil =>
    rw [List.mapM_nil, pure_eq_ok_iff, List.forall₂_nil_left_iff]
    exact eq_comm
  | cons a rest ih =>
    rw [List.mapM_cons, bind_eq_ok_iff, List.forall₂_cons_left_iff]
    constructor
    · intro h
      obtain ⟨b, hb, h⟩ := h
      obtain ⟨bs, hbs, h⟩ := bind_eq_ok_iff.mp h
      exact ⟨b, bs, hb, ih.mp hbs, (pure_eq_ok_iff.mp h).symm⟩
    · intro h
      obtain ⟨b, bs, hb, hbs, rfl⟩ := h
      exact ⟨b, hb, bind_eq_ok_iff.mpr ⟨bs, ih.mpr hbs, rfl⟩⟩

/-- Every item of a list that is worked through has a result. -/
theorem exists_result_of_mem {r : α → β → Prop} {items : List α} {results : List β}
    (h : List.Forall₂ r items results) {a : α} (ha : a ∈ items) : ∃ b ∈ results, r a b := by
  induction h with
  | nil => simp at ha
  | cons hab _ ih =>
    rcases List.mem_cons.mp ha with rfl | ha
    · exact ⟨_, List.mem_cons_self, hab⟩
    · obtain ⟨b, hb, hr⟩ := ih ha
      exact ⟨b, List.mem_cons_of_mem _ hb, hr⟩

/-- If every item has a result, the list is worked through. -/
theorem exists_results {r : α → β → Prop} {items : List α} (h : ∀ a ∈ items, ∃ b, r a b) :
    ∃ results, List.Forall₂ r items results := by
  induction items with
  | nil => exact ⟨[], .nil⟩
  | cons a rest ih =>
    obtain ⟨b, hb⟩ := h a List.mem_cons_self
    obtain ⟨bs, hbs⟩ := ih fun x hx => h x (List.mem_cons_of_mem a hx)
    exact ⟨b :: bs, .cons hb hbs⟩

/-! ## Why a computation fails -/

/-- The computation fails exactly where there is a reason, and its error is one of the reasons. -/
structure FailsFor (reasons : ε → Prop) (x : Except ε α) : Prop where
  reason_of_error : ∀ e, x = .error e → reasons e
  no_reason_of_ok : ∀ a, x = .ok a → ∀ e, ¬ reasons e

namespace FailsFor

variable {reasons later : ε → Prop} {x : Except ε α}

theorem exists_error_iff (h : FailsFor reasons x) : (∃ e, x = .error e) ↔ ∃ e, reasons e := by
  constructor
  · intro failed
    obtain ⟨e, he⟩ := failed
    exact ⟨e, h.reason_of_error e he⟩
  · intro given
    obtain ⟨e, he⟩ := given
    cases outcome : x with
    | error e' => exact ⟨e', rfl⟩
    | ok a => exact absurd he (h.no_reason_of_ok a outcome e)

theorem of_iff (h : FailsFor reasons x) (same : ∀ e, later e ↔ reasons e) : FailsFor later x where
  reason_of_error e he := (same e).mpr (h.reason_of_error e he)
  no_reason_of_ok a ha e he := h.no_reason_of_ok a ha e ((same e).mp he)

/-- The plainest reason is the error itself. -/
theorem itself (x : Except ε α) : FailsFor (fun e => x = .error e) x where
  reason_of_error _ he := he
  no_reason_of_ok a ha e he := by
    rw [ha] at he
    cases he

theorem ok (a : α) : FailsFor (fun _ : ε => False) (.ok a) where
  reason_of_error _ he := by cases he
  no_reason_of_ok _ _ _ := id

theorem bind {f : α → Except ε β} (h : FailsFor reasons x)
    (next : ∀ a, x = .ok a → FailsFor later (f a)) :
    FailsFor (fun e => reasons e ∨ later e) (x >>= f) where
  reason_of_error e he := by
    cases outcome : x with
    | error e' =>
      rw [outcome] at he
      cases he
      exact .inl (h.reason_of_error e outcome)
    | ok a =>
      rw [outcome] at he
      exact .inr ((next a outcome).reason_of_error e he)
  no_reason_of_ok b hb e := by
    obtain ⟨a, ha, hb⟩ := bind_eq_ok_iff.mp hb
    rintro (first | second)
    · exact h.no_reason_of_ok a ha e first
    · exact (next a ha).no_reason_of_ok b hb e second

theorem map (h : FailsFor reasons x) (g : α → β) : FailsFor reasons (g <$> x) where
  reason_of_error e he := by
    cases outcome : x with
    | error e' =>
      rw [outcome] at he
      cases he
      exact h.reason_of_error e outcome
    | ok a =>
      rw [outcome] at he
      cases he
  no_reason_of_ok b hb := by
    obtain ⟨a, ha, -⟩ := map_eq_ok_iff.mp hb
    exact h.no_reason_of_ok a ha

/-- A list is worked through unless there is a reason for one of its items. -/
theorem foldlM {σ : Type} {each : α → ε → Prop} {f : σ → α → Except ε σ} {items : List α}
    (step : ∀ s, ∀ a ∈ items, FailsFor (each a) (f s a)) (s : σ) :
    FailsFor (fun e => ∃ a ∈ items, each a e) (items.foldlM f s) := by
  induction items generalizing s with
  | nil =>
    refine (ok s).of_iff fun e => ?_
    simp
  | cons a rest ih =>
    rw [List.foldlM_cons]
    have first := step s a List.mem_cons_self
    have others := fun next => ih (fun s b hb => step s b (List.mem_cons_of_mem a hb)) next
    refine (first.bind fun next _ => others next).of_iff fun e => ?_
    simp

theorem mapM {each : α → ε → Prop} {f : α → Except ε β} {items : List α}
    (step : ∀ a ∈ items, FailsFor (each a) (f a)) :
    FailsFor (fun e => ∃ a ∈ items, each a e) (items.mapM f) := by
  induction items with
  | nil =>
    rw [List.mapM_nil]
    refine (ok []).of_iff fun e => ?_
    simp
  | cons a rest ih =>
    rw [List.mapM_cons]
    have first := step a List.mem_cons_self
    have others := ih fun b hb => step b (List.mem_cons_of_mem a hb)
    refine (first.bind fun b _ => others.bind fun bs _ => ok (b :: bs)).of_iff fun e => ?_
    simp

end FailsFor

end FacetSearch
