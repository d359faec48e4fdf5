/-!
Computing with numbers of a fixed width. A sum that leaves its type starts again at the least number
of the type. A run that checks its sums stops at the first one that does; a run that does not goes on
with what it has. What is computed is therefore kept together with whether some sum left its type.
-/

namespace FacetSearch

@[ext] structure Checked (α : Type) where
  /-- What comes of the computation unless it stops. -/
  value : α
  /-- Some sum left its type, so that a run that checks its sums stops. -/
  overflows : Bool := false
  deriving DecidableEq, Repr

namespace Checked

variable {α β σ : Type}

instance : Monad Checked where
  pure a := { value := a }
  bind c next := ⟨(next c.value).value, c.overflows || (next c.value).overflows⟩

@[simp] theorem value_pure (a : α) : (pure a : Checked α).value = a := rfl

@[simp] theorem overflows_pure (a : α) : (pure a : Checked α).overflows = false := rfl

@[simp] theorem value_bind (c : Checked α) (next : α → Checked β) :
    (c >>= next).value = (next c.value).value :=
  rfl

@[simp] theorem overflows_bind (c : Checked α) (next : α → Checked β) :
    (c >>= next).overflows = (c.overflows || (next c.value).overflows) :=
  rfl

@[simp] theorem value_map (f : α → β) (c : Checked α) : (f <$> c).value = f c.value := rfl

@[simp] theorem overflows_map (f : α → β) (c : Checked α) : (f <$> c).overflows = c.overflows :=
  Bool.or_false _

instance : LawfulMonad Checked :=
  .mk' Checked (fun c => Checked.ext rfl (overflows_map id c))
    (fun a next => Checked.ext rfl (Bool.false_or _))
    (fun c _ _ => Checked.ext rfl (Bool.or_assoc c.overflows _ _))

/-- What comes of a run that checks its sums, if it does not stop. -/
def result? (c : Checked α) : Option α := if c.overflows then none else some c.value

theorem result?_eq_some_iff {c : Checked α} {a : α} : c.result? = some a ↔ c = pure a := by
  obtain ⟨value, overflows⟩ := c
  cases overflows <;> simp [result?, pure]

theorem result?_eq_none_iff {c : Checked α} : c.result? = none ↔ c.overflows = true := by
  obtain ⟨value, overflows⟩ := c
  cases overflows <;> simp [result?]

theorem eq_pure_iff {c : Checked α} {a : α} : c = pure a ↔ c.overflows = false ∧ c.value = a := by
  rw [Checked.ext_iff, and_comm]
  rfl

/-! ## Sums -/

/-- The 32-bit number after another one. -/
def next (n : UInt32) : Checked UInt32 where
  value := n + 1
  overflows := decide (n.toNat + 1 = UInt32.size)

/-- The sum of two 64-bit numbers with a sign. -/
def add (a b : Int64) : Checked Int64 where
  value := a + b
  overflows := decide ((a + b).toInt ≠ a.toInt + b.toInt)

/-- A sum of 64-bit numbers without a sign, which grows with each of them. -/
def total (sum : Nat) : Checked Nat where
  value := sum % UInt64.size
  overflows := decide (UInt64.size ≤ sum)

theorem total_of_lt {sum : Nat} (small : sum < UInt64.size) : total sum = pure sum := by
  refine Checked.ext (Nat.mod_eq_of_lt small) ?_
  exact decide_eq_false (Nat.not_le.mpr small)

/-! ## Lists -/

/-- The items that stay, each of which is asked in turn. -/
def filter (stays : α → Checked Bool) : List α → Checked (List α)
  | [] => pure []
  | item :: rest => do
    let kept ← stays item
    let others ← filter stays rest
    return if kept then item :: others else others

theorem value_filter (stays : α → Checked Bool) (items : List α) :
    (filter stays items).value = items.filter fun item => (stays item).value := by
  induction items with
  | nil => rfl
  | cons item rest ih => simp [filter, ih, List.filter_cons]

theorem overflows_filter (stays : α → Checked Bool) (items : List α) :
    (filter stays items).overflows = items.any fun item => (stays item).overflows := by
  induction items with
  | nil => rfl
  | cons item rest ih => simp [filter, ih]

/-- Where the state does not decide on it, some step overflows exactly if some item makes one. -/
theorem overflows_foldlM {step : σ → α → Checked σ} {fails : α → Bool}
    (h : ∀ s item, (step s item).overflows = fails item) (start : σ) (items : List α) :
    (items.foldlM step start).overflows = items.any fails := by
  induction items generalizing start with
  | nil => rfl
  | cons item rest ih =>
    rw [List.foldlM_cons, overflows_bind, List.any_cons, h, ih]

end Checked

end FacetSearch
