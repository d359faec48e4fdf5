import FacetSearch.Proofs.Bounds
import FacetSearch.Proofs.CompositeKeys
import FacetSearch.Proofs.NumberText
/-!
Ranges and the tokens that they are written as.

A token is cut at its first two dots, and the dot is the decimal point as well. So a token is cut
between its bounds only because no number is written with two points or with a point at its end.
Both bounds are then read on their own: neither is trimmed, and neither is taken for an open one.

What is proved:
  1. `Binary64.free_text`, `Binary64.getLast?_text_ne`: a number neither holds nor begins the two
     dots of a token.
  2. `bound_text`: the bound that a finite number is written as is read as that number.
  3. `tokens_round_trip`: ranges with finite bounds are read back from their tokens, and so is every
     range that was read from a token.
-/

namespace FacetSearch

namespace Text

variable {sep : Char} {part : List Char}

/-- A text that holds the separator once at most holds no doubled one. -/
theorem free_of_count_le (once : part.count sep ≤ 1) : Free sep part := by
  intro doubled
  have two := doubled.sublist.count_le sep
  simp only [List.count_cons_self, List.count_nil] at two
  omega

theorem isBlank_of_isDigit {c : Char} (h : c.isDigit = true) : isBlank c = false := by
  simp only [Char.isDigit, Bool.and_eq_true, decide_eq_true_eq, ge_iff_le,
    UInt32.le_iff_toNat_le] at h
  have zero : '0'.val.toNat = 48 := rfl
  have nine : '9'.val.toNat = 57 := rfl
  have code : c.toNat = c.val.toNat := rfl
  simp only [isBlank, code, Bool.or_eq_false_iff, Bool.and_eq_false_iff, decide_eq_false_iff_not,
    beq_eq_false_iff_ne]
  omega

theorem trim_of_forall {cs : List Char} (none : ∀ c ∈ cs, isBlank c = false) : trim cs = cs := by
  have kept : ∀ ds : List Char, (∀ c ∈ ds, c ∈ cs) → ds.dropWhile isBlank = ds := by
    intro ds among
    cases ds with
    | nil => rfl
    | cons d rest => exact List.dropWhile_cons_of_neg (by simp [none d (among d (by simp))])
  rw [trim, trimBy, kept cs fun c hc => hc, kept cs.reverse fun c hc => List.mem_reverse.mp hc,
    List.reverse_reverse]

end Text

namespace Binary64

variable {x : Binary64}

theorem text_ne_nil (finite : x.isFinite = true) : (x.text .plain).toList ≠ [] := by
  obtain ⟨negative, cs, whole, fraction, text, plain, -⟩ := exists_isPlain_text finite
  obtain ⟨c, rest, rfl, -⟩ := plain.exists_cons
  rw [text]
  exact List.append_ne_nil_of_right_ne_nil _ (List.cons_ne_nil c rest)

theorem eq_or_isDigit_of_mem_text (finite : x.isFinite = true) :
    ∀ c ∈ (x.text .plain).toList, c = '-' ∨ c = '.' ∨ c.isDigit = true := by
  intro c h
  obtain ⟨negative, cs, whole, fraction, text, plain, -⟩ := exists_isPlain_text finite
  rw [text] at h
  rcases List.mem_append.mp h with sign | among
  · cases negative with
    | true => exact .inl (List.mem_singleton.mp sign)
    | false => cases sign
  · exact .inr (plain.isDigit_or_of_mem among).symm

/-- A number is written with one point at most. -/
theorem free_text (finite : x.isFinite = true) : Text.Free '.' (x.text .plain).toList := by
  obtain ⟨negative, cs, whole, fraction, text, plain, -⟩ := exists_isPlain_text finite
  have unsigned : (if negative then ['-'] else []).count '.' = 0 := by cases negative <;> rfl
  apply Text.free_of_count_le
  rw [text, List.count_append, unsigned, Nat.zero_add]
  exact plain.count_point_le

/-- A number is not written with a point at its end. -/
theorem getLast?_text_ne (finite : x.isFinite = true) :
    (x.text .plain).toList.getLast? ≠ some '.' := by
  obtain ⟨negative, cs, whole, fraction, text, plain, -⟩ := exists_isPlain_text finite
  obtain ⟨c, rest, rfl, -⟩ := plain.exists_cons
  rw [text, List.getLast?_append_of_ne_nil _ (List.cons_ne_nil _ _)]
  exact plain.getLast?_ne_point

end Binary64

namespace Range

def IsFinite (range : Range) : Prop :=
  range.low.isFinite = true ∧ ∀ high ∈ range.high, high.isFinite = true

instance : DecidablePred IsFinite := fun range => by
  unfold IsFinite
  infer_instance

/-- The bound that a finite number is written as is read as that number. -/
theorem bound_text {x : Binary64} (finite : x.isFinite = true) (token : String) (side : BoundSide) :
    bound token side (x.text .plain).toList = .ok (some x) := by
  have spelt := Binary64.eq_or_isDigit_of_mem_text finite
  have trimmed : Text.trim (x.text .plain).toList = (x.text .plain).toList := by
    apply Text.trim_of_forall
    intro c hc
    rcases spelt c hc with rfl | rfl | digit
    · rfl
    · rfl
    · exact Text.isBlank_of_isDigit digit
  have closed : ¬ ((x.text .plain).toList = [] ∨ (x.text .plain).toList = ['*']) := by
    rintro (empty | star)
    · exact Binary64.text_ne_nil finite empty
    · rw [star] at spelt
      exact absurd (spelt '*' (List.mem_singleton_self _)) (by decide)
  unfold bound
  rw [trimmed]
  dsimp only
  rw [if_neg closed, Binary64.binary64?_text finite]
  exact if_pos finite

theorem decode_encode {range : Range} (finite : range.IsFinite) :
    decode range.encode = .ok range := by
  obtain ⟨low, high⟩ := range
  obtain ⟨finiteLow, finiteHigh⟩ := finite
  have written : (encode ⟨low, high⟩).toList =
      (low.text .plain).toList ++ '.' :: '.' :: ((high.map (·.text .plain)).getD "").toList := by
    simp [encode]
  have cut := Text.cutAtDouble?_append (Binary64.free_text finiteLow)
    (Binary64.getLast?_text_ne finiteLow) ((high.map (·.text .plain)).getD "").toList
  have above (token : String) :
      bound token .upper ((high.map (·.text .plain)).getD "").toList = .ok high := by
    cases high with
    | none => rfl
    | some x => exact bound_text (finiteHigh x rfl) token .upper
  unfold decode
  rw [written, cut]
  dsimp only
  rw [bound_text finiteLow, above]
  rfl

theorem same_self {range : Range} (finite : range.IsFinite) : range.same range = true := by
  have self : ∀ {x : Binary64}, x.isFinite = true → x.same x = true :=
    fun finite => Binary64.same_self (Bounds.ne_nan_of_isFinite finite)
  obtain ⟨low, high⟩ := range
  obtain ⟨finiteLow, finiteHigh⟩ := finite
  rw [same, self finiteLow, Bool.true_and]
  cases high with
  | none => rfl
  | some x => exact self (finiteHigh x rfl)

/-- A range with finite bounds, of any sign and with or without an end, is read back from its token.
So reading a token, writing the range and reading that again gives the first range. -/
theorem tokens_round_trip :
    (∀ range : Range, range.IsFinite →
      decode range.encode = .ok range ∧ range.roundTrips = true) ∧
    ∀ token range, decode token = .ok range →
      decode range.encode = .ok range ∧ range.roundTrips = true := by
  have all : ∀ range : Range, range.IsFinite →
      decode range.encode = .ok range ∧ range.roundTrips = true := by
    intro range finite
    have read := decode_encode finite
    refine ⟨read, ?_⟩
    rw [roundTrips, read]
    exact same_self finite
  exact ⟨all, fun token range decoded => all range (isFinite_of_decode decoded)⟩

/-- A negative lower bound and an end below one; and a token that is read with blanks around it and
written without them. -/
theorem tokens_round_trip_mixed :
    let range : Range :=
      { low := (⟨125, -1⟩ : Decimal).toBinary64 true
        high := some ((⟨1, -1⟩ : Decimal).toBinary64 false) }
    range.encode = "-12.5..0.1" ∧ decode range.encode = .ok range ∧ range.roundTrips = true ∧
      decode " 1e3 ..*" = .ok ⟨Binary64.ofInt 1000, none⟩ ∧
        decode (⟨Binary64.ofInt 1000, none⟩ : Range).encode = .ok ⟨Binary64.ofInt 1000, none⟩ := by
  intro range
  have read : decode " 1e3 ..*" = .ok ⟨Binary64.ofInt 1000, none⟩ := by decide +kernel
  obtain ⟨again, same⟩ := tokens_round_trip.1 range (by decide +kernel)
  exact ⟨by decide +kernel, again, same, read, (tokens_round_trip.2 _ _ read).1⟩

/-- An infinite end is written as a word that is refused. -/
example : decode (⟨.zero, some (.infinity false)⟩ : Range).encode =
    .error (.malformedRange "0..inf" (.notNumeric .upper "inf")) := by
  decide +kernel

end Range

end FacetSearch
