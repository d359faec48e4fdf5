/-!
Sets of code points, kept as sorted ranges that do not touch.
-/

namespace FacetSearch.Text

/-- Ranges of code points, ends included, in ascending order. -/
abbrev CodePointRanges := Array (Nat × Nat)

namespace CodePointRanges

/-- Whether one of the `count` ranges from index `low` on holds the code point; each step halves the
ranges that remain. -/
def search (ranges : CodePointRanges) (n : Nat) : Nat → Nat → Nat → Bool
  | 0, _, _ => false
  | steps + 1, low, count =>
    if count = 0 then false
    else
      let middle := low + count / 2
      match ranges[middle]? with
      | none => false
      | some (first, last) =>
        if n < first then search ranges n steps low (count / 2)
        else if last < n then search ranges n steps (middle + 1) (count - count / 2 - 1)
        else true

def contains (ranges : CodePointRanges) (c : Char) : Bool :=
  search ranges c.toNat (ranges.size + 1) 0 ranges.size

end CodePointRanges

end FacetSearch.Text
