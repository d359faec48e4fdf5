import FacetSearch.Numeric.Decimal
/-!
Reading numbers that stand alone in a text: an optional sign, digits with an optional point before,
between or after them, an optional power of ten, or one of the words for infinity and not-a-number
in any mixture of cases.
-/

namespace FacetSearch.Numeral

/-- The number that a run of decimal digits spells, after `n`. -/
def natural (n : Nat) : List Char → Nat
  | [] => n
  | c :: rest => natural (10 * n + (c.toNat - '0'.toNat)) rest

/-- The digits at the front of a text, and what follows them. -/
def digitRun (cs : List Char) : List Char × List Char :=
  (cs.takeWhile Char.isDigit, cs.dropWhile Char.isDigit)

/-- Whether a text starts with a minus sign, and the text after its optional sign. -/
def sign : List Char → Bool × List Char
  | '-' :: rest => (true, rest)
  | '+' :: rest => (false, rest)
  | cs => (false, cs)

/-- The power of ten at the end of a numeral: nothing, or a mark and a signed run of digits. -/
def powerOfTen? : List Char → Option Int
  | [] => some 0
  | c :: rest =>
    if c = 'e' ∨ c = 'E' then
      let (negative, digits) := sign rest
      if digits.isEmpty ∨ digits.any (fun d => !d.isDigit) then none
      else if negative then some (-(natural 0 digits : Int)) else some (natural 0 digits)
    else none

/-- An unsigned decimal numeral; at least one digit stands before or after the point. -/
def decimal? (cs : List Char) : Option Decimal :=
  let (whole, rest) := digitRun cs
  let (fraction, rest) :=
    match rest with
    | '.' :: tail => digitRun tail
    | _ => ([], rest)
  if whole.isEmpty ∧ fraction.isEmpty then none
  else
    (powerOfTen? rest).map fun exponent =>
      ⟨natural 0 (whole ++ fraction), exponent - fraction.length⟩

/-- The number a text spells, with nothing before or after it. -/
def binary64? (cs : List Char) : Option Binary64 :=
  let (negative, rest) := sign cs
  let word := String.ofList (rest.map Char.toLower)
  if word = "inf" ∨ word = "infinity" then some (Binary64.infinity negative)
  else if word = "nan" then some .nan
  else (decimal? rest).map fun d => d.toBinary64 negative

/-- The unsigned 32-bit number a text spells: digits after an optional plus sign. -/
def uint32? (cs : List Char) : Option UInt32 :=
  let digits :=
    match cs with
    | '+' :: rest => rest
    | _ => cs
  if digits.isEmpty ∨ digits.any (fun d => !d.isDigit) then none
  else
    let n := natural 0 digits
    if h : n < UInt32.size then some (UInt32.ofNatLT n h) else none

end FacetSearch.Numeral
