import FacetSearch.Json.Basic
import FacetSearch.Numeric.Numeral
/-!
JSON texts as they are written. A literal still holds what no JSON value can: numbers beyond the
finite range, strings with an unpaired surrogate escape, members of one name written twice. Whether
these are errors depends on whether the reader of the text looks at them, so reading the text and
taking values from it are two steps.
-/

namespace FacetSearch

/-- A JSON text, with its numbers and strings evaluated where they have a value. -/
inductive Literal where
  | null
  | bool (value : Bool)
  | number (value : Option Number)
  | text (value : Option String)
  | array (items : List Literal)
  | object (members : List (Option String × Literal))

namespace Literal

/-! ## Blanks, strings and numbers -/

/-- The text after the blanks at its front; JSON knows four of them. -/
def skipBlanks (cs : List Char) : List Char :=
  cs.dropWhile fun c => c = ' ' || c = '\n' || c = '\t' || c = '\r'

/-- What follows the word, if the text begins with it. -/
def afterWord? : List Char → List Char → Option (List Char)
  | [], cs => some cs
  | w :: word, c :: cs => if c = w then afterWord? word cs else none
  | _ :: _, [] => none

def hexValue? (c : Char) : Option Nat :=
  let n := c.toNat
  if 48 ≤ n ∧ n ≤ 57 then some (n - 48)
  else if 97 ≤ n ∧ n ≤ 102 then some (n - 87)
  else if 65 ≤ n ∧ n ≤ 70 then some (n - 55)
  else none

/-- The code unit of a four digit escape. -/
def codeUnit? (a b c d : Char) : Option Nat := do
  let a ← hexValue? a
  let b ← hexValue? b
  let c ← hexValue? c
  let d ← hexValue? d
  return ((a * 16 + b) * 16 + c) * 16 + d

def shortEscape? (c : Char) : Option Char :=
  if c = '"' ∨ c = '\\' ∨ c = '/' then some c
  else if c = 'b' then some '\x08'
  else if c = 'f' then some '\x0c'
  else if c = 'n' then some '\n'
  else if c = 'r' then some '\r'
  else if c = 't' then some '\t'
  else none

/-- The code units up to the closing quote, and the text after it. Control characters stand in a
string only as escapes. -/
def quoted? : List Char → Option (List Nat × List Char)
  | [] => none
  | '"' :: rest => some ([], rest)
  | '\\' :: 'u' :: a :: b :: c :: d :: rest => do
    let unit ← codeUnit? a b c d
    let (units, rest) ← quoted? rest
    return (unit :: units, rest)
  | '\\' :: c :: rest => do
    let c ← shortEscape? c
    let (units, rest) ← quoted? rest
    return (c.toNat :: units, rest)
  | c :: rest =>
    if c.toNat < 32 then none
    else do
      let (units, rest) ← quoted? rest
      return (c.toNat :: units, rest)

/-- The characters of code units; a leading surrogate needs a trailing one right after it. -/
def characters? : List Nat → Option (List Char)
  | [] => some []
  | unit :: rest =>
    if 0xD800 ≤ unit ∧ unit < 0xDC00 then
      match rest with
      | [] => none
      | trail :: rest =>
        if 0xDC00 ≤ trail ∧ trail < 0xE000 then
          (characters? rest).map
            (Char.ofNat (0x10000 + (unit - 0xD800) * 0x400 + (trail - 0xDC00)) :: ·)
        else none
    else if 0xDC00 ≤ unit ∧ unit < 0xE000 then none
    else (characters? rest).map (Char.ofNat unit :: ·)

def string? (units : List Nat) : Option String := (characters? units).map String.ofList

/-- The digits before the point: a single zero, or a run that starts with another digit. -/
def wholeDigits? : List Char → Option (List Char × List Char)
  | '0' :: rest => some (['0'], rest)
  | cs =>
    let (digits, rest) := Numeral.digitRun cs
    if digits.isEmpty then none else some (digits, rest)

/-- The point and the digits after it, if there is a point. -/
def fractionDigits? : List Char → Option (List Char × List Char)
  | '.' :: rest =>
    let (digits, rest) := Numeral.digitRun rest
    if digits.isEmpty then none else some (digits, rest)
  | cs => some ([], cs)

/-- The power of ten, if there is an exponent mark. -/
def powerOfTen? : List Char → Option (Option Int × List Char)
  | c :: rest =>
    if c = 'e' ∨ c = 'E' then
      let (negative, rest) := Numeral.sign rest
      let (digits, rest) := Numeral.digitRun rest
      if digits.isEmpty then none
      else
        let size : Int := Numeral.natural 0 digits
        some (some (if negative then -size else size), rest)
    else some (none, c :: rest)
  | [] => some (none, [])

/-- A binary64 number as a number of a document, unless it is too large for one. -/
def finite? (x : Binary64) : Option Number :=
  if h : x.isFinite = true then some (.real x h) else none

/-- The number of its parts. Without fraction and exponent it is an integer when in range; zero
with a minus sign is not. -/
def numberOf (negative : Bool) (whole fraction : List Char) (power : Option Int) :
    Option Number :=
  let n := Numeral.natural 0 whole
  if fraction.isEmpty ∧ power = none ∧ negative = false ∧ n < UInt64.size then
    some (.integer n)
  else if fraction.isEmpty ∧ power = none ∧ negative = true ∧ 0 < n
      ∧ Int64.minValue.toInt ≤ -n then
    some (.integer (-n))
  else
    let digits := Numeral.natural 0 (whole ++ fraction)
    finite? ((Decimal.mk digits (power.getD 0 - fraction.length)).toBinary64 negative)

/-- A number and the text after it. -/
def number? (cs : List Char) : Option (Option Number × List Char) := do
  let (negative, rest) :=
    match cs with
    | '-' :: rest => (true, rest)
    | _ => (false, cs)
  let (whole, rest) ← wholeDigits? rest
  let (fraction, rest) ← fractionDigits? rest
  let (power, rest) ← powerOfTen? rest
  return (numberOf negative whole fraction power, rest)

/-! ## Values -/

mutual

/-- A value and the text after it. The first argument bounds the steps. -/
def value? : Nat → List Char → Option (Literal × List Char)
  | 0, _ => none
  | steps + 1, cs =>
    match skipBlanks cs with
    | '\x7b' :: rest =>
      match skipBlanks rest with
      | '\x7d' :: rest => some (.object [], rest)
      | _ => (members? steps rest).map fun (members, rest) => (.object members, rest)
    | '[' :: rest =>
      match skipBlanks rest with
      | ']' :: rest => some (.array [], rest)
      | _ => (items? steps rest).map fun (items, rest) => (.array items, rest)
    | '"' :: rest => (quoted? rest).map fun (units, rest) => (.text (string? units), rest)
    | 'n' :: rest => (afterWord? ['u', 'l', 'l'] rest).map fun rest => (.null, rest)
    | 't' :: rest => (afterWord? ['r', 'u', 'e'] rest).map fun rest => (.bool true, rest)
    | 'f' :: rest => (afterWord? ['a', 'l', 's', 'e'] rest).map fun rest => (.bool false, rest)
    | cs => (number? cs).map fun (n, rest) => (.number n, rest)

/-- At least one item, the closing bracket, and the text after it. -/
def items? : Nat → List Char → Option (List Literal × List Char)
  | 0, _ => none
  | steps + 1, cs => do
    let (item, rest) ← value? steps cs
    match skipBlanks rest with
    | ',' :: rest =>
      let (items, rest) ← items? steps rest
      return (item :: items, rest)
    | ']' :: rest => return ([item], rest)
    | _ => none

/-- At least one member, the closing brace, and the text after it. -/
def members? : Nat → List Char → Option (List (Option String × Literal) × List Char)
  | 0, _ => none
  | steps + 1, cs =>
    match skipBlanks cs with
    | '"' :: rest => do
      let (units, rest) ← quoted? rest
      let rest ← afterWord? [':'] (skipBlanks rest)
      let (value, rest) ← value? steps rest
      match skipBlanks rest with
      | ',' :: rest =>
        let (members, rest) ← members? steps rest
        return ((string? units, value) :: members, rest)
      | '\x7d' :: rest => return ([(string? units, value)], rest)
      | _ => none
    | _ => none

end

def ofText? (source : String) : Option Literal := do
  let cs := source.toList
  let (value, rest) ← value? (2 * cs.length + 2) cs
  if (skipBlanks rest).isEmpty then some value else none

end Literal

end FacetSearch
