import FacetSearch.Json.Basic
/-!
How the values of a filter apply together, and how a facet treats the selection on itself. Three
flags, packed into the bits of one small number where documents hold them.
-/

namespace FacetSearch

/-- A set of the three flags. -/
structure ApplicationType where
  /-- A document has to have all selected values. -/
  mustAll : Bool := false
  /-- One of the selected values is enough. -/
  atLeastOne : Bool := false
  /-- The facet's values form levels, of which only the next one is offered. -/
  levels : Bool := false
  deriving DecidableEq, Repr

namespace ApplicationType

/-- The flag that asks for all values. -/
def onlyMustAll : ApplicationType := { mustAll := true }

/-- The flag that asks for one value. -/
def onlyAtLeastOne : ApplicationType := { atLeastOne := true }

/-- The flag for levels. -/
def onlyLevels : ApplicationType := { levels := true }

/-- The flags as a number: 1, 2 and 4, added up. -/
def bits (t : ApplicationType) : Nat :=
  t.mustAll.toNat + 2 * t.atLeastOne.toNat + 4 * t.levels.toNat

/-- The flags of a number below eight. -/
def ofBits? (n : Nat) : Option ApplicationType :=
  if n < 8 then
    some { mustAll := n % 2 == 1, atLeastOne := n / 2 % 2 == 1, levels := n / 4 == 1 }
  else none

theorem ofBits?_bits (t : ApplicationType) : ofBits? t.bits = some t := by
  obtain ⟨a, b, c⟩ := t
  cases a <;> cases b <;> cases c <;> rfl

/-- What is said of a number that is not a set of flags. -/
def unknownBits (n : Nat) : String := "unknown application type bits: " ++ toString n

def union (s t : ApplicationType) : ApplicationType :=
  ⟨s.mustAll || t.mustAll, s.atLeastOne || t.atLeastOne, s.levels || t.levels⟩

def inter (s t : ApplicationType) : ApplicationType :=
  ⟨s.mustAll && t.mustAll, s.atLeastOne && t.atLeastOne, s.levels && t.levels⟩

/-- The set has all flags of the other one, which has at least one. -/
def contains (s t : ApplicationType) : Bool := t != {} && s.inter t == t

def flagNames (t : ApplicationType) : List String :=
  (if t.mustAll then ["MUST_ALL"] else [])
    ++ (if t.atLeastOne then ["AT_LEAST_ONE"] else [])
    ++ (if t.levels then ["MUST_ALL_WITH_LEVELS"] else [])

/-- The set as diagnostics show it. -/
def describe (t : ApplicationType) : String :=
  "ApplicationType(" ++ " | ".intercalate t.flagNames ++ ")"

/-- The flags as a JSON integer. -/
def toJson (t : ApplicationType) : Json := .ofNat t.bits

/-- A JSON integer below eight. -/
def ofJson? (json : Json) : Option ApplicationType := json.natural?.bind ofBits?

end ApplicationType

end FacetSearch
