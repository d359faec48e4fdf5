import FacetSearch.Text.Property.Case
/-!
Lower casing of texts. Every character is mapped by itself except two: the dotted capital I becomes
two characters, and a capital sigma takes its final form at the end of a word.
-/

namespace FacetSearch.Text

/-- A text begins with a cased letter once the characters that case rules look through are gone. -/
def startsCased (cs : List Char) : Bool :=
  match cs.dropWhile isCaseIgnorable with
  | [] => false
  | c :: _ => isCased c

/-- The lower case of one character between what stands before it, read backwards, and after it. -/
def lowerChar (before : List Char) (c : Char) (after : List Char) : List Char :=
  if c = 'Σ' then
    if startsCased before && !startsCased after then ['ς'] else ['σ']
  else if c = 'İ' then ['i', '\u0307']
  else [simpleLower c]

/-- The lower case of a text that follows `before`, which is read backwards. -/
def lowerAfter (before : List Char) : List Char → List Char
  | [] => []
  | c :: rest => lowerChar before c rest ++ lowerAfter (c :: before) rest

def lower (s : String) : String := String.ofList (lowerAfter [] s.toList)

end FacetSearch.Text
