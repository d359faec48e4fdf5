/-!
Cutting a text at separators. A separator is one character, or one character written twice;
doubled separators are found from the left and do not overlap. The first line of a text ends at a
line feed.
-/

namespace FacetSearch.Text

/-- Puts a character in front of the first piece. -/
def consFirst (c : Char) : List (List Char) → List (List Char)
  | [] => [[c]]
  | piece :: pieces => (c :: piece) :: pieces

/-- The pieces between single separators; a text without one is its own only piece. -/
def splitAt (sep : Char) : List Char → List (List Char)
  | [] => [[]]
  | c :: rest => if c = sep then [] :: splitAt sep rest else consFirst c (splitAt sep rest)

/-- The pieces between doubled separators. -/
def splitAtDouble (sep : Char) : List Char → List (List Char)
  | [] => [[]]
  | [c] => [[c]]
  | c :: d :: rest =>
    if c = sep ∧ d = sep then [] :: splitAtDouble sep rest
    else consFirst c (splitAtDouble sep (d :: rest))

/-- The parts before and after the first doubled separator. -/
def cutAtDouble? (sep : Char) : List Char → Option (List Char × List Char)
  | [] => none
  | [_] => none
  | c :: d :: rest =>
    if c = sep ∧ d = sep then some ([], rest)
    else (cutAtDouble? sep (d :: rest)).map fun (before, after) => (c :: before, after)

/-- The text before the first line break: a line feed, and a carriage return right before it. -/
def firstLine : List Char → List Char
  | [] => []
  | '\n' :: _ => []
  | '\r' :: '\n' :: _ => []
  | c :: rest => c :: firstLine rest

def pieces (sep : Char) (s : String) : List String :=
  (splitAt sep s.toList).map String.ofList

def piecesAtDouble (sep : Char) (s : String) : List String :=
  (splitAtDouble sep s.toList).map String.ofList

theorem splitAtDouble_ne_nil (sep : Char) (cs : List Char) : splitAtDouble sep cs ≠ [] := by
  fun_induction splitAtDouble sep cs with
  | case1 => simp
  | case2 => simp
  | case3 => simp
  | case4 c d rest _ ih => cases h : splitAtDouble sep (d :: rest) <;> simp [consFirst]

end FacetSearch.Text
