/-!
Blank characters: those with the Unicode property `White_Space`. Range bounds, free text and
numbers inside documents are trimmed of them.
-/

namespace FacetSearch.Text

/-- The character is white space in the sense of Unicode. -/
def isBlank (c : Char) : Bool :=
  let n := c.toNat
  (0x9 ≤ n && n ≤ 0xD) || n == 0x20 || n == 0x85 || n == 0xA0 || n == 0x1680
    || (0x2000 ≤ n && n ≤ 0x200A) || n == 0x2028 || n == 0x2029 || n == 0x202F || n == 0x205F
    || n == 0x3000

/-- The text without the characters of a class at its two ends. -/
def trimBy (drop : Char → Bool) (cs : List Char) : List Char :=
  ((cs.dropWhile drop).reverse.dropWhile drop).reverse

def trim (cs : List Char) : List Char := trimBy isBlank cs

end FacetSearch.Text
