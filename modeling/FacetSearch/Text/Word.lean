import FacetSearch.Text.Case
import FacetSearch.Text.Property.Alphanumeric
import FacetSearch.Text.Property.WordBreak
/-!
The words of a text. A text is cut at the word boundaries of Unicode; a word is a piece that holds a
letter or a number. Two texts are compared by their words in lower case.
-/

namespace FacetSearch.Text

namespace WordBreak

/-- Extenders, format characters and joiners belong to the character before them. -/
def isAttached : WordBreak → Bool
  | extender | format | joiner => true
  | _ => false

/-- Line ends stand alone. -/
def isLineEnd : WordBreak → Bool
  | carriageReturn | lineFeed | newline => true
  | _ => false

/-- A letter that takes part in words spelt with letters. -/
def isLetter : WordBreak → Bool
  | letter | hebrewLetter => true
  | _ => false

/-- Punctuation that letters on both sides hold together. -/
def joinsLetters : WordBreak → Bool
  | midLetter | midEither | singleQuote => true
  | _ => false

/-- Punctuation that digits on both sides hold together. -/
def joinsDigits : WordBreak → Bool
  | midNumber | midEither | singleQuote => true
  | _ => false

/-- What a connector holds on to. -/
def meetsConnector : WordBreak → Bool
  | letter | hebrewLetter | numeric | katakana => true
  | _ => false

end WordBreak

open WordBreak

/-- A pictograph right after a joiner. It is held to the text before it, and is nothing but a
pictograph there even if it has the class of a letter. -/
def isJoinedPictograph (prev : WordBreak) (c : Char) : Bool := prev == joiner && isPictograph c

/-- What a text goes on with, the characters attached to the one before it passed over. -/
inductive Continuation where
  | nothing
  | character (kind : WordBreak)
  | joinedPictograph
  deriving DecidableEq, Repr

namespace Continuation

/-- Punctuation that waits for a class holds on to what follows: to a character of the class, and to
any joined pictograph. -/
def holds (wanted : WordBreak → Bool) : Continuation → Bool
  | nothing => false
  | character kind => wanted kind
  | joinedPictograph => true

end Continuation

/-- How a text goes on after a character of class `prev`. -/
def continuation (prev : WordBreak) : List Char → Continuation
  | [] => .nothing
  | c :: rest =>
    if (wordBreak c).isAttached then continuation (wordBreak c) rest
    else if isJoinedPictograph prev c then .joinedPictograph
    else .character (wordBreak c)

/-- How many regional indicators a list starts with. -/
def regionalRun : List WordBreak → Nat
  | regional :: rest => regionalRun rest + 1
  | _ => 0

/-- Whether characters of these classes hold together across the classes around them: `seen` reads
backwards from the last one, `later` is how the text goes on after the next one. -/
def holdsTogether (seen : List WordBreak) (next : WordBreak) (later : Continuation) : Bool :=
  match seen with
  | [] => false
  | last :: earlier =>
    let earlierLetter := (earlier.head?.map isLetter).getD false
    (last.isLetter && next.isLetter)
    || (last.isLetter && next.joinsLetters && later.holds isLetter)
    || (earlierLetter && last.joinsLetters && next.isLetter)
    || (last == hebrewLetter && next == singleQuote)
    || (last == hebrewLetter && next == doubleQuote && later.holds (· == hebrewLetter))
    || (earlier.head? == some hebrewLetter && last == doubleQuote && next == hebrewLetter)
    || (last == numeric && next == numeric)
    || (last.isLetter && next == numeric)
    || (last == numeric && next.isLetter)
    || (earlier.head? == some numeric && last.joinsDigits && next == numeric)
    || (last == numeric && next.joinsDigits && later.holds (· == numeric))
    || (last == katakana && next == katakana)
    || ((last.meetsConnector || last == connector) && next == connector)
    || (last == connector && next.meetsConnector)
    || (next == regional && regionalRun seen % 2 == 1)

/-- Whether there is no boundary between a character of class `prev` and the character `c`. -/
def joins (prev : WordBreak) (seen : List WordBreak) (c : Char) (rest : List Char) : Bool :=
  let next := wordBreak c
  if prev == carriageReturn && next == lineFeed then true
  else if prev.isLineEnd || next.isLineEnd then false
  else if isJoinedPictograph prev c then true
  else if prev == space && next == space then true
  else if next.isAttached then true
  else holdsTogether seen next (continuation next rest)

/-- The pieces of a text that goes on after `piece`, which is read backwards. -/
def piecesAfter (piece : List Char) (prev : WordBreak) (seen : List WordBreak) :
    List Char → List (List Char)
  | [] => if piece.isEmpty then [] else [piece.reverse]
  | c :: rest =>
    let next := if isJoinedPictograph prev c then .other else wordBreak c
    let seen' := if next.isAttached then seen else next :: seen
    if piece.isEmpty || joins prev seen c rest then
      piecesAfter (c :: piece) next seen' rest
    else
      piece.reverse :: piecesAfter [c] next seen' rest

/-- The words of a text, in lower case. -/
def words (s : String) : List String :=
  ((piecesAfter [] .other [] s.toList).filter (·.any isAlphanumeric)).map fun piece =>
    String.ofList (lowerAfter [] piece)

end FacetSearch.Text
