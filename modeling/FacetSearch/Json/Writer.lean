import FacetSearch.Json.Basic
/-!
Writing JSON values, on one line or indented by two spaces. Strings are quoted with the short
escapes where JSON has one, other control characters as four hexadecimal digits, and everything
else as it is.
-/

namespace FacetSearch.Json

def hexDigit (n : Nat) : Char := Nat.digitChar (n % 16)

/-- One character inside a quoted string. -/
def escape (c : Char) : List Char :=
  if c = '"' then ['\\', '"']
  else if c = '\\' then ['\\', '\\']
  else if c = '\n' then ['\\', 'n']
  else if c = '\t' then ['\\', 't']
  else if c = '\r' then ['\\', 'r']
  else if c = '\x08' then ['\\', 'b']
  else if c = '\x0c' then ['\\', 'f']
  else if c.toNat < 32 then
    ['\\', 'u', '0', '0', hexDigit (c.toNat / 16), hexDigit c.toNat]
  else [c]

def quote (s : String) : String :=
  String.ofList ('"' :: s.toList.flatMap escape ++ ['"'])

/-- The opening and closing marks around written items, none of which may be empty. -/
def enclose (opening closing separator : String) (items : List String) : String :=
  opening ++ separator.intercalate items ++ closing

mutual

def compact : Json → String
  | null => "null"
  | bool b => if b then "true" else "false"
  | number n => n.text
  | text s => quote s
  | array items => enclose "[" "]" "," (compactItems items)
  | object members => enclose "\x7b" "\x7d" "," (compactMembers members)

def compactItems : List Json → List String
  | [] => []
  | item :: rest => item.compact :: compactItems rest

def compactMembers : List (String × Json) → List String
  | [] => []
  | (name, value) :: rest => (quote name ++ ":" ++ value.compact) :: compactMembers rest

end

/-- A line break and the indentation of a nesting depth. -/
def lineBreak (depth : Nat) : String :=
  String.ofList ('\n' :: List.replicate (2 * depth) ' ')

/-- Items on lines of their own; nothing between the marks if there are none. -/
def encloseLines (opening closing : String) (depth : Nat) (items : List String) : String :=
  if items.isEmpty then opening ++ closing
  else
    enclose (opening ++ lineBreak (depth + 1)) (lineBreak depth ++ closing)
      ("," ++ lineBreak (depth + 1)) items

mutual

/-- The value with every item and member on a line of its own. -/
def prettyAt (depth : Nat) : Json → String
  | null => "null"
  | bool b => if b then "true" else "false"
  | number n => n.text
  | text s => quote s
  | array items => encloseLines "[" "]" depth (prettyItems (depth + 1) items)
  | object members => encloseLines "\x7b" "\x7d" depth (prettyMembers (depth + 1) members)

def prettyItems (depth : Nat) : List Json → List String
  | [] => []
  | item :: rest => prettyAt depth item :: prettyItems depth rest

def prettyMembers (depth : Nat) : List (String × Json) → List String
  | [] => []
  | (name, value) :: rest =>
    (quote name ++ ": " ++ prettyAt depth value) :: prettyMembers depth rest

end

def pretty (json : Json) : String := prettyAt 0 json

end FacetSearch.Json
