import FacetSearch.Json.Basic
/-!
Reading records from JSON values. A record is an object with its fields as members, or an array of
the fields' values in their order; an array may be shorter than the record where defaults fill it
up, never longer. Members that a record does not know are ignored.
-/

namespace FacetSearch

/-- Where the fields of a record are to be found. -/
inductive Record where
  | named (members : List (String × Json))
  | positional (items : List Json)

namespace Json

/-- The record of a value, if it can be one of `arity` fields. -/
def record? (arity : Nat) : Json → Option Record
  | object members => some (.named members)
  | array items => if items.length ≤ arity then some (.positional items) else none
  | _ => none

def nullable? {α : Type} (read : Json → Option α) : Json → Option (Option α)
  | null => some none
  | json => (read json).map some

def list? {α : Type} (read : Json → Option α) (json : Json) : Option (List α) :=
  json.array?.bind fun items => items.mapM read

def strings? : Json → Option (List String) := list? text?

/-- The name of a choice without a body: a string, or an object whose only member is null. -/
def choice? : Json → Option String
  | text name => some name
  | object [(name, null)] => some name
  | _ => none

end Json

namespace Record

variable {α : Type}

/-- The value of a field, by its name or its place. -/
def find? (record : Record) (place : Nat) (name : String) : Option Json :=
  match record with
  | named members => Json.findMember? members name
  | positional items => items[place]?

/-- A field that has to be there. -/
def required (record : Record) (place : Nat) (name : String) (read : Json → Option α) :
    Option α :=
  (record.find? place name).bind read

def withDefault (record : Record) (place : Nat) (name : String) (fallback : α)
    (read : Json → Option α) : Option α :=
  match record.find? place name with
  | none => some fallback
  | some json => read json

/-- A field that may be null, or absent where fields have names. -/
def optional (record : Record) (place : Nat) (name : String) (read : Json → Option α) :
    Option (Option α) :=
  match record, record.find? place name with
  | _, some json => Json.nullable? read json
  | named _, none => some none
  | positional _, none => none

end Record

end FacetSearch
