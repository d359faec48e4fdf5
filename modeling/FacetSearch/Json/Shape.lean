import FacetSearch.Json.Literal
/-!
Taking values from JSON texts. A `Shape` says which parts of a text its reader looks at: the
members that a record does not know are skipped unread, so what is wrong inside them goes unnoticed,
while a member that it knows may be written only once. Where a text is read without a shape, every
part counts, and a member written twice keeps its first place and its last value.
-/

namespace FacetSearch

/-- The parts of a text that its reader looks at. -/
inductive Shape where
  /-- Everything. -/
  | any
  /-- A list of items of one shape. -/
  | list (item : Shape)
  /-- A record by its known members, or by their values in order. -/
  | record (fields : List (String × Shape))
  /-- The body of a choice: as a record, but taken by name afterwards in either form. -/
  | body (fields : List (String × Shape))
  /-- A choice: a bare name, or one member that names it and holds its body. -/
  | choice (bodies : List (String × Shape))

namespace Shape

/-- The shape of a name among fields. -/
def find? (fields : List (String × Shape)) (name : String) : Option Shape :=
  (fields.find? fun field => field.1 = name).map Prod.snd

end Shape

namespace Literal

mutual

/-- The JSON value of a literal of this shape. At most `depth` containers may be open at once. -/
def toJson? (depth : Nat) (shape : Shape) : Literal → Option Json
  | null => some .null
  | bool b => some (.bool b)
  | number n => n.map .number
  | text t => t.map .text
  | array items =>
    match depth, shape with
    | depth + 1, .any => (itemsToJson? depth .any items).map .array
    | depth + 1, .list item => (itemsToJson? depth item items).map .array
    | depth + 1, .record fields =>
      (positionsToJson? depth fields items).map fun members => .array (members.map Prod.snd)
    | depth + 1, .body fields => (positionsToJson? depth fields items).map .object
    | _, _ => none
  | object members =>
    match depth, shape with
    | depth + 1, .any => (membersToJson? depth [] members).map .object
    | depth + 1, .record fields => (fieldsToJson? depth fields [] members).map .object
    | depth + 1, .body fields => (fieldsToJson? depth fields [] members).map .object
    | depth + 1, .choice bodies => (chosenToJson? depth bodies members).map .object
    | _, _ => none

def itemsToJson? (depth : Nat) (shape : Shape) : List Literal → Option (List Json)
  | [] => some []
  | item :: rest => do
    let item ← toJson? depth shape item
    let rest ← itemsToJson? depth shape rest
    return item :: rest

/-- The values of a record's first fields, in their order; it has no more than its fields. -/
def positionsToJson? (depth : Nat) :
    List (String × Shape) → List Literal → Option (List (String × Json))
  | _, [] => some []
  | [], _ :: _ => none
  | (name, shape) :: fields, item :: rest => do
    let value ← toJson? depth shape item
    let rest ← positionsToJson? depth fields rest
    return (name, value) :: rest

/-- The members of a free object, after those already taken. -/
def membersToJson? (depth : Nat) (taken : List (String × Json)) :
    List (Option String × Literal) → Option (List (String × Json))
  | [] => some taken
  | (name, value) :: rest => do
    let name ← name
    let value ← toJson? depth .any value
    membersToJson? depth (Json.putMember taken name value) rest

/-- The known members of a record, none of them twice; the others are skipped. -/
def fieldsToJson? (depth : Nat) (fields : List (String × Shape)) (taken : List (String × Json)) :
    List (Option String × Literal) → Option (List (String × Json))
  | [] => some taken
  | (name, value) :: rest => do
    let name ← name
    match Shape.find? fields name with
    | none => fieldsToJson? depth fields taken rest
    | some shape =>
      if (Json.findMember? taken name).isSome then none
      else
        let value ← toJson? depth shape value
        fieldsToJson? depth fields (taken ++ [(name, value)]) rest

/-- The one member of a choice. -/
def chosenToJson? (depth : Nat) (bodies : List (String × Shape)) :
    List (Option String × Literal) → Option (List (String × Json))
  | [(name, value)] => do
    let name ← name
    let shape ← Shape.find? bodies name
    let value ← toJson? depth shape value
    return [(name, value)]
  | _ => none

end

/-- How many containers of a text may be open at once. -/
def depthLimit : Nat := 127

end Literal

/-- The value of a JSON text of this shape. -/
def Json.ofText? (shape : Shape) (source : String) : Option Json :=
  (Literal.ofText? source).bind (Literal.toJson? Literal.depthLimit shape)

end FacetSearch
