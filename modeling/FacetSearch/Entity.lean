import FacetSearch.Json.Record
/-!
Entities: the typed form of a hit. The members that a kind of entity knows are checked; all others
are kept as attributes, in their order.
-/

namespace FacetSearch

inductive EntityKind where
  | product
  | category
  | manufacturer
  | brand
  | tag
  deriving DecidableEq, Repr

namespace EntityKind

/-- The document type of the kind. -/
def name : EntityKind → String
  | product => "product"
  | category => "category"
  | manufacturer => "manufacturer"
  | brand => "brand"
  | tag => "tag"

def ofName? (name : String) : Option EntityKind :=
  if name = "product" then some product
  else if name = "category" then some category
  else if name = "manufacturer" then some manufacturer
  else if name = "brand" then some brand
  else if name = "tag" then some tag
  else none

theorem ofName?_name (kind : EntityKind) : ofName? kind.name = some kind := by
  cases kind <;> rfl

end EntityKind

def attributesOf (known : List String) (members : List (String × Json)) : List (String × Json) :=
  Json.membersOf (members.filter fun entry => !known.contains entry.1)

/-- A member that is written only if there is a value. -/
def optionalMember {α : Type} (name : String) (write : α → Json) (value : Option α) :
    List (String × Json) :=
  (value.map fun a => (name, write a)).toList

/-- An article that is sold. -/
structure Product where
  id : String
  name : String
  family : Option String
  ean : Option String
  price : Option Binary64
  reducedPrice : Option Binary64
  realPrice : Option Binary64
  stock : Option Nat
  attributes : List (String × Json)

namespace Product

def known : List String :=
  ["id", "name", "family", "ean", "price", "reduced_price", "real_price", "stock"]

def ofMembers? (members : List (String × Json)) : Option Product := do
  let record := Record.named members
  let id ← record.required 0 "id" Json.text?
  let name ← record.withDefault 1 "name" "" Json.text?
  let family ← record.optional 2 "family" Json.text?
  let ean ← record.optional 3 "ean" Json.text?
  let price ← record.optional 4 "price" Json.binary64?
  let reducedPrice ← record.optional 5 "reduced_price" Json.binary64?
  let realPrice ← record.optional 6 "real_price" Json.binary64?
  let stock ← record.optional 7 "stock" Json.natural?
  return {
    id, name, family, ean, price, reducedPrice, realPrice, stock
    attributes := attributesOf known members }

def members (p : Product) : List (String × Json) :=
  [("id", .text p.id), ("name", .text p.name)]
    ++ optionalMember "family" .text p.family
    ++ optionalMember "ean" .text p.ean
    ++ optionalMember "price" .ofBinary64 p.price
    ++ optionalMember "reduced_price" .ofBinary64 p.reducedPrice
    ++ optionalMember "real_price" .ofBinary64 p.realPrice
    ++ optionalMember "stock" .ofNat p.stock
    ++ p.attributes

end Product

/-- A place in the tree of categories. -/
structure Category where
  id : String
  name : String
  slug : Option String
  level : Option UInt32
  attributes : List (String × Json)

namespace Category

def known : List String := ["id", "name", "slug", "level"]

def ofMembers? (members : List (String × Json)) : Option Category := do
  let record := Record.named members
  let id ← record.required 0 "id" Json.text?
  let name ← record.withDefault 1 "name" "" Json.text?
  let slug ← record.optional 2 "slug" Json.text?
  let level ← record.optional 3 "level" Json.uint32?
  return { id, name, slug, level, attributes := attributesOf known members }

def members (c : Category) : List (String × Json) :=
  [("id", .text c.id), ("name", .text c.name)]
    ++ optionalMember "slug" .text c.slug
    ++ optionalMember "level" (fun level => .ofNat level.toNat) c.level
    ++ c.attributes

end Category

/-- A maker or a brand. -/
structure Label where
  id : String
  name : String
  slug : Option String
  attributes : List (String × Json)

namespace Label

def known : List String := ["id", "name", "slug"]

def ofMembers? (members : List (String × Json)) : Option Label := do
  let record := Record.named members
  let id ← record.required 0 "id" Json.text?
  let name ← record.withDefault 1 "name" "" Json.text?
  let slug ← record.optional 2 "slug" Json.text?
  return { id, name, slug, attributes := attributesOf known members }

def members (l : Label) : List (String × Json) :=
  [("id", .text l.id), ("name", .text l.name)]
    ++ optionalMember "slug" .text l.slug
    ++ l.attributes

end Label

structure Tag where
  id : String
  name : String
  attributes : List (String × Json)

namespace Tag

def known : List String := ["id", "name"]

def ofMembers? (members : List (String × Json)) : Option Tag := do
  let record := Record.named members
  let id ← record.required 0 "id" Json.text?
  let name ← record.withDefault 1 "name" "" Json.text?
  return { id, name, attributes := attributesOf known members }

def members (t : Tag) : List (String × Json) :=
  [("id", .text t.id), ("name", .text t.name)] ++ t.attributes

end Tag

/-- A hit in its typed form. -/
inductive Entity where
  | product (value : Product)
  | category (value : Category)
  | manufacturer (value : Label)
  | brand (value : Label)
  | tag (value : Tag)

namespace Entity

def ofMembers? (kind : EntityKind) (members : List (String × Json)) : Option Entity :=
  match kind with
  | .product => (Product.ofMembers? members).map product
  | .category => (Category.ofMembers? members).map category
  | .manufacturer => (Label.ofMembers? members).map manufacturer
  | .brand => (Label.ofMembers? members).map brand
  | .tag => (Tag.ofMembers? members).map tag

def ofJson? (kind : EntityKind) (json : Json) : Option Entity :=
  json.object?.bind (ofMembers? kind)

def kind : Entity → EntityKind
  | product _ => .product
  | category _ => .category
  | manufacturer _ => .manufacturer
  | brand _ => .brand
  | tag _ => .tag

def id : Entity → String
  | product p => p.id
  | category c => c.id
  | manufacturer l => l.id
  | brand l => l.id
  | tag t => t.id

def toJson : Entity → Json
  | product p => .object p.members
  | category c => .object c.members
  | manufacturer l => .object l.members
  | brand l => .object l.members
  | tag t => .object t.members

end Entity

end FacetSearch
