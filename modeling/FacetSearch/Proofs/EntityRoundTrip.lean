import Mathlib.Algebra.Group.Int.Defs
import FacetSearch.Entity
import FacetSearch.Proofs.Integers
import FacetSearch.Proofs.Lookup
import FacetSearch.Proofs.QueryRoundTrip
/-!
Entities that are written and read back.

An entity is written as the members that its kind knows, those without a value left out, and after
them its attributes. Two things could be lost on the way: an attribute that has the name of a known
member or of another attribute, and a price that is not finite. Neither is in an entity that was read
(`Entity.IsWritable`), for what documents hold are integers of 64 bits (`Json.fits`) and finite
numbers.

What is proved:
  1. `otherThan_attributesOf`, `isFinite_of_optional`: attributes that are read have names of their
     own, and prices that are read are finite.
  2. `Entity.isWritable_of_ofMembers?`: so entities that are read can be written.
  3. `Entity.ofJson?_toJson`: what can be written is read as it was.
-/

namespace FacetSearch

/-! ## The numbers of documents -/

/-- Integers of documents have 64 bits, with a sign or without. -/
def Number.fits : Number → Bool
  | integer i => decide (-2 ^ 63 ≤ i) && decide (i < 2 ^ 64)
  | real _ _ => true

theorem Number.isFinite_toBinary64 {n : Number} (h : n.fits = true) :
    n.toBinary64.isFinite = true := by
  cases n with
  | integer i =>
    obtain ⟨low, high⟩ : -2 ^ 63 ≤ i ∧ i < 2 ^ 64 := by simpa [fits] using h
    exact Binary64.isFinite_ofInt (by omega)
  | real x finite => exact finite

namespace Json

mutual

/-- Every number in the value is one that documents can hold. -/
def fits : Json → Bool
  | number n => n.fits
  | array items => itemsFit items
  | object members => membersFit members
  | _ => true

def itemsFit : List Json → Bool
  | [] => true
  | item :: rest => item.fits && itemsFit rest

def membersFit : List (String × Json) → Bool
  | [] => true
  | (_, value) :: rest => value.fits && membersFit rest

end

theorem itemsFit_iff {items : List Json} :
    itemsFit items = true ↔ ∀ item ∈ items, item.fits = true := by
  induction items with
  | nil => simp [itemsFit]
  | cons item rest ih => simp [itemsFit, ih]

theorem membersFit_iff {members : List (String × Json)} :
    membersFit members = true ↔ ∀ entry ∈ members, entry.2.fits = true := by
  induction members with
  | nil => simp [membersFit]
  | cons entry rest ih => simp [membersFit, ih]

theorem fits_of_findMember? {members : List (String × Json)} (h : membersFit members = true)
    {name : String} {value : Json} (found : findMember? members name = some value) :
    value.fits = true :=
  membersFit_iff.mp h _ (mem_of_findMember? found)

theorem fits_of_get? {json value : Json} (h : json.fits = true) {name : String}
    (found : json.get? name = some value) : value.fits = true := by
  cases json with
  | object members => exact fits_of_findMember? h found
  | _ => cases found

/-! ## Members that are written -/

theorem findMember?_append (first rest : List (String × Json)) (name : String) :
    findMember? (first ++ rest) name = (findMember? first name).or (findMember? rest name) := by
  unfold findMember?
  rw [List.find?_append]
  cases first.find? fun entry => entry.1 = name <;> rfl

theorem findMember?_cons (written : String) (value : Json) (rest : List (String × Json))
    (name : String) :
    findMember? ((written, value) :: rest) name =
      if written = name then some value else findMember? rest name := by
  unfold findMember?
  by_cases same : written = name <;> simp [same]

theorem forall_mem_optionalMember_iff {α : Type} {name : String} {write : α → Json}
    {value : Option α} {P : String × Json → Prop} :
    (∀ entry ∈ optionalMember name write value, P entry) ↔ ∀ a ∈ value, P (name, write a) := by
  cases value <;> simp [optionalMember]

theorem findMember?_optionalMember {α : Type} (written : String) (write : α → Json)
    (value : Option α) (name : String) :
    findMember? (optionalMember written write value) name =
      if written = name then value.map write else none := by
  cases value with
  | none => by_cases same : written = name <;> simp [optionalMember, findMember?, same]
  | some a => by_cases same : written = name <;> simp [optionalMember, findMember?, same]

end Json

namespace Record

variable {α : Type} {members : List (String × Json)} {place : Nat} {name : String}
  {read : Json → Option α}

theorem required_of_written {json : Json} {a : α}
    (found : Json.findMember? members name = some json) (h : read json = some a) :
    (named members).required place name read = some a := by
  rw [required, find?, found, Option.bind_some, h]

theorem withDefault_of_written {json : Json} {fallback a : α}
    (found : Json.findMember? members name = some json) (h : read json = some a) :
    (named members).withDefault place name fallback read = some a := by
  simp only [withDefault, find?, found, h]

theorem optional_of_written {write : α → Json} {value : Option α}
    (found : Json.findMember? members name = value.map write)
    (h : ∀ a ∈ value, Json.nullable? read (write a) = some (some a)) :
    (named members).optional place name read = some value := by
  unfold optional
  cases value with
  | none => simp [find?, found]
  | some a => simpa [find?, found] using h a rfl

end Record

/-! ## Attributes -/

/-- The attributes have different names, and none of those that are known. -/
structure OtherThan (known : List String) (attributes : List (String × Json)) : Prop where
  distinct : (attributes.map Prod.fst).Nodup
  unknown : ∀ entry ∈ attributes, entry.1 ∉ known

theorem otherThan_attributesOf (known : List String) (members : List (String × Json)) :
    OtherThan known (attributesOf known members) where
  distinct := nodup_writeAll (by simp) _
  unknown := by
    intro entry hentry
    rcases mem_of_mem_writeAll hentry with none | found
    · cases none
    · simpa using (List.mem_filter.mp found).2

namespace OtherThan

variable {known : List String} {attributes first : List (String × Json)}

/-- After known members, the attributes are what is not known. -/
theorem attributesOf_append (h : OtherThan known attributes)
    (written : ∀ entry ∈ first, entry.1 ∈ known) :
    attributesOf known (first ++ attributes) = attributes := by
  have left : first.filter (fun entry => !known.contains entry.1) = [] := by
    apply List.filter_eq_nil_iff.mpr
    intro entry hentry
    simp [written entry hentry]
  have kept : attributes.filter (fun entry => !known.contains entry.1) = attributes := by
    apply List.filter_eq_self.mpr
    intro entry hentry
    simp [h.unknown entry hentry]
  rw [attributesOf, List.filter_append, left, kept, List.nil_append]
  exact writeAll_of_nodup h.distinct

/-- Attributes do not come between a known name and its member. -/
theorem findMember?_append (h : OtherThan known attributes) {name : String} (hname : name ∈ known) :
    Json.findMember? (first ++ attributes) name = Json.findMember? first name := by
  have absent : Json.findMember? attributes name = none := by
    apply Json.findMember?_eq_none_iff.mpr
    intro found
    obtain ⟨entry, hentry, rfl⟩ := List.mem_map.mp found
    exact h.unknown entry hentry hname
  rw [Json.findMember?_append, absent, Option.or_none]

end OtherThan

/-! ## Prices -/

theorem binary64?_ofBinary64 {x : Binary64} (h : x.isFinite = true) :
    Json.nullable? Json.binary64? (.ofBinary64 x) = some (some x) := by
  simp [Json.ofBinary64, h, Json.nullable?, Json.binary64?, Number.toBinary64]

theorem isFinite_of_binary64? {json : Json} (h : json.fits = true) {x : Binary64}
    (read : json.binary64? = some x) : x.isFinite = true := by
  cases json with
  | number n =>
    cases read
    exact Number.isFinite_toBinary64 h
  | _ => cases read

theorem isFinite_of_optional {members : List (String × Json)}
    (fit : Json.membersFit members = true) {place : Nat} {name : String}
    {value : Option Binary64}
    (h : (Record.named members).optional place name Json.binary64? = some value) :
    ∀ x ∈ value, x.isFinite = true := by
  rintro x rfl
  unfold Record.optional Record.find? at h
  dsimp only at h
  cases found : Json.findMember? members name with
  | none => simp [found] at h
  | some json =>
    have read : Json.nullable? Json.binary64? json = some (some x) := by simpa [found] using h
    unfold Json.nullable? at read
    split at read
    · cases read
    · obtain ⟨y, hy, same⟩ := Option.map_eq_some_iff.mp read
      cases same
      exact isFinite_of_binary64? (Json.fits_of_findMember? fit found) hy

/-! ## Kinds of entities -/

theorem nullable?_text (s : String) : Json.nullable? Json.text? (.text s) = some (some s) := rfl

theorem nullable?_natural (n : Nat) : Json.nullable? Json.natural? (.ofNat n) = some (some n) :=
  Json.nullable?_of_read (readsBack_natural n) (by simp [Json.ofNat])

theorem readsBack_uint32 : ReadsBack (fun n => Json.ofNat n.toNat) Json.uint32? := by
  intro n
  have size : n.toNat < UInt32.size := n.toNat_lt
  rw [Json.uint32?, readsBack_natural, Option.bind_some, dif_pos size, UInt32.ofNatLT_toNat]

theorem nullable?_uint32 (n : UInt32) :
    Json.nullable? Json.uint32? (.ofNat n.toNat) = some (some n) :=
  Json.nullable?_of_read (readsBack_uint32 n) (by simp [Json.ofNat])

namespace Product

/-- The product can be written without loss. -/
structure IsWritable (p : Product) : Prop where
  price : ∀ x ∈ p.price, x.isFinite = true
  reducedPrice : ∀ x ∈ p.reducedPrice, x.isFinite = true
  realPrice : ∀ x ∈ p.realPrice, x.isFinite = true
  attributes : OtherThan known p.attributes

theorem isWritable_of_ofMembers? {members : List (String × Json)}
    (fit : Json.membersFit members = true) {p : Product} (h : ofMembers? members = some p) :
    p.IsWritable := by
  obtain ⟨id, -, h⟩ := Option.bind_eq_some_iff.mp h
  obtain ⟨name, -, h⟩ := Option.bind_eq_some_iff.mp h
  obtain ⟨family, -, h⟩ := Option.bind_eq_some_iff.mp h
  obtain ⟨ean, -, h⟩ := Option.bind_eq_some_iff.mp h
  obtain ⟨price, hprice, h⟩ := Option.bind_eq_some_iff.mp h
  obtain ⟨reducedPrice, hreducedPrice, h⟩ := Option.bind_eq_some_iff.mp h
  obtain ⟨realPrice, hrealPrice, h⟩ := Option.bind_eq_some_iff.mp h
  obtain ⟨stock, -, h⟩ := Option.bind_eq_some_iff.mp h
  cases h
  exact {
    price := isFinite_of_optional fit hprice
    reducedPrice := isFinite_of_optional fit hreducedPrice
    realPrice := isFinite_of_optional fit hrealPrice
    attributes := otherThan_attributesOf known members }

def knownMembers (p : Product) : List (String × Json) :=
  [("id", .text p.id), ("name", .text p.name)]
    ++ optionalMember "family" .text p.family
    ++ optionalMember "ean" .text p.ean
    ++ optionalMember "price" .ofBinary64 p.price
    ++ optionalMember "reduced_price" .ofBinary64 p.reducedPrice
    ++ optionalMember "real_price" .ofBinary64 p.realPrice
    ++ optionalMember "stock" .ofNat p.stock

theorem known_of_mem (p : Product) : ∀ entry ∈ p.knownMembers, entry.1 ∈ known := by
  simp only [knownMembers, List.forall_mem_append, Json.forall_mem_optionalMember_iff]
  simp [known]

theorem ofMembers?_members {p : Product} (h : p.IsWritable) : ofMembers? p.members = some p := by
  -- No attribute stands in the way, so a known name finds what was written for it, if anything was.
  have known_members : ∀ name ∈ known,
      Json.findMember? p.members name = Json.findMember? p.knownMembers name :=
    fun name hname => h.attributes.findMember?_append hname
  obtain ⟨id, name, family, ean, price, reducedPrice, realPrice, stock⟩ :
      Json.findMember? p.members "id" = some (.text p.id) ∧
      Json.findMember? p.members "name" = some (.text p.name) ∧
      Json.findMember? p.members "family" = p.family.map .text ∧
      Json.findMember? p.members "ean" = p.ean.map .text ∧
      Json.findMember? p.members "price" = p.price.map .ofBinary64 ∧
      Json.findMember? p.members "reduced_price" = p.reducedPrice.map .ofBinary64 ∧
      Json.findMember? p.members "real_price" = p.realPrice.map .ofBinary64 ∧
      Json.findMember? p.members "stock" = p.stock.map .ofNat := by
    simpa [known, knownMembers, Json.findMember?_append, Json.findMember?_cons,
      Json.findMember?_optionalMember] using known_members
  unfold ofMembers?
  apply Option.bind_eq_some_iff.mpr ⟨p.id, Record.required_of_written id rfl, ?_⟩
  apply Option.bind_eq_some_iff.mpr ⟨p.name, Record.withDefault_of_written name rfl, ?_⟩
  apply Option.bind_eq_some_iff.mpr
    ⟨p.family, Record.optional_of_written family fun s _ => nullable?_text s, ?_⟩
  apply Option.bind_eq_some_iff.mpr
    ⟨p.ean, Record.optional_of_written ean fun s _ => nullable?_text s, ?_⟩
  apply Option.bind_eq_some_iff.mpr
    ⟨p.price, Record.optional_of_written price fun x hx => binary64?_ofBinary64 (h.price x hx), ?_⟩
  apply Option.bind_eq_some_iff.mpr
    ⟨p.reducedPrice, Record.optional_of_written reducedPrice fun x hx =>
      binary64?_ofBinary64 (h.reducedPrice x hx), ?_⟩
  apply Option.bind_eq_some_iff.mpr
    ⟨p.realPrice, Record.optional_of_written realPrice fun x hx =>
      binary64?_ofBinary64 (h.realPrice x hx), ?_⟩
  apply Option.bind_eq_some_iff.mpr
    ⟨p.stock, Record.optional_of_written stock fun n _ => nullable?_natural n, ?_⟩
  have others : attributesOf known p.members = p.attributes :=
    h.attributes.attributesOf_append (known_of_mem p)
  rw [others]
  rfl

end Product

namespace Category

def knownMembers (c : Category) : List (String × Json) :=
  [("id", .text c.id), ("name", .text c.name)]
    ++ optionalMember "slug" .text c.slug
    ++ optionalMember "level" (fun level => .ofNat level.toNat) c.level

theorem otherThan_of_ofMembers? {members : List (String × Json)} {c : Category}
    (h : ofMembers? members = some c) : OtherThan known c.attributes := by
  obtain ⟨id, -, h⟩ := Option.bind_eq_some_iff.mp h
  obtain ⟨name, -, h⟩ := Option.bind_eq_some_iff.mp h
  obtain ⟨slug, -, h⟩ := Option.bind_eq_some_iff.mp h
  obtain ⟨level, -, h⟩ := Option.bind_eq_some_iff.mp h
  cases h
  exact otherThan_attributesOf known members

theorem known_of_mem (c : Category) : ∀ entry ∈ c.knownMembers, entry.1 ∈ known := by
  simp only [knownMembers, List.forall_mem_append, Json.forall_mem_optionalMember_iff]
  simp [known]

theorem ofMembers?_members {c : Category} (h : OtherThan known c.attributes) :
    ofMembers? c.members = some c := by
  have known_members : ∀ name ∈ known,
      Json.findMember? c.members name = Json.findMember? c.knownMembers name :=
    fun name hname => h.findMember?_append hname
  obtain ⟨id, name, slug, level⟩ :
      Json.findMember? c.members "id" = some (.text c.id) ∧
      Json.findMember? c.members "name" = some (.text c.name) ∧
      Json.findMember? c.members "slug" = c.slug.map .text ∧
      Json.findMember? c.members "level" = c.level.map fun level => .ofNat level.toNat := by
    simpa [known, knownMembers, Json.findMember?_append, Json.findMember?_cons,
      Json.findMember?_optionalMember] using known_members
  unfold ofMembers?
  apply Option.bind_eq_some_iff.mpr ⟨c.id, Record.required_of_written id rfl, ?_⟩
  apply Option.bind_eq_some_iff.mpr ⟨c.name, Record.withDefault_of_written name rfl, ?_⟩
  apply Option.bind_eq_some_iff.mpr
    ⟨c.slug, Record.optional_of_written slug fun s _ => nullable?_text s, ?_⟩
  apply Option.bind_eq_some_iff.mpr
    ⟨c.level, Record.optional_of_written level fun n _ => nullable?_uint32 n, ?_⟩
  have others : attributesOf known c.members = c.attributes := h.attributesOf_append (known_of_mem c)
  rw [others]
  rfl

end Category

namespace Label

def knownMembers (l : Label) : List (String × Json) :=
  [("id", .text l.id), ("name", .text l.name)] ++ optionalMember "slug" .text l.slug

theorem otherThan_of_ofMembers? {members : List (String × Json)} {l : Label}
    (h : ofMembers? members = some l) : OtherThan known l.attributes := by
  obtain ⟨id, -, h⟩ := Option.bind_eq_some_iff.mp h
  obtain ⟨name, -, h⟩ := Option.bind_eq_some_iff.mp h
  obtain ⟨slug, -, h⟩ := Option.bind_eq_some_iff.mp h
  cases h
  exact otherThan_attributesOf known members

theorem known_of_mem (l : Label) : ∀ entry ∈ l.knownMembers, entry.1 ∈ known := by
  simp only [knownMembers, List.forall_mem_append, Json.forall_mem_optionalMember_iff]
  simp [known]

theorem ofMembers?_members {l : Label} (h : OtherThan known l.attributes) :
    ofMembers? l.members = some l := by
  have known_members : ∀ name ∈ known,
      Json.findMember? l.members name = Json.findMember? l.knownMembers name :=
    fun name hname => h.findMember?_append hname
  obtain ⟨id, name, slug⟩ :
      Json.findMember? l.members "id" = some (.text l.id) ∧
      Json.findMember? l.members "name" = some (.text l.name) ∧
      Json.findMember? l.members "slug" = l.slug.map .text := by
    simpa [known, knownMembers, Json.findMember?_append, Json.findMember?_cons,
      Json.findMember?_optionalMember] using known_members
  unfold ofMembers?
  apply Option.bind_eq_some_iff.mpr ⟨l.id, Record.required_of_written id rfl, ?_⟩
  apply Option.bind_eq_some_iff.mpr ⟨l.name, Record.withDefault_of_written name rfl, ?_⟩
  apply Option.bind_eq_some_iff.mpr
    ⟨l.slug, Record.optional_of_written slug fun s _ => nullable?_text s, ?_⟩
  have others : attributesOf known l.members = l.attributes := h.attributesOf_append (known_of_mem l)
  rw [others]
  rfl

end Label

namespace Tag

def knownMembers (t : Tag) : List (String × Json) := [("id", .text t.id), ("name", .text t.name)]

theorem otherThan_of_ofMembers? {members : List (String × Json)} {t : Tag}
    (h : ofMembers? members = some t) : OtherThan known t.attributes := by
  obtain ⟨id, -, h⟩ := Option.bind_eq_some_iff.mp h
  obtain ⟨name, -, h⟩ := Option.bind_eq_some_iff.mp h
  cases h
  exact otherThan_attributesOf known members

theorem ofMembers?_members {t : Tag} (h : OtherThan known t.attributes) :
    ofMembers? t.members = some t := by
  have known_members : ∀ name ∈ known,
      Json.findMember? t.members name = Json.findMember? t.knownMembers name :=
    fun name hname => h.findMember?_append hname
  obtain ⟨id, name⟩ :
      Json.findMember? t.members "id" = some (.text t.id) ∧
      Json.findMember? t.members "name" = some (.text t.name) := by
    simpa [known, knownMembers, Json.findMember?_cons] using known_members
  unfold ofMembers?
  apply Option.bind_eq_some_iff.mpr ⟨t.id, Record.required_of_written id rfl, ?_⟩
  apply Option.bind_eq_some_iff.mpr ⟨t.name, Record.withDefault_of_written name rfl, ?_⟩
  have others : attributesOf known t.members = t.attributes := by
    apply h.attributesOf_append
    simp [known]
  rw [others]
  rfl

end Tag

/-! ## Entities -/

namespace Entity

/-- The entity can be written without loss: its attributes are no members that its kind knows, and
its prices are finite. -/
def IsWritable : Entity → Prop
  | product p => p.IsWritable
  | category c => OtherThan Category.known c.attributes
  | manufacturer l => OtherThan Label.known l.attributes
  | brand l => OtherThan Label.known l.attributes
  | tag t => OtherThan Tag.known t.attributes

variable {kind : EntityKind} {members : List (String × Json)} {entity : Entity}

theorem kind_of_ofMembers? (h : ofMembers? kind members = some entity) : entity.kind = kind := by
  cases kind <;>
    · obtain ⟨value, -, rfl⟩ := Option.map_eq_some_iff.mp h
      rfl

theorem isWritable_of_ofMembers? (fit : Json.membersFit members = true)
    (h : ofMembers? kind members = some entity) : entity.IsWritable := by
  cases kind <;> obtain ⟨value, read, rfl⟩ := Option.map_eq_some_iff.mp h
  case product => exact Product.isWritable_of_ofMembers? fit read
  case category => exact Category.otherThan_of_ofMembers? read
  case manufacturer => exact Label.otherThan_of_ofMembers? read
  case brand => exact Label.otherThan_of_ofMembers? read
  case tag => exact Tag.otherThan_of_ofMembers? read

theorem ofJson?_toJson (h : entity.IsWritable) : ofJson? entity.kind entity.toJson = some entity := by
  cases entity with
  | product p => exact congrArg (Option.map product) (Product.ofMembers?_members h)
  | category c => exact congrArg (Option.map category) (Category.ofMembers?_members h)
  | manufacturer l => exact congrArg (Option.map manufacturer) (Label.ofMembers?_members h)
  | brand l => exact congrArg (Option.map brand) (Label.ofMembers?_members h)
  | tag t => exact congrArg (Option.map tag) (Tag.ofMembers?_members h)

end Entity

end FacetSearch
