import XmlSchema.Collection.Basic

/-!
# Finding components by name

A name is looked up in the schemas whose logical namespace is its own, in the
order of registration, and from each of them along the references to other
documents.  A schema already on the way is not entered again, so that circular
references do no harm.  References between components are followed the same
way.
-/

namespace XmlSchema.Collection

/-- The schema that a reference to a document leads to.  A schema that stands
in for a namespace serves the imports that name no location. -/
def externalTarget? (c : Collection) (e : ExternalRef) : Option Nat :=
  match e.target with
  | some number => some number
  | none =>
      if e.kind = .importation && e.location.isNone then e.namespaceName.bind c.known?
      else none

/-- The schemas that a schema refers to, in item order. -/
def targets (c : Collection) (s : Schema) : List Nat :=
  s.externals.filterMap c.externalTarget?

/-- Search a schema and what it refers to; `path` holds the schemas on the way
there. -/
def search (c : Collection) (kind : ComponentKind) (name : QName) :
    Nat → List Nat → Nat → Option (ComponentId kind)
  | 0, _, _ => none
  | fuel + 1, path, number =>
      if path.contains number then none
      else
        match c.schemas[number]? with
        | none => none
        | some s =>
            match s.lookup? kind name with
            | some id => some id
            | none => (c.targets s).findSome? (c.search kind name fuel (number :: path))

/-- The schemas from which the search for a name starts. -/
def startingPoints (c : Collection) (name : QName) : List Nat :=
  (c.schemas.toList.filter (·.logicalNamespace == name.namespaceName)).map Schema.number

/-- Find the component of a kind with a given name. -/
def find? (c : Collection) (kind : ComponentKind) (name : QName) : Option (ComponentId kind) :=
  (c.startingPoints name).findSome? (c.search kind name (c.schemas.size + 1) [])

/-- The global declaration that an element stands for: itself unless it is a
reference. -/
def resolveElement? (c : Collection) (id : ElementId) : Option ElementId := do
  let e ← c.get? id
  match e.ref with
  | some target => c.find? .element target
  | none => some id

/-- The global declaration that an attribute stands for. -/
def resolveAttribute? (c : Collection) (id : AttributeId) : Option AttributeId := do
  let a ← c.get? id
  match a.ref with
  | some target => c.find? .attribute target
  | none => some id

/-- The type in a slot; a name that is still pending is looked up. -/
def slotType? (c : Collection) : TypeSlot → Option TypeId
  | .absent => none
  | .named _ (some id) => some id
  | .named name none => c.find? .type name
  | .anonymous id => some id

/-- The type of an element, after following a reference. -/
def elementType? (c : Collection) (id : ElementId) : Option TypeId := do
  let e ← c.get? (← c.resolveElement? id)
  c.slotType? e.type

/-- The type of an attribute, after following a reference. -/
def attributeType? (c : Collection) (id : AttributeId) : Option TypeId := do
  let a ← c.get? (← c.resolveAttribute? id)
  c.slotType? a.type

/-- The type that a type is derived from. -/
def baseType? (c : Collection) (id : TypeId) : Option TypeId := do
  let t ← c.get? id
  match t.body with
  | .simple (.builtin base) => c.find? .type (← base)
  | .simple (.restriction r) =>
      match r.baseType with
      | some inner => some inner
      | none => c.find? .type (← r.base)
  | .simple _ => none
  | .complex t => c.find? .type (← t.baseName?)

/-- The types from which a type is derived, nearest first and itself included;
the flag says that they go round in a circle. -/
def baseChain (c : Collection) : Nat → List TypeId → TypeId → List TypeId × Bool
  | 0, _, _ => ([], false)
  | fuel + 1, seen, id =>
      if seen.contains id then ([], true)
      else
        match c.baseType? id with
        | none => ([id], false)
        | some base =>
            let (chain, cyclic) := c.baseChain fuel (id :: seen) base
            (id :: chain, cyclic)

/-- The number of types of the whole collection. -/
def typeCount (c : Collection) : Nat :=
  (c.schemas.toList.map fun s => s.components.types.size).foldr (· + ·) 0

/-- The base types of a type, nearest first and itself included. -/
def baseTypes (c : Collection) (id : TypeId) : List TypeId × Bool :=
  c.baseChain (c.typeCount + 2) [] id

end XmlSchema.Collection
