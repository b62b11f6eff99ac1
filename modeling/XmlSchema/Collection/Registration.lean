import XmlSchema.Collection.Lookup

/-!
# Adding components to a collection

A component is first owned by a schema and then, at the top level, registered
under its name and listed among the items.  A declaration whose type is only
named takes the type that the name finds now, or waits until a type of that
name is registered.
-/

namespace XmlSchema

/-- The name of a type that a new component is to wait for. -/
def ComponentKind.pending? : (kind : ComponentKind) → kind.Component → Option QName
  | .element, e => e.type.pending?
  | .attribute, a => a.type.pending?
  | .type, _ => none
  | .group, _ => none
  | .attributeGroup, _ => none
  | .notationDecl, _ => none

/-- A declaration made into a global one. -/
def ComponentKind.markTopLevel : (kind : ComponentKind) → kind.Component → kind.Component
  | .element, e => { e with topLevel := true }
  | .attribute, a => { a with topLevel := true }
  | .type, t => t
  | .group, g => g
  | .attributeGroup, g => g
  | .notationDecl, n => n

/-- A declaration of a given kind as one that may wait for a type. -/
def ComponentId.receiver? : {kind : ComponentKind} → ComponentId kind → Option Receiver
  | .element, id => some (.element id)
  | .attribute, id => some (.attribute id)
  | .type, _ => none
  | .group, _ => none
  | .attributeGroup, _ => none
  | .notationDecl, _ => none

namespace Collection

/-- Give a waiting declaration its type. -/
def fill (c : Collection) (type : TypeId) : Receiver → Collection
  | .element id =>
      c.modify id.schema fun s =>
        { s with components := { s.components with
            elements := s.components.elements.modify id.index fun e =>
              { e with type := e.type.fill type } } }
  | .attribute id =>
      c.modify id.schema fun s =>
        { s with components := { s.components with
            attributes := s.components.attributes.modify id.index fun a =>
              { a with type := a.type.fill type } } }

/-- Add a declaration to those that wait for a name. -/
def parkIn (name : QName) (receiver : Receiver) :
    List (QName × List Receiver) → List (QName × List Receiver)
  | [] => [(name, [receiver])]
  | (n, list) :: rest =>
      if n = name then (n, list ++ [receiver]) :: rest
      else (n, list) :: parkIn name receiver rest

/-- Find the type that a declaration names, or let the declaration wait. -/
def attach (c : Collection) (name : QName) (receiver : Receiver) : Collection :=
  match c.find? .type name with
  | some type => c.fill type receiver
  | none => { c with waiting := parkIn name receiver c.waiting }

/-- Let a schema own a new component. -/
def allocate (c : Collection) (number : Nat) (kind : ComponentKind) (x : kind.Component) :
    ComponentId kind × Collection :=
  match c.schemas[number]? with
  | none => (⟨number, 0⟩, c)
  | some s =>
      let (id, s) := s.allocate kind x
      let c := c.modify number fun _ => s
      match kind.pending? x, id.receiver? with
      | some name, some receiver => (id, c.attach name receiver)
      | _, _ => (id, c)

/-- Give a type to every declaration that waits for its name. -/
def backFill (c : Collection) (name : QName) (type : TypeId) : Collection :=
  let c' := { c with waiting := c.waiting.filter (·.1 != name) }
  (c.receivers name).foldl (fun c r => c.fill type r) c'

/-- Give a newly registered type to the declarations that wait for it. -/
def settle (c : Collection) (name : QName) :
    {kind : ComponentKind} → ComponentId kind → Collection
  | .type, id => c.backFill name id
  | .element, _ => c
  | .attribute, _ => c
  | .group, _ => c
  | .attributeGroup, _ => c
  | .notationDecl, _ => c

/-- Register a component under its name. -/
def register (c : Collection) {kind : ComponentKind} (id : ComponentId kind) :
    Except SchemaError Collection :=
  match c.schemas[id.schema]? with
  | none => .ok c
  | some s =>
      match (s.get? id).bind kind.nameOf with
      | none => .error (.unnamedComponent kind s.key)
      | some name =>
          if (s.lookup? kind name).isSome then .error (.duplicateComponent kind name s.key)
          else
            let c := c.modify id.schema fun s =>
              { s with names := s.names ++ [⟨kind, name, id.index⟩] }
            .ok (c.settle name id)

/-- Append an item to a schema. -/
def addItem (c : Collection) (number : Nat) (item : SchemaItem) : Collection :=
  c.modify number (·.addItem item)

/-- Register a component and list it among the items of its schema. -/
def enlist (c : Collection) {kind : ComponentKind} (id : ComponentId kind) :
    Except SchemaError Collection := do
  let c ← c.register id
  return c.addItem id.schema (.component ⟨kind, id⟩)

/-- Add a top-level component.  A component that cannot be registered stays
with its schema, without a name there. -/
def add (c : Collection) (number : Nat) (kind : ComponentKind) (x : kind.Component) :
    Except SchemaError (ComponentId kind) × Collection :=
  let (id, c) := c.allocate number kind (kind.markTopLevel x)
  match c.enlist id with
  | .error e => (.error e, c)
  | .ok c => (.ok id, c)

end Collection

end XmlSchema
