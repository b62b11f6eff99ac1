import XmlSchema.Component.Declaration

/-!
# Schemas

A schema is one document: its settings, its top-level items in order, all
components that it owns, and the names registered for them.  Components
defined in place are owned like the others but have no registered name.
-/

namespace XmlSchema

/-- How far the reading of a schema has come. -/
inductive Progress where
  | new
  | topLevelPass
  | complete
  deriving DecidableEq, Repr, Inhabited

/-- A located document.  The ticket tells apart two readings of one place. -/
structure Source where
  locator : String
  document : Xml.Element
  ticket : Nat := 0
  deriving Repr, Inhabited

/-- All components of a schema, by kind. -/
structure Components where
  elements : Array ElementDecl := #[]
  attributes : Array AttributeDecl := #[]
  types : Array TypeDefinition := #[]
  groups : Array GroupDefinition := #[]
  attributeGroups : Array AttributeGroupDefinition := #[]
  notations : Array NotationDecl := #[]
  deriving Repr, Inhabited

namespace Components

/-- The components of one kind. -/
def ofKind (c : Components) : (kind : ComponentKind) → Array kind.Component
  | .element => c.elements
  | .attribute => c.attributes
  | .type => c.types
  | .group => c.groups
  | .attributeGroup => c.attributeGroups
  | .notationDecl => c.notations

/-- Append a component. -/
def push (c : Components) : (kind : ComponentKind) → kind.Component → Components
  | .element, x => { c with elements := c.elements.push x }
  | .attribute, x => { c with attributes := c.attributes.push x }
  | .type, x => { c with types := c.types.push x }
  | .group, x => { c with groups := c.groups.push x }
  | .attributeGroup, x => { c with attributeGroups := c.attributeGroups.push x }
  | .notationDecl, x => { c with notations := c.notations.push x }

/-- The number of components of one kind. -/
def count (c : Components) (kind : ComponentKind) : Nat := (c.ofKind kind).size

theorem ofKind_push (c : Components) (kind : ComponentKind) (x : kind.Component) :
    (c.push kind x).ofKind kind = (c.ofKind kind).push x := by
  cases kind <;> rfl

theorem ofKind_push_of_ne (c : Components) {kind other : ComponentKind} (x : kind.Component)
    (h : other ≠ kind) : (c.push kind x).ofKind other = c.ofKind other := by
  cases kind <;> cases other <;> first | rfl | exact absurd rfl h

end Components

/-- A registered name with the place of its component. -/
structure Registration where
  kind : ComponentKind
  name : QName
  index : Nat
  deriving DecidableEq, Repr, Inhabited

/-- One schema document. -/
structure Schema where
  number : Nat
  key : SchemaKey
  targetNamespace : Option String := none
  parent : Option SchemaKey := none
  bindings : Bindings := {}
  elementFormDefault : Option Form := none
  attributeFormDefault : Option Form := none
  blockDefault : Option DerivationSet := none
  finalDefault : Option DerivationSet := none
  version : Option String := none
  xmlId : Option String := none
  foreign : List ForeignContent := []
  progress : Progress := .new
  source : Option Source := none
  builtin : Bool := false
  items : List SchemaItem := []
  components : Components := {}
  names : List Registration := []
  deriving Repr, Inhabited

namespace Schema

/-- The namespace of the names that the schema registers. -/
def logicalNamespace (s : Schema) : String := s.key.namespaceName

/-- The form of local elements that do not say otherwise. -/
def elementForm (s : Schema) : Form := s.elementFormDefault.getD .unqualified

/-- The form of local attributes that do not say otherwise. -/
def attributeForm (s : Schema) : Form := s.attributeFormDefault.getD .unqualified

/-- The references to other documents, in item order. -/
def externals (s : Schema) : List ExternalRef := s.items.filterMap SchemaItem.external?

/-- A component owned by the schema. -/
def get? (s : Schema) {kind : ComponentKind} (id : ComponentId kind) : Option kind.Component :=
  if id.schema = s.number then (s.components.ofKind kind)[id.index]? else none

/-- Own a new component. -/
def allocate (s : Schema) (kind : ComponentKind) (x : kind.Component) :
    ComponentId kind × Schema :=
  (⟨s.number, s.components.count kind⟩, { s with components := s.components.push kind x })

/-- The names registered for one kind, in order. -/
def namesOf (s : Schema) (kind : ComponentKind) : List Registration :=
  s.names.filter (·.kind == kind)

/-- The component registered under a name. -/
def lookup? (s : Schema) (kind : ComponentKind) (name : QName) : Option (ComponentId kind) :=
  (s.names.find? fun r => r.kind == kind && r.name == name).map fun r => ⟨s.number, r.index⟩

/-- All registered names, kind by kind. -/
def componentNames (s : Schema) : List (ComponentKind × QName) :=
  ComponentKind.listed.flatMap fun kind => (s.namesOf kind).map fun r => (kind, r.name)

/-- Append an item. -/
def addItem (s : Schema) (item : SchemaItem) : Schema :=
  { s with items := s.items ++ [item] }

/-- The name that a top-level component of the schema has. -/
def qualify (s : Schema) (localName : String) : QName := ⟨s.logicalNamespace, localName⟩

end Schema

end XmlSchema
