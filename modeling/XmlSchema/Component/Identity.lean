import XmlSchema.QName

/-!
# Identities of schemas and components

A schema is known by its logical namespace and its locator.  A component is
known by its kind, the number of the schema that owns it, and its place among
the components of that kind.
-/

namespace XmlSchema

/-- The identity of a schema: its logical namespace and its locator. -/
structure SchemaKey where
  namespaceName : String
  locator : String
  deriving DecidableEq, Repr, Inhabited

/-- The text of a schema key. -/
def SchemaKey.text (key : SchemaKey) : String :=
  "[" ++ key.namespaceName ++ "] " ++ key.locator

/-- The kinds of components, each with names of its own. -/
inductive ComponentKind where
  | element
  | attribute
  | type
  | group
  | attributeGroup
  | notationDecl
  deriving DecidableEq, Repr, Inhabited

namespace ComponentKind

/-- The text of a kind. -/
def text : ComponentKind → String
  | element => "element"
  | .attribute => "attribute"
  | type => "type"
  | group => "group"
  | attributeGroup => "attribute group"
  | notationDecl => "notation"

/-- The kinds in the order in which they are told apart. -/
def rank : ComponentKind → Nat
  | element => 0
  | .attribute => 1
  | type => 2
  | group => 3
  | attributeGroup => 4
  | notationDecl => 5

/-- The kinds in the order in which the components of a schema are listed. -/
def listed : List ComponentKind :=
  [type, element, .attribute, group, attributeGroup, notationDecl]

end ComponentKind

/-- The identity of a component of a given kind. -/
structure ComponentId (kind : ComponentKind) where
  schema : Nat
  index : Nat
  deriving DecidableEq, Repr, Inhabited

/-- The identity of a component of any kind. -/
structure ComponentRef where
  kind : ComponentKind
  id : ComponentId kind
  deriving DecidableEq, Repr, Inhabited

/-- The identity of a simple or complex type. -/
abbrev TypeId := ComponentId .type
/-- The identity of an element declaration or reference. -/
abbrev ElementId := ComponentId .element
/-- The identity of an attribute declaration or reference. -/
abbrev AttributeId := ComponentId .attribute
/-- The identity of a named model group. -/
abbrev GroupId := ComponentId .group
/-- The identity of a named attribute group. -/
abbrev AttributeGroupId := ComponentId .attributeGroup
/-- The identity of a notation. -/
abbrev NotationId := ComponentId .notationDecl

end XmlSchema
