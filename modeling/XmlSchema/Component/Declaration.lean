import XmlSchema.Component.TypeDefinition

/-!
# Declarations

Element and attribute declarations, named groups, notations, references to
other documents, and the items of a schema.
-/

namespace XmlSchema

/-- The type of a declaration: none, named and perhaps found, or defined in
place. -/
inductive TypeSlot where
  | absent
  | named (name : QName) (resolved : Option TypeId)
  | anonymous (id : TypeId)
  deriving DecidableEq, Repr, Inhabited

namespace TypeSlot

/-- The type in the slot, when it is known. -/
def typeId? : TypeSlot → Option TypeId
  | absent => none
  | named _ resolved => resolved
  | anonymous id => some id

/-- The name in the slot. -/
def typeName? : TypeSlot → Option QName
  | named name _ => some name
  | _ => none

/-- The name of a type that is still to be found. -/
def pending? : TypeSlot → Option QName
  | named name none => some name
  | _ => none

/-- Put a found type into a slot that names one. -/
def fill (slot : TypeSlot) (id : TypeId) : TypeSlot :=
  match slot with
  | named name _ => named name (some id)
  | other => other

end TypeSlot

/-- A path that selects nodes; it is kept as written. -/
structure PathExpression where
  path : String := ""
  xmlId : Option String := none
  note : Option Annotation := none
  deriving Repr, Inhabited

/-- What an identity constraint demands. -/
inductive ConstraintKind where
  | key
  | keyref (refer : QName)
  | unique
  deriving DecidableEq, Repr, Inhabited

/-- The name of the construct of an identity constraint. -/
def ConstraintKind.localName : ConstraintKind → String
  | key => "key"
  | keyref _ => "keyref"
  | unique => "unique"

/-- An identity constraint. -/
structure IdentityConstraint where
  kind : ConstraintKind
  name : QName
  selector : Option PathExpression := none
  fields : List PathExpression := []
  common : Common := {}
  deriving Repr, Inhabited

/-- An element declaration, or a reference to a global one. -/
structure ElementDecl where
  name : Option QName := none
  ref : Option QName := none
  type : TypeSlot := .absent
  default : Option String := none
  fixed : Option String := none
  nillable : Bool := false
  isAbstract : Bool := false
  substitutionGroup : Option QName := none
  block : DerivationSet := {}
  finalSet : DerivationSet := {}
  form : Option Form := none
  constraints : List IdentityConstraint := []
  topLevel : Bool := false
  common : Common := {}
  deriving Repr, Inhabited

/-- An attribute declaration, or a reference to a global one. -/
structure AttributeDecl where
  name : Option QName := none
  ref : Option QName := none
  type : TypeSlot := .absent
  use : Option AttributeUse := none
  default : Option String := none
  fixed : Option String := none
  form : Option Form := none
  topLevel : Bool := false
  common : Common := {}
  deriving Repr, Inhabited

/-- A named model group. -/
structure GroupDefinition where
  name : Option QName := none
  particle : Option Particle := none
  common : Common := {}
  deriving Repr, Inhabited

/-- A named group of attributes. -/
structure AttributeGroupDefinition where
  name : Option QName := none
  attributes : List AttributeItem := []
  anyAttribute : Option Wildcard := none
  common : Common := {}
  deriving Repr, Inhabited

/-- A notation. -/
structure NotationDecl where
  name : Option QName := none
  publicId : Option String := none
  systemId : Option String := none
  common : Common := {}
  deriving Repr, Inhabited

/-- The components of a kind. -/
abbrev ComponentKind.Component : ComponentKind → Type
  | .element => ElementDecl
  | .attribute => AttributeDecl
  | .type => TypeDefinition
  | .group => GroupDefinition
  | .attributeGroup => AttributeGroupDefinition
  | .notationDecl => NotationDecl

/-- The name of a component. -/
def ComponentKind.nameOf : (kind : ComponentKind) → kind.Component → Option QName
  | .element, c => c.name
  | .attribute, c => c.name
  | .type, c => c.name
  | .group, c => c.name
  | .attributeGroup, c => c.name
  | .notationDecl, c => c.name

/-- How a schema refers to another document. -/
inductive ExternalKind where
  | inclusion
  | importation
  | redefinition
  deriving DecidableEq, Repr, Inhabited

/-- The name of the construct of a reference. -/
def ExternalKind.localName : ExternalKind → String
  | inclusion => "include"
  | importation => "import"
  | redefinition => "redefine"

/-- A reference to another document.  The definitions of a redefinition belong
to the redefining schema, without names there. -/
structure ExternalRef where
  kind : ExternalKind
  location : Option String := none
  namespaceName : Option String := none
  target : Option Nat := none
  redefined : List ComponentRef := []
  common : Common := {}
  deriving Repr, Inhabited

/-- A top-level item of a schema. -/
inductive SchemaItem where
  | note (a : Annotation)
  | external (e : ExternalRef)
  | component (ref : ComponentRef)
  deriving Repr, Inhabited

/-- The reference to another document that an item is. -/
def SchemaItem.external? : SchemaItem → Option ExternalRef
  | external e => some e
  | note _ => none
  | component _ => none

end XmlSchema
