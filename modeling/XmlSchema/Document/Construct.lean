import XmlSchema.Component.Schema

/-!
# Constructs of the schema language

The elements of the schema language by name, and the part each of them plays
where it stands.  The same construct plays different parts in different
places: an `element` is a global declaration at the top level and a particle
inside a compositor.
-/

namespace XmlSchema

/-- The elements of the schema language. -/
inductive Construct where
  | note
  | remark (audience : Audience)
  | external (kind : ExternalKind)
  | simpleType
  | complexType
  | element
  | attribute
  | group
  | attributeGroup
  | notationDecl
  | compositor (c : Compositor)
  | any
  | anyAttribute
  | simpleContent
  | complexContent
  | derivation (step : DerivationStep)
  | list
  | union
  | key
  | keyref
  | unique
  | selector
  | field
  | facet (kind : FacetKind)
  deriving DecidableEq, Repr

namespace Construct

/-- The names of the constructs that are no facets. -/
def table : List (String × Construct) :=
  [("annotation", .note),
   ("appinfo", .remark .applications),
   ("documentation", .remark .readers),
   ("include", .external .inclusion),
   ("import", .external .importation),
   ("redefine", .external .redefinition),
   ("simpleType", .simpleType),
   ("complexType", .complexType),
   ("element", .element),
   ("attribute", .attribute),
   ("group", .group),
   ("attributeGroup", .attributeGroup),
   ("notation", .notationDecl),
   ("sequence", .compositor .sequence),
   ("choice", .compositor .choice),
   ("all", .compositor .all),
   ("any", .any),
   ("anyAttribute", .anyAttribute),
   ("simpleContent", .simpleContent),
   ("complexContent", .complexContent),
   ("extension", .derivation .extension),
   ("restriction", .derivation .restriction),
   ("list", .list),
   ("union", .union),
   ("key", .key),
   ("keyref", .keyref),
   ("unique", .unique),
   ("selector", .selector),
   ("field", .field)]

/-- The construct with a given name. -/
def ofLocalName? (name : String) : Option Construct :=
  match table.lookup name with
  | some construct => some construct
  | none => (FacetKind.ofLocalName? name).map .facet

end Construct

/-- What a child element is to the construct around it. -/
inductive ChildClass where
  | known (construct : Construct)
  | unknown
  | foreign
  deriving DecidableEq, Repr

/-- Tell the constructs of the schema language from unknown elements of its
namespace and from foreign elements. -/
def ChildClass.of (name : Xml.Name) : ChildClass :=
  if name.namespaceName ≠ schemaNamespace then .foreign
  else
    match Construct.ofLocalName? name.localName with
    | some construct => .known construct
    | none => .unknown

/-- The part that a construct plays where it stands.  A definition is `named`
when it is global or replaces one of a redefined document. -/
inductive Role where
  | note
  | remark (audience : Audience)
  | simpleType (named : Bool)
  | complexType (named : Bool)
  | restriction
  | list
  | union
  | simpleContent
  | complexContent
  | derivation (step : DerivationStep)
  | compositor (c : Compositor)
  | groupRef
  | any
  | anyAttribute
  | element (topLevel : Bool)
  | attribute (topLevel : Bool)
  | attributeGroupRef
  | group
  | attributeGroup
  | notationDecl
  | constraint (construct : Construct)
  | selector
  | field
  | facet (kind : FacetKind)
  deriving DecidableEq, Repr

namespace Role

/-- The parts played at the top level of a schema, references to other
documents aside. -/
def ofTopLevel? : Construct → Option Role
  | .note => some .note
  | .simpleType => some (.simpleType true)
  | .complexType => some (.complexType true)
  | .element => some (.element true)
  | .attribute => some (.attribute true)
  | .group => some .group
  | .attributeGroup => some .attributeGroup
  | .notationDecl => some .notationDecl
  | _ => none

/-- The parts played inside a redefinition. -/
def ofRedefinition? : Construct → Option Role
  | .simpleType => some (.simpleType true)
  | .complexType => some (.complexType true)
  | .group => some .group
  | .attributeGroup => some .attributeGroup
  | _ => none

/-- The part of a particle with attributes. -/
def ofContent? : Construct → Option Role
  | .compositor c => some (.compositor c)
  | .group => some .groupRef
  | .attribute => some (.attribute false)
  | .attributeGroup => some .attributeGroupRef
  | .anyAttribute => some .anyAttribute
  | _ => none

end Role

end XmlSchema
