import XmlSchema.Component.Particle

/-!
# Type definitions

Simple types with their varieties and facets, and complex types with their
content models.  Types defined in place are kept by their identity.
-/

namespace XmlSchema

/-- The kinds of constraining facets. -/
inductive FacetKind where
  | minExclusive
  | minInclusive
  | maxExclusive
  | maxInclusive
  | totalDigits
  | fractionDigits
  | length
  | minLength
  | maxLength
  | enumeration
  | whiteSpace
  | pattern
  deriving DecidableEq, Repr, Inhabited

namespace FacetKind

/-- The name of the construct of a facet. -/
def localName : FacetKind → String
  | minExclusive => "minExclusive"
  | minInclusive => "minInclusive"
  | maxExclusive => "maxExclusive"
  | maxInclusive => "maxInclusive"
  | totalDigits => "totalDigits"
  | fractionDigits => "fractionDigits"
  | length => "length"
  | minLength => "minLength"
  | maxLength => "maxLength"
  | enumeration => "enumeration"
  | whiteSpace => "whiteSpace"
  | pattern => "pattern"

/-- All kinds of facets. -/
def every : List FacetKind :=
  [minExclusive, minInclusive, maxExclusive, maxInclusive, totalDigits, fractionDigits,
   length, minLength, maxLength, enumeration, whiteSpace, pattern]

/-- The facet whose construct has a given name. -/
def ofLocalName? (name : String) : Option FacetKind :=
  every.find? fun k => k.localName == name

end FacetKind

/-- A constraining facet; its value is kept as written. -/
structure Facet where
  kind : FacetKind
  value : String
  fixed : Bool := false
  xmlId : Option String := none
  note : Option Annotation := none
  deriving Repr, Inhabited

/-- A restriction of a simple type. -/
structure SimpleRestriction where
  base : Option QName := none
  baseType : Option TypeId := none
  facets : List Facet := []
  common : Common := {}
  deriving Repr, Inhabited

/-- A list of a simple type. -/
structure SimpleList where
  itemTypeName : Option QName := none
  itemType : Option TypeId := none
  common : Common := {}
  deriving Repr, Inhabited

/-- A union of simple types. -/
structure SimpleUnion where
  memberNames : List QName := []
  memberTypes : List TypeId := []
  common : Common := {}
  deriving Repr, Inhabited

/-- How a simple type is defined. -/
inductive SimpleType where
  | builtin (base : Option QName)
  | restriction (r : SimpleRestriction)
  | list (l : SimpleList)
  | union (u : SimpleUnion)
  | unspecified
  deriving Repr, Inhabited

/-- A reference to a named attribute group. -/
structure AttributeGroupRef where
  target : QName
  common : Common := {}
  deriving Repr, Inhabited

/-- An attribute, or a reference to a group of attributes. -/
inductive AttributeItem where
  | attribute (id : AttributeId)
  | group (ref : AttributeGroupRef)
  deriving Repr, Inhabited

/-- A particle with attributes. -/
structure Content where
  particle : Option Particle := none
  attributes : List AttributeItem := []
  anyAttribute : Option Wildcard := none
  deriving Repr, Inhabited

/-- Whether a derivation adds to its base or narrows it. -/
inductive DerivationStep where
  | extension
  | restriction
  deriving DecidableEq, Repr, Inhabited

/-- The name of the construct of a derivation. -/
def DerivationStep.localName : DerivationStep → String
  | extension => "extension"
  | restriction => "restriction"

/-- The derivation of a complex type.  Not every part makes sense in every
content model; those that do not cannot be written. -/
structure Derivation where
  step : DerivationStep
  base : Option QName := none
  content : Content := {}
  simpleType : Option TypeId := none
  facets : List Facet := []
  common : Common := {}
  deriving Repr, Inhabited

/-- Content that is text of a simple type. -/
structure SimpleContent where
  derivation : Option Derivation := none
  common : Common := {}
  deriving Repr, Inhabited

/-- Content that holds elements. -/
structure ComplexContent where
  mixed : Option Bool := none
  derivation : Option Derivation := none
  common : Common := {}
  deriving Repr, Inhabited

/-- The content model of a complex type. -/
inductive ContentModel where
  | direct (content : Content)
  | simple (content : SimpleContent)
  | complex (content : ComplexContent)
  deriving Repr, Inhabited

/-- The derivation of a content model. -/
def ContentModel.derivation? : ContentModel → Option Derivation
  | direct _ => none
  | simple c => c.derivation
  | complex c => c.derivation

/-- The content of a content model: its own or that of its derivation. -/
def ContentModel.content : ContentModel → Content
  | direct c => c
  | simple c => (c.derivation.map Derivation.content).getD {}
  | complex c => (c.derivation.map Derivation.content).getD {}

/-- A complex type. -/
structure ComplexType where
  isAbstract : Bool := false
  mixed : Option Bool := none
  block : DerivationSet := {}
  content : ContentModel := .direct {}
  builtin : Bool := false
  deriving Repr, Inhabited

namespace ComplexType

/-- Whether text may stand between the elements; what the content model says
goes first. -/
def isMixed (c : ComplexType) : Bool :=
  let inner :=
    match c.content with
    | .complex content => content.mixed
    | _ => none
  (inner <|> c.mixed).getD false

/-- The base type of the content model. -/
def baseName? (c : ComplexType) : Option QName :=
  c.content.derivation?.bind Derivation.base

end ComplexType

/-- A simple or a complex type. -/
inductive TypeBody where
  | simple (t : SimpleType)
  | complex (t : ComplexType)
  deriving Repr, Inhabited

/-- A named or anonymous type. -/
structure TypeDefinition where
  name : Option QName := none
  finalSet : DerivationSet := {}
  common : Common := {}
  body : TypeBody
  deriving Repr, Inhabited

namespace TypeDefinition

/-- Whether the type is simple. -/
def isSimple (t : TypeDefinition) : Bool :=
  match t.body with
  | .simple _ => true
  | .complex _ => false

/-- Whether the type belongs to the built-in catalogue. -/
def isBuiltin (t : TypeDefinition) : Bool :=
  match t.body with
  | .simple (.builtin _) => true
  | .simple _ => false
  | .complex c => c.builtin

end TypeDefinition

end XmlSchema
