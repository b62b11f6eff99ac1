import XmlSchema.Outline.Schema

/-!
# Components from outlines

Reading an outline back.  Owned components are given by their identities, which
must be known; everything else that is missing takes its usual value.
-/

namespace XmlSchema.Outline

open Data

/-- The identity that stands where none, or an unknown one, may stand. -/
structure UnknownIdentity where
  text : String

/-- A reading that may come upon an unknown identity. -/
abbrev Reading := Except UnknownIdentity

/-- The identities that a reading may come upon. -/
abbrev Known := String → Bool

/-- The name under a key. -/
def nameAt? (v : Value) (key : String) : Option QName := (v.stringAt? key).map QName.ofText

/-- The name under a key that must be there. -/
def nameAt (v : Value) (key : String) : QName := (nameAt? v key).getD (.ofLocal "")

/-- Foreign content. -/
def toForeign (v : Value) : List ForeignContent :=
  (v.itemsAt "ext").map fun e =>
    { name := nameAt e "name"
      payload :=
        match e.field? "attr" with
        | some a => .attribute (toAttribute a)
        | none => .element (toElement ((e.field? "element").getD .null)) }

/-- An entry of an annotation. -/
def toRemark (v : Value) : Remark :=
  { audience := if v.stringAt? "kind" = some "appinfo" then .applications else .readers
    source := v.stringAt? "source", lang := v.stringAt? "lang"
    markup := (v.itemsAt "markup").map toNode }

/-- An annotation. -/
def toAnnotation (v : Value) : Annotation :=
  { xmlId := v.stringAt? "xml_id", remarks := (v.itemsAt "items").map toRemark
    foreign := toForeign v }

/-- The annotation of a construct. -/
def noteOf (v : Value) : Option Annotation := (v.field? "annotation").map toAnnotation

/-- What every construct may carry. -/
def toCommon (v : Value) : Common :=
  { xmlId := v.stringAt? "xml_id", note := noteOf v, foreign := toForeign v }

/-- The set of derivation methods under a key. -/
def methodsAt (v : Value) (key : String) : DerivationSet :=
  ((v.stringAt? key).map DerivationSet.parse).getD {}

/-- A facet. -/
def toFacet (v : Value) : Facet :=
  { kind := ((v.stringAt? "facet").bind FacetKind.ofLocalName?).getD .pattern
    value := (v.stringAt? "value").getD "", fixed := v.flagAt "fixed"
    xmlId := v.stringAt? "xml_id", note := noteOf v }

/-- A wildcard. -/
def toWildcard (v : Value) : Wildcard :=
  { namespaces := v.stringAt? "namespace"
    process := (v.stringAt? "processContents").bind ProcessContents.parse?
    common := toCommon v }

/-- A path. -/
def toPath (v : Value) : PathExpression :=
  { path := (v.stringAt? "xpath").getD "", xmlId := v.stringAt? "xml_id", note := noteOf v }

/-- An identity constraint. -/
def toConstraint (v : Value) : IdentityConstraint :=
  { kind :=
      match v.stringAt? "kind" with
      | some "keyref" => .keyref (nameAt v "refer")
      | some "unique" => .unique
      | _ => .key
    name := nameAt v "name", selector := (v.field? "selector").map toPath
    fields := (v.itemsAt "fields").map toPath, common := toCommon v }

/-- The text of the identity that a value gives, alone or in a table. -/
def identityText (v : Value) : String := (v.stringAt? "id").getD (v.asString?.getD "")

/-- The known identity of a kind that a value gives. -/
def toIdentity (known : Known) (kind : ComponentKind) (v : Value) :
    Reading (ComponentId kind) :=
  match ComponentRef.ofText? (identityText v) with
  | some r =>
      if known (identityText v) && r.kind = kind then .ok ⟨r.id.schema, r.id.index⟩
      else .error ⟨identityText v⟩
  | none => .error ⟨identityText v⟩

/-- The identity under a key, when there is one. -/
def identityAt? (known : Known) (kind : ComponentKind) (v : Value) (key : String) :
    Reading (Option (ComponentId kind)) :=
  match v.field? key with
  | none => .ok none
  | some x => (toIdentity known kind x).map some

/-- The type of a declaration. -/
def toSlot (known : Known) (v : Value) : Reading TypeSlot :=
  match v.field? "type" with
  | none => .ok .absent
  | some t =>
      match t.field? "anonymous" with
      | some a => (toIdentity known .type a).map .anonymous
      | none => (identityAt? known .type t "resolved").map (.named (nameAt t "named"))

/-- The bound under a key. -/
def boundAt (v : Value) (key : String) : Nat := ((v.stringAt? key).bind String.toNat?).getD 1

/-- The compositor that a value has an entry for. -/
def compositorOf? (v : Value) : Option (Compositor × Value) :=
  [Compositor.sequence, .choice, .all].findSome? fun c => (v.field? c.localName).map fun g => (c, g)

/-- A particle that is nested to a given depth at most. -/
def toParticleWithin (known : Known) : Nat → Value → Reading Particle
  | 0, _ => .error ⟨""⟩
  | fuel + 1, v => do
      let occurs : Occurs := ⟨boundAt v "min", boundAt v "max"⟩
      match compositorOf? v, v.field? "element", v.field? "any" with
      | some (c, g), _, _ =>
          return .model occurs c (toCommon g)
            (← (g.itemsAt "particles").mapM (toParticleWithin known fuel))
      | none, some e, _ => return .element occurs (← toIdentity known .element e)
      | none, none, some w => return .any occurs (toWildcard w)
      | none, none, none =>
          let g := (v.field? "group").getD .null
          return .group occurs { target := nameAt g "ref", common := toCommon g }

/-- A particle. -/
def toParticle (known : Known) (v : Value) : Reading Particle :=
  toParticleWithin known (v.depth + 1) v

/-- An attribute or a reference to a group of them. -/
def toAttributeItem (known : Known) (v : Value) : Reading AttributeItem :=
  match nameAt? v "group_ref" with
  | some target => .ok (.group { target, common := toCommon v })
  | none => (toIdentity known .attribute v).map .attribute

/-- Content. -/
def toContent (known : Known) (v : Value) : Reading Content := do
  let particle ← (v.field? "particle").mapM (toParticle known)
  let attributes ← (v.itemsAt "attributes").mapM (toAttributeItem known)
  return { particle, attributes, anyAttribute := (v.field? "anyAttribute").map toWildcard }

/-- The derivation that a value has an entry for. -/
def derivationOf? (v : Value) : Option (DerivationStep × Value) :=
  [DerivationStep.extension, .restriction].findSome? fun s =>
    (v.field? s.localName).map fun d => (s, d)

/-- A derivation. -/
def toDerivation (known : Known) (v : Value) : Reading (Option Derivation) :=
  match derivationOf? v with
  | none => .ok none
  | some (step, d) => do
      let content ← toContent known d
      let simpleType ← identityAt? known .type d "simple_type"
      return some { step, base := nameAt? d "base", content, simpleType
                    facets := (d.itemsAt "facets").map toFacet, common := toCommon d }

/-- A simple type. -/
def toSimpleType (known : Known) (v : Value) : Reading SimpleType :=
  if v.flagAt "builtin" then .ok (.builtin (nameAt? v "base"))
  else
    match v.field? "restriction", v.field? "list", v.field? "union" with
    | some r, _, _ => do
        let baseType ← identityAt? known .type r "base_type"
        return .restriction { base := nameAt? r "base", baseType
                              facets := (r.itemsAt "facets").map toFacet, common := toCommon r }
    | none, some l, _ => do
        let itemType ← identityAt? known .type l "item_type"
        return .list { itemTypeName := nameAt? l "itemType", itemType, common := toCommon l }
    | none, none, some u => do
        let memberTypes ← (u.itemsAt "member_types").mapM (toIdentity known .type)
        return .union { memberNames := (u.stringsAt "memberTypes").map QName.ofText, memberTypes
                        common := toCommon u }
    | none, none, none => .ok .unspecified

/-- A content model. -/
def toContentModel (known : Known) (v : Value) : Reading ContentModel :=
  match v.field? "simpleContent", v.field? "complexContent" with
  | some s, _ => do
      return .simple { derivation := ← toDerivation known s, common := toCommon s }
  | none, some s => do
      return .complex { mixed := s.boolAt? "mixed", derivation := ← toDerivation known s
                        common := toCommon s }
  | none, none => (toContent known ((v.field? "direct").getD .null)).map .direct

/-- What a type is. -/
def toTypeBody (known : Known) (v : Value) : Reading TypeBody :=
  match v.field? "complex" with
  | none => (toSimpleType known ((v.field? "simple").getD .null)).map .simple
  | some c => do
      let content ← toContentModel known c
      return .complex { isAbstract := c.flagAt "abstract", mixed := c.boolAt? "mixed"
                        block := methodsAt c "block", content, builtin := c.flagAt "builtin" }

/-- An element. -/
def toElementDecl (known : Known) (v : Value) : Reading ElementDecl := do
  let type ← toSlot known v
  return { name := nameAt? v "name", ref := nameAt? v "ref", type
           default := v.stringAt? "default", fixed := v.stringAt? "fixed"
           nillable := v.flagAt "nillable", isAbstract := v.flagAt "abstract"
           substitutionGroup := nameAt? v "substitutionGroup", block := methodsAt v "block"
           finalSet := methodsAt v "final", form := (v.stringAt? "form").bind Form.parse?
           constraints := (v.itemsAt "constraints").map toConstraint
           topLevel := v.flagAt "top_level", common := toCommon v }

/-- An attribute declaration. -/
def toAttributeDecl (known : Known) (v : Value) : Reading AttributeDecl := do
  let type ← toSlot known v
  return { name := nameAt? v "name", ref := nameAt? v "ref", type
           use := (v.stringAt? "use").bind AttributeUse.parse?
           default := v.stringAt? "default", fixed := v.stringAt? "fixed"
           form := (v.stringAt? "form").bind Form.parse?
           topLevel := v.flagAt "top_level", common := toCommon v }

/-- A component of a kind. -/
def toComponent (known : Known) (v : Value) : (kind : ComponentKind) → Reading kind.Component
  | .type => do
      let body ← toTypeBody known v
      return ({ name := nameAt? v "name", finalSet := methodsAt v "final", common := toCommon v
                body } : TypeDefinition)
  | .element => toElementDecl known v
  | .attribute => toAttributeDecl known v
  | .group => do
      let content ← toContent known v
      return ({ name := nameAt? v "name", particle := content.particle
                common := toCommon v } : GroupDefinition)
  | .attributeGroup => do
      let content ← toContent known v
      return ({ name := nameAt? v "name", attributes := content.attributes
                anyAttribute := content.anyAttribute
                common := toCommon v } : AttributeGroupDefinition)
  | .notationDecl =>
      .ok ({ name := nameAt? v "name", publicId := v.stringAt? "public"
             systemId := v.stringAt? "system", common := toCommon v } : NotationDecl)

/-- A redefined component. -/
def toRedefined (known : Known) (v : Value) : Reading ComponentRef :=
  match ComponentKind.listed.findSome? fun k => (v.field? (itemKey k)).map fun x => (k, x) with
  | some (kind, x) => (toIdentity known kind x).map fun id => ⟨kind, id⟩
  | none => .error ⟨""⟩

/-- A reference to another document. -/
def toExternal (known : Known) (v : Value) : Reading ExternalRef := do
  let redefined ← (v.itemsAt "redefined").mapM (toRedefined known)
  return { kind :=
             match v.stringAt? "kind" with
             | some "import" => .importation
             | some "redefine" => .redefinition
             | _ => .inclusion
           location := v.stringAt? "schemaLocation", namespaceName := v.stringAt? "namespace"
           target := v.natAt? "target", redefined, common := toCommon v }

end XmlSchema.Outline
