import XmlSchema.Collection.Lookup
import XmlSchema.Component.Identity
import XmlSchema.Data.Value
import XmlSchema.Outline.Tree

/-!
# Outlines of components

The outline of a component shows its properties as a structured value.  The
components that it owns stand in place, and the components that it names by
their names.  A component that is not there is shown as dangling.  An identity
is written as the letters of its kind, the number of its schema and its place
there, as in `T0.2`; a qualified name in Clark notation.
-/

namespace XmlSchema

/-- The letters of a kind. -/
def ComponentKind.letters : ComponentKind → String
  | .type => "T"
  | .element => "E"
  | .attribute => "A"
  | .group => "G"
  | .attributeGroup => "AG"
  | .notationDecl => "N"

/-- The text of an identity. -/
def ComponentRef.text (r : ComponentRef) : String :=
  r.kind.letters ++ toString r.id.schema ++ "." ++ toString r.id.index

/-- The text of an identity of a known kind. -/
def ComponentId.text {kind : ComponentKind} (id : ComponentId kind) : String :=
  ComponentRef.text ⟨kind, id⟩

/-- The identity that a text spells. -/
def ComponentRef.ofText? (s : String) : Option ComponentRef := do
  let cs := s.toList
  let letters := String.ofList (cs.takeWhile Char.isUpper)
  let kind ← ComponentKind.listed.find? fun k => k.letters == letters
  match Text.splitOnChar '.' (cs.dropWhile Char.isUpper) with
  | [a, b] => return ⟨kind, ⟨← (String.ofList a).toNat?, ← (String.ofList b).toNat?⟩⟩
  | _ => none

/-- The name that Clark notation spells; a text that does not open with a
namespace is a local name. -/
def QName.ofText (s : String) : QName :=
  match s.toList with
  | '\x7b' :: rest =>
      match Text.splitAtFirst '\x7d' rest with
      | some (uri, localName) => ⟨String.ofList uri, String.ofList localName⟩
      | none => .ofLocal s
  | _ => .ofLocal s

namespace Outline

open Data

/-- The entries of an outline; an entry without a value is left out. -/
abbrev Entries := List (String × Option Value)

/-- A text that is there. -/
def text (s : String) : Option Value := some (.string s)

/-- A name that may be missing. -/
def name? (n : Option QName) : Option Value := n.map fun n => .string n.text

/-- An identity. -/
def identity {kind : ComponentKind} (id : ComponentId kind) : Value := .string id.text

/-- An identity that may be missing. -/
def identity? {kind : ComponentKind} : Option (ComponentId kind) → Value
  | none => .null
  | some id => identity id

/-- The outlines of foreign content. -/
def foreign? (content : List ForeignContent) : Option Value :=
  some? (content.map fun c => .record [("name", text c.name.text),
    match c.payload with
    | .attribute a => ("attr", some (ofAttribute a))
    | .element e => ("element", some (ofElement e))])

/-- The outline of an entry of an annotation. -/
def ofRemark (r : Remark) : Value :=
  .record [("kind", text r.audience.localName), ("source", text? r.source),
    ("lang", text? r.lang), ("markup", some? (ofNodes r.markup))]

/-- The outline of an annotation. -/
def ofAnnotation (a : Annotation) : Value :=
  .record [("xml_id", text? a.xmlId), ("items", some? (a.remarks.map ofRemark)),
    ("ext", foreign? a.foreign)]

/-- The annotation among the entries of an outline. -/
def noted (a : Option Annotation) : String × Option Value := ("annotation", a.map ofAnnotation)

/-- What every construct may carry. -/
def ofCommon (c : Common) : Entries :=
  [("xml_id", text? c.xmlId), noted c.note, ("ext", foreign? c.foreign)]

/-- A set of derivation methods, missing when it is empty. -/
def methods? (s : DerivationSet) : Option Value := if s.isEmpty then none else text s.text

/-- The outline of a facet. -/
def ofFacet (f : Facet) : Value :=
  .record [("facet", text f.kind.localName), ("value", text f.value), ("fixed", flag? f.fixed),
    ("xml_id", text? f.xmlId), noted f.note]

/-- The outline of a wildcard. -/
def ofWildcard (w : Wildcard) : Value :=
  .record ([("namespace", text? w.namespaces),
    ("processContents", text? (w.process.map ProcessContents.text))] ++ ofCommon w.common)

/-- The outline of a path. -/
def ofPath (p : PathExpression) : Value :=
  .record [("xpath", text p.path), ("xml_id", text? p.xmlId), noted p.note]

/-- The name that a key reference refers to. -/
def refer? : ConstraintKind → Option QName
  | .keyref name => some name
  | _ => none

/-- The outline of an identity constraint. -/
def ofConstraint (c : IdentityConstraint) : Value :=
  .record ([("kind", text c.kind.localName), ("name", text c.name.text),
    ("refer", name? (refer? c.kind)), ("selector", c.selector.map ofPath),
    ("fields", some? (c.fields.map ofPath))] ++ ofCommon c.common)

/-- How components that are owned by others are shown. -/
structure Owned where
  types : TypeId → Value
  elements : ElementId → Value
  attributes : AttributeId → Value

/-- The bounds of a particle. -/
def bounds (o : Occurs) : Entries :=
  [("min", text (toString o.min)), ("max", text (toString o.max))]

mutual

/-- The outline of a particle. -/
def ofParticle (o : Owned) : Particle → Value
  | .model occurs compositor common particles =>
      .record (bounds occurs ++ [(compositor.localName,
        some (.record (("particles", some? (ofParticles o particles)) :: ofCommon common)))])
  | .element occurs id => .record (bounds occurs ++ [("element", some (o.elements id))])
  | .any occurs w => .record (bounds occurs ++ [("any", some (ofWildcard w))])
  | .group occurs r =>
      .record (bounds occurs ++
        [("group", some (.record (("ref", text r.target.text) :: ofCommon r.common)))])

/-- The outlines of a list of particles. -/
def ofParticles (o : Owned) : List Particle → List Value
  | [] => []
  | p :: rest => ofParticle o p :: ofParticles o rest

end

/-- The outline of an attribute or a reference to a group of them. -/
def ofAttributeItem (o : Owned) : AttributeItem → Value
  | .attribute id => o.attributes id
  | .group r => .record (("group_ref", text r.target.text) :: ofCommon r.common)

/-- The entries of content. -/
def ofContent (o : Owned) (c : Content) : Entries :=
  [("particle", c.particle.map (ofParticle o)),
    ("attributes", some? (c.attributes.map (ofAttributeItem o))),
    ("anyAttribute", c.anyAttribute.map ofWildcard)]

/-- The entry of a derivation. -/
def ofDerivation (o : Owned) : Option Derivation → Entries
  | none => []
  | some d => [(d.step.localName, some (.record ([("base", name? d.base),
      ("simple_type", d.simpleType.map o.types), ("facets", some? (d.facets.map ofFacet))] ++
      ofContent o d.content ++ ofCommon d.common)))]

/-- The outline of a simple type. -/
def ofSimpleType (o : Owned) : SimpleType → Value
  | .unspecified => .table []
  | .builtin base => .record [("builtin", some (.bool true)), ("base", name? base)]
  | .restriction r => .record [("restriction", some (.record ([("base", name? r.base),
      ("base_type", r.baseType.map o.types), ("facets", some? (r.facets.map ofFacet))] ++
      ofCommon r.common)))]
  | .list l => .record [("list", some (.record ([("itemType", name? l.itemTypeName),
      ("item_type", l.itemType.map o.types)] ++ ofCommon l.common)))]
  | .union u => .record [("union", some (.record ([
      ("memberTypes", some? (u.memberNames.map fun n => .string n.text)),
      ("member_types", some? (u.memberTypes.map o.types))] ++ ofCommon u.common)))]

/-- The entry of a content model. -/
def ofContentModel (o : Owned) : ContentModel → Entries
  | .direct c => [("direct", some (.record (ofContent o c)))]
  | .simple c => [("simpleContent",
      some (.record (ofDerivation o c.derivation ++ ofCommon c.common)))]
  | .complex c => [("complexContent",
      some (.record (("mixed", c.mixed.map .bool) :: ofDerivation o c.derivation ++
        ofCommon c.common)))]

/-- The outline of a complex type. -/
def ofComplexType (o : Owned) (t : ComplexType) : Value :=
  .record ([("abstract", flag? t.isAbstract), ("mixed", t.mixed.map .bool),
    ("block", methods? t.block), ("builtin", flag? t.builtin),
    ("is_mixed", some (.bool t.isMixed)), ("base_name", name? t.baseName?)] ++
    ofContentModel o t.content)

/-- The entries of a type. -/
def ofType (o : Owned) (t : TypeDefinition) : Entries :=
  [("name", name? t.name), ("final", methods? t.finalSet),
    match t.body with
    | .simple s => ("simple", some (ofSimpleType o s))
    | .complex c => ("complex", some (ofComplexType o c))] ++ ofCommon t.common

/-- The entry of a type slot. -/
def ofSlot (o : Owned) : TypeSlot → Option Value
  | .absent => none
  | .named n resolved => some (.table [("named", .string n.text), ("resolved", identity? resolved)])
  | .anonymous id => some (.table [("anonymous", o.types id)])

/-- The entries of an element. -/
def ofElementDecl (o : Owned) (e : ElementDecl) : Entries :=
  [("name", name? e.name), ("ref", name? e.ref), ("type", ofSlot o e.type),
    ("default", text? e.default), ("fixed", text? e.fixed), ("nillable", flag? e.nillable),
    ("abstract", flag? e.isAbstract), ("substitutionGroup", name? e.substitutionGroup),
    ("block", methods? e.block), ("final", methods? e.finalSet),
    ("form", text? (e.form.map Form.text)), ("top_level", flag? e.topLevel),
    ("constraints", some? (e.constraints.map ofConstraint))] ++ ofCommon e.common

/-- The entries of an attribute. -/
def ofAttributeDecl (o : Owned) (a : AttributeDecl) : Entries :=
  [("name", name? a.name), ("ref", name? a.ref), ("type", ofSlot o a.type),
    ("use", text? (a.use.map AttributeUse.text)), ("default", text? a.default),
    ("fixed", text? a.fixed), ("form", text? (a.form.map Form.text)),
    ("top_level", flag? a.topLevel)] ++ ofCommon a.common

/-- The entries of a component. -/
def ofKind (o : Owned) : (kind : ComponentKind) → kind.Component → Entries
  | .type, t => ofType o t
  | .element, e => ofElementDecl o e
  | .attribute, a => ofAttributeDecl o a
  | .group, g =>
      [("name", name? g.name), ("particle", g.particle.map (ofParticle o))] ++ ofCommon g.common
  | .attributeGroup, g =>
      ("name", name? g.name) ::
        ofContent o { attributes := g.attributes, anyAttribute := g.anyAttribute } ++
        ofCommon g.common
  | .notationDecl, n =>
      [("name", name? n.name), ("public", text? n.publicId), ("system", text? n.systemId)] ++
        ofCommon n.common

/-- The outline of a component that may be missing. -/
def ofFound (o : Owned) (c : Collection) {kind : ComponentKind} (id : ComponentId kind) : Value :=
  match c.get? id with
  | none => .table [("id", identity id), ("dangling", .bool true)]
  | some x => .record (("id", some (identity id)) :: ofKind o kind x)

/-- Owned components shown down to a given depth, below it by their identity
alone. -/
def Owned.within (c : Collection) : Nat → Owned
  | 0 => ⟨identity, identity, identity⟩
  | depth + 1 =>
      ⟨fun id => ofFound (Owned.within c depth) c id,
       fun id => ofFound (Owned.within c depth) c id,
       fun id => ofFound (Owned.within c depth) c id⟩

/-- The number of components of a collection, which bounds how deeply they can
own each other. -/
def componentCount (c : Collection) : Nat :=
  (c.schemas.toList.map fun s =>
    (ComponentKind.listed.map fun kind => s.components.count kind).foldr (· + ·) 0).foldr
      (· + ·) 0

/-- The outline of a component. -/
def ofComponent (c : Collection) (r : ComponentRef) : Value :=
  ofFound (Owned.within c (componentCount c)) c r.id

end Outline

end XmlSchema
