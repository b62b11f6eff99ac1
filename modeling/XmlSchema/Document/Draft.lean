import XmlSchema.Document.Construct

/-!
# Drafts of constructs

A draft is a construct that is being read.  It says which children it takes
and in which part, and takes up each part once that has been read; a part
that can occur only once is replaced by a later one.
-/

namespace XmlSchema

/-- A construct that is being read. -/
inductive Draft where
  | external (e : ExternalRef)
  | note (a : Annotation)
  | simpleType (t : TypeDefinition)
  | complexType (t : TypeDefinition) (c : ComplexType) (direct : Content)
      (model : Option ContentModel)
  | restriction (r : SimpleRestriction)
  | list (l : SimpleList)
  | union (u : SimpleUnion)
  | simpleContent (c : SimpleContent)
  | complexContent (c : ComplexContent)
  | derivation (d : Derivation)
  | compositor (occurs : Occurs) (c : Compositor) (common : Common) (particles : List Particle)
  | groupRef (occurs : Occurs) (r : GroupRef)
  | any (occurs : Occurs) (w : Wildcard)
  | anyAttribute (w : Wildcard)
  | element (occurs : Occurs) (e : ElementDecl)
  | attribute (a : AttributeDecl)
  | attributeGroupRef (r : AttributeGroupRef)
  | group (g : GroupDefinition)
  | attributeGroup (g : AttributeGroupDefinition)
  | notationDecl (n : NotationDecl)
  | constraint (c : IdentityConstraint)
  | selector (p : PathExpression)
  | field (p : PathExpression)
  | facet (f : Facet)
  deriving Repr

/-- What reading a construct has led to. -/
inductive Part where
  | nothing
  | external (e : ExternalRef)
  | note (a : Annotation)
  | remark (r : Remark)
  | component (ref : ComponentRef)
  | variety (t : SimpleType)
  | model (m : ContentModel)
  | derivation (d : Derivation)
  | particle (p : Option Particle)
  | attributeItem (i : AttributeItem)
  | anyAttribute (w : Wildcard)
  | constraint (c : IdentityConstraint)
  | selector (p : PathExpression)
  | field (p : PathExpression)
  | facet (f : Facet)
  deriving Repr

/-- Put a particle, an attribute or a wildcard into a content. -/
def Content.adopt (c : Content) : Part → Content
  | .particle p => { c with particle := p }
  | .attributeItem i => { c with attributes := c.attributes ++ [i] }
  | .anyAttribute w => { c with anyAttribute := some w }
  | _ => c

namespace Draft

/-- The part in which a draft takes a child. -/
def role? : Draft → Construct → Option Role
  | .external _, .note => some .note
  | .external e, c => if e.kind = .redefinition then Role.ofRedefinition? c else none
  | .note _, .remark audience => some (.remark audience)
  | .note _, _ => none
  | .selector p, .note => if p.note.isNone then some .note else none
  | .selector _, _ => none
  | .field p, .note => if p.note.isNone then some .note else none
  | .field _, _ => none
  | .facet f, .note => if f.note.isNone then some .note else none
  | .facet _, _ => none
  | _, .note => some .note
  | .simpleType _, .derivation .restriction => some .restriction
  | .simpleType _, .list => some .list
  | .simpleType _, .union => some .union
  | .complexType _ _ _ _, .simpleContent => some .simpleContent
  | .complexType _ _ _ _, .complexContent => some .complexContent
  | .complexType _ _ _ _, c => Role.ofContent? c
  | .restriction _, .simpleType => some (.simpleType false)
  | .restriction _, .facet kind => some (.facet kind)
  | .list _, .simpleType => some (.simpleType false)
  | .union _, .simpleType => some (.simpleType false)
  | .simpleContent _, .derivation step => some (.derivation step)
  | .complexContent _, .derivation step => some (.derivation step)
  | .derivation _, .simpleType => some (.simpleType false)
  | .derivation _, .facet kind => some (.facet kind)
  | .derivation _, c => Role.ofContent? c
  | .compositor _ _ _ _, .compositor c => some (.compositor c)
  | .compositor _ _ _ _, .element => some (.element false)
  | .compositor _ _ _ _, .group => some .groupRef
  | .compositor _ _ _ _, .any => some .any
  | .element _ _, .simpleType => some (.simpleType false)
  | .element _ _, .complexType => some (.complexType false)
  | .element _ _, .key => some (.constraint .key)
  | .element _ _, .keyref => some (.constraint .keyref)
  | .element _ _, .unique => some (.constraint .unique)
  | .attribute _, .simpleType => some (.simpleType false)
  | .group _, .compositor c => some (.compositor c)
  | .attributeGroup _, .attribute => some (.attribute false)
  | .attributeGroup _, .attributeGroup => some .attributeGroupRef
  | .attributeGroup _, .anyAttribute => some .anyAttribute
  | .constraint _, .selector => some .selector
  | .constraint _, .field => some .field
  | _, _ => none

/-- Whether foreign content found on the construct is kept with it. -/
def takesForeign : Draft → Bool
  | .selector _ => false
  | .field _ => false
  | .facet _ => false
  | _ => true

/-- Change what the construct shares with all others. -/
def mapCommon (f : Common → Common) : Draft → Draft
  | .external e => .external { e with common := f e.common }
  | .note a =>
      let c := f { xmlId := a.xmlId, foreign := a.foreign }
      .note { a with foreign := c.foreign }
  | .simpleType t => .simpleType { t with common := f t.common }
  | .complexType t c direct model => .complexType { t with common := f t.common } c direct model
  | .restriction r => .restriction { r with common := f r.common }
  | .list l => .list { l with common := f l.common }
  | .union u => .union { u with common := f u.common }
  | .simpleContent c => .simpleContent { c with common := f c.common }
  | .complexContent c => .complexContent { c with common := f c.common }
  | .derivation d => .derivation { d with common := f d.common }
  | .compositor o c common particles => .compositor o c (f common) particles
  | .groupRef o r => .groupRef o { r with common := f r.common }
  | .any o w => .any o { w with common := f w.common }
  | .anyAttribute w => .anyAttribute { w with common := f w.common }
  | .element o e => .element o { e with common := f e.common }
  | .attribute a => .attribute { a with common := f a.common }
  | .attributeGroupRef r => .attributeGroupRef { r with common := f r.common }
  | .group g => .group { g with common := f g.common }
  | .attributeGroup g => .attributeGroup { g with common := f g.common }
  | .notationDecl n => .notationDecl { n with common := f n.common }
  | .constraint c => .constraint { c with common := f c.common }
  | .selector p => .selector p
  | .field p => .field p
  | .facet f => .facet f

/-- Attach an annotation. -/
def annotate (a : Annotation) : Draft → Draft
  | .selector p => .selector { p with note := some a }
  | .field p => .field { p with note := some a }
  | .facet f => .facet { f with note := some a }
  | d => d.mapCommon fun c => { c with note := some a }

/-- Attach foreign content. -/
def addForeign (content : ForeignContent) (d : Draft) : Draft :=
  d.mapCommon fun c => { c with foreign := c.foreign ++ [content] }

/-- Take up a part that has been read. -/
def adopt : Draft → Part → Draft
  | d, .note a => d.annotate a
  | .note a, .remark r => .note { a with remarks := a.remarks ++ [r] }
  | .external e, .component ref => .external { e with redefined := e.redefined ++ [ref] }
  | .simpleType t, .variety v => .simpleType { t with body := .simple v }
  | .complexType t c direct _, .model m => .complexType t c direct (some m)
  | .complexType t c direct model, p => .complexType t c (direct.adopt p) model
  | .restriction r, .component ⟨.type, id⟩ => .restriction { r with baseType := some id }
  | .restriction r, .facet f => .restriction { r with facets := r.facets ++ [f] }
  | .list l, .component ⟨.type, id⟩ => .list { l with itemType := some id }
  | .union u, .component ⟨.type, id⟩ => .union { u with memberTypes := u.memberTypes ++ [id] }
  | .simpleContent c, .derivation d => .simpleContent { c with derivation := some d }
  | .complexContent c, .derivation d => .complexContent { c with derivation := some d }
  | .derivation d, .component ⟨.type, id⟩ => .derivation { d with simpleType := some id }
  | .derivation d, .facet f => .derivation { d with facets := d.facets ++ [f] }
  | .derivation d, p => .derivation { d with content := d.content.adopt p }
  | .compositor o c common particles, .particle (some p) =>
      .compositor o c common (particles ++ [p])
  | .element o e, .component ⟨.type, id⟩ => .element o { e with type := .anonymous id }
  | .element o e, .constraint c => .element o { e with constraints := e.constraints ++ [c] }
  | .attribute a, .component ⟨.type, id⟩ => .attribute { a with type := .anonymous id }
  | .group g, .particle p => .group { g with particle := p }
  | .attributeGroup g, .attributeItem i =>
      .attributeGroup { g with attributes := g.attributes ++ [i] }
  | .attributeGroup g, .anyAttribute w => .attributeGroup { g with anyAttribute := some w }
  | .constraint c, .selector p => .constraint { c with selector := some p }
  | .constraint c, .field p => .constraint { c with fields := c.fields ++ [p] }
  | d, _ => d

end Draft

end XmlSchema
