import XmlSchema.Proofs.Component.Extension
import XmlSchema.Proofs.Document.Closing

/-!
# Transcriptions of models

Two models are compared by a transcription: it says what becomes of the
identities, of the names that refer to something, of the bounds, of the sets of
derivation methods and of the foreign markup in one of them.  Everything else
stays, except that it is left open which types have been found and where
references to documents lead.  A construct that is being read can be transcribed
at any time: before it takes up a part or after that.
-/

namespace XmlSchema

/-- What becomes of the pieces that models are made of. -/
structure Transcription where
  identity : {kind : ComponentKind} → ComponentId kind → ComponentId kind := id
  word : QName → QName := id
  words : List QName → List QName := id
  occurs : Occurs → Occurs := id
  methods : DerivationSet → DerivationSet := id
  remark : Remark → Remark := id
  foreign : List ForeignContent → List ForeignContent := id

namespace Transcription

variable (τ : Transcription)

/-- An annotation. -/
def annotation (a : Annotation) : Annotation :=
  { a with remarks := a.remarks.map τ.remark, foreign := τ.foreign a.foreign }

/-- What every construct may carry. -/
def common (c : Common) : Common :=
  { c with note := c.note.map τ.annotation, foreign := τ.foreign c.foreign }

/-- A wildcard. -/
def wildcard (w : Wildcard) : Wildcard := { w with common := τ.common w.common }

/-- A reference to a named group. -/
def groupRef (r : GroupRef) : GroupRef :=
  { target := τ.word r.target, common := τ.common r.common }

/-- A reference to a named attribute group. -/
def attributeGroupRef (r : AttributeGroupRef) : AttributeGroupRef :=
  { target := τ.word r.target, common := τ.common r.common }

/-- A facet. -/
def facet (f : Facet) : Facet := { f with note := f.note.map τ.annotation }

/-- A path. -/
def path (p : PathExpression) : PathExpression := { p with note := p.note.map τ.annotation }

/-- The demand of an identity constraint. -/
def constraintKind : ConstraintKind → ConstraintKind
  | .keyref refer => .keyref (τ.word refer)
  | .key => .key
  | .unique => .unique

/-- An identity constraint. -/
def constraint (c : IdentityConstraint) : IdentityConstraint where
  kind := τ.constraintKind c.kind
  name := c.name
  selector := c.selector.map τ.path
  fields := c.fields.map τ.path
  common := τ.common c.common

/-- The identity of a component of any kind. -/
def ref (r : ComponentRef) : ComponentRef := ⟨r.kind, τ.identity r.id⟩

/-- The slot of a declaration, its type still to be found. -/
def slot : TypeSlot → TypeSlot
  | .absent => .absent
  | .named n _ => .named (τ.word n) none
  | .anonymous i => .anonymous (τ.identity i)

mutual

/-- A tree of particles. -/
def particle : Particle → Particle
  | .model o c common particles =>
      .model (τ.occurs o) c (τ.common common) (particleList particles)
  | .element o i => .element (τ.occurs o) (τ.identity i)
  | .any o w => .any (τ.occurs o) (τ.wildcard w)
  | .group o r => .group (τ.occurs o) (τ.groupRef r)

/-- A list of particles. -/
def particleList : List Particle → List Particle
  | [] => []
  | p :: rest => particle p :: particleList rest

end

/-- An attribute, or a reference to a group of attributes. -/
def attributeItem : AttributeItem → AttributeItem
  | .attribute i => .attribute (τ.identity i)
  | .group r => .group (τ.attributeGroupRef r)

/-- A particle with attributes. -/
def content (c : Content) : Content where
  particle := c.particle.map τ.particle
  attributes := c.attributes.map τ.attributeItem
  anyAttribute := c.anyAttribute.map τ.wildcard

/-- A restriction of a simple type. -/
def restriction (r : SimpleRestriction) : SimpleRestriction where
  base := r.base.map τ.word
  baseType := r.baseType.map τ.identity
  facets := r.facets.map τ.facet
  common := τ.common r.common

/-- A list of a simple type. -/
def list (l : SimpleList) : SimpleList where
  itemTypeName := l.itemTypeName.map τ.word
  itemType := l.itemType.map τ.identity
  common := τ.common l.common

/-- A union of simple types. -/
def union (u : SimpleUnion) : SimpleUnion where
  memberNames := τ.words u.memberNames
  memberTypes := u.memberTypes.map τ.identity
  common := τ.common u.common

/-- A simple type. -/
def simpleType : SimpleType → SimpleType
  | .builtin base => .builtin (base.map τ.word)
  | .restriction r => .restriction (τ.restriction r)
  | .list l => .list (τ.list l)
  | .union u => .union (τ.union u)
  | .unspecified => .unspecified

/-- The derivation of a complex type. -/
def derivation (d : Derivation) : Derivation where
  step := d.step
  base := d.base.map τ.word
  content := τ.content d.content
  simpleType := d.simpleType.map τ.identity
  facets := d.facets.map τ.facet
  common := τ.common d.common

/-- Content that is text of a simple type. -/
def simpleContent (c : SimpleContent) : SimpleContent where
  derivation := c.derivation.map τ.derivation
  common := τ.common c.common

/-- Content that holds elements. -/
def complexContent (c : ComplexContent) : ComplexContent where
  mixed := c.mixed
  derivation := c.derivation.map τ.derivation
  common := τ.common c.common

/-- The content model of a complex type. -/
def contentModel : ContentModel → ContentModel
  | .direct c => .direct (τ.content c)
  | .simple c => .simple (τ.simpleContent c)
  | .complex c => .complex (τ.complexContent c)

/-- A complex type. -/
def complexType (c : ComplexType) : ComplexType :=
  { c with block := τ.methods c.block, content := τ.contentModel c.content }

/-- What a type is. -/
def typeBody : TypeBody → TypeBody
  | .simple t => .simple (τ.simpleType t)
  | .complex t => .complex (τ.complexType t)

/-- A type. -/
def typeDefinition (t : TypeDefinition) : TypeDefinition where
  name := t.name
  finalSet := τ.methods t.finalSet
  common := τ.common t.common
  body := τ.typeBody t.body

/-- An element declaration. -/
def elementDecl (e : ElementDecl) : ElementDecl :=
  { e with
    ref := e.ref.map τ.word
    type := τ.slot e.type
    substitutionGroup := e.substitutionGroup.map τ.word
    block := τ.methods e.block
    finalSet := τ.methods e.finalSet
    constraints := e.constraints.map τ.constraint
    common := τ.common e.common }

/-- An attribute declaration. -/
def attributeDecl (a : AttributeDecl) : AttributeDecl :=
  { a with
    ref := a.ref.map τ.word
    type := τ.slot a.type
    common := τ.common a.common }

/-- A named model group. -/
def group (g : GroupDefinition) : GroupDefinition where
  name := g.name
  particle := g.particle.map τ.particle
  common := τ.common g.common

/-- A named group of attributes. -/
def attributeGroup (g : AttributeGroupDefinition) : AttributeGroupDefinition where
  name := g.name
  attributes := g.attributes.map τ.attributeItem
  anyAttribute := g.anyAttribute.map τ.wildcard
  common := τ.common g.common

/-- A notation. -/
def notationDecl (n : NotationDecl) : NotationDecl :=
  { n with common := τ.common n.common }

/-- A component. -/
def component : (kind : ComponentKind) → kind.Component → kind.Component
  | .element, e => τ.elementDecl e
  | .attribute, a => τ.attributeDecl a
  | .type, t => τ.typeDefinition t
  | .group, g => τ.group g
  | .attributeGroup, g => τ.attributeGroup g
  | .notationDecl, n => τ.notationDecl n

/-- A reference to another document, its target left open. -/
def externalRef (e : ExternalRef) : ExternalRef :=
  { e with
    target := none
    redefined := e.redefined.map τ.ref
    common := τ.common e.common }

/-- A top-level item. -/
def item : SchemaItem → SchemaItem
  | .note a => .note (τ.annotation a)
  | .external e => .external (τ.externalRef e)
  | .component r => .component (τ.ref r)

/-- What reading a construct has led to. -/
def part : Part → Part
  | .nothing => .nothing
  | .external e => .external (τ.externalRef e)
  | .note a => .note (τ.annotation a)
  | .remark r => .remark (τ.remark r)
  | .component r => .component (τ.ref r)
  | .variety t => .variety (τ.simpleType t)
  | .model m => .model (τ.contentModel m)
  | .derivation d => .derivation (τ.derivation d)
  | .particle p => .particle (p.map τ.particle)
  | .attributeItem i => .attributeItem (τ.attributeItem i)
  | .anyAttribute w => .anyAttribute (τ.wildcard w)
  | .constraint c => .constraint (τ.constraint c)
  | .selector p => .selector (τ.path p)
  | .field p => .field (τ.path p)
  | .facet f => .facet (τ.facet f)

/-- A construct that is being read. -/
def draft : Draft → Draft
  | .external e => .external (τ.externalRef e)
  | .note a => .note (τ.annotation a)
  | .simpleType t => .simpleType (τ.typeDefinition t)
  | .complexType t c direct model =>
      .complexType (τ.typeDefinition t) (τ.complexType c) (τ.content direct)
        (model.map τ.contentModel)
  | .restriction r => .restriction (τ.restriction r)
  | .list l => .list (τ.list l)
  | .union u => .union (τ.union u)
  | .simpleContent c => .simpleContent (τ.simpleContent c)
  | .complexContent c => .complexContent (τ.complexContent c)
  | .derivation d => .derivation (τ.derivation d)
  | .compositor o c common particles =>
      .compositor (τ.occurs o) c (τ.common common) (particles.map τ.particle)
  | .groupRef o r => .groupRef (τ.occurs o) (τ.groupRef r)
  | .any o w => .any (τ.occurs o) (τ.wildcard w)
  | .anyAttribute w => .anyAttribute (τ.wildcard w)
  | .element o e => .element (τ.occurs o) (τ.elementDecl e)
  | .attribute a => .attribute (τ.attributeDecl a)
  | .attributeGroupRef r => .attributeGroupRef (τ.attributeGroupRef r)
  | .group g => .group (τ.group g)
  | .attributeGroup g => .attributeGroup (τ.attributeGroup g)
  | .notationDecl n => .notationDecl (τ.notationDecl n)
  | .constraint c => .constraint (τ.constraint c)
  | .selector p => .selector (τ.path p)
  | .field p => .field (τ.path p)
  | .facet f => .facet (τ.facet f)

variable {τ}

theorem forall_of_map_eq {α : Type} {f : α → α} {xs : List α} (h : xs.map f = xs) :
    ∀ x ∈ xs, f x = x :=
  List.map_inj_left.1 (h.trans (List.map_id xs).symm)

theorem eq_of_map_eq {α : Type} {f : α → α} {x : Option α} (h : x.map f = x) :
    ∀ y, x = some y → f y = y := by
  rintro y rfl
  exact Option.some.inj h

theorem particleList_eq (particles : List Particle) :
    τ.particleList particles = particles.map τ.particle := by
  induction particles with
  | nil => rfl
  | cons p rest ih => rw [particleList, ih, List.map_cons]

theorem particle_model (o : Occurs) (c : Compositor) (common : Common)
    (particles : List Particle) :
    τ.particle (.model o c common particles) =
      .model (τ.occurs o) c (τ.common common) (particles.map τ.particle) := by
  rw [particle, particleList_eq]

/-- A transcription does not see which types have been found. -/
theorem component_unresolved (kind : ComponentKind) (x : kind.Component) :
    τ.component kind (kind.unresolved x) = τ.component kind x := by
  have hslot : ∀ slot : TypeSlot, τ.slot slot.unresolved = τ.slot slot := by
    intro slot
    cases slot <;> rfl
  cases kind with
  | element => simp [ComponentKind.unresolved, component, elementDecl, hslot]
  | «attribute» => simp [ComponentKind.unresolved, component, attributeDecl, hslot]
  | _ => rfl

theorem component_congr {kind : ComponentKind} {x y : kind.Component}
    (h : kind.unresolved y = kind.unresolved x) : τ.component kind y = τ.component kind x := by
  rw [← component_unresolved, h, component_unresolved]

theorem nameOf_component (kind : ComponentKind) (x : kind.Component) :
    kind.nameOf (τ.component kind x) = kind.nameOf x := by
  cases kind <;> rfl

section Drafts

theorem role?_draft (d : Draft) (construct : Construct) :
    (τ.draft d).role? construct = d.role? construct := by
  cases d with
  | selector p | field p | facet p =>
      cases construct <;> simp [draft, Draft.role?, path, facet]
  | _ =>
      cases construct <;>
        first
        | rfl
        | rename_i step
          cases step <;> rfl

theorem takesForeign_draft (d : Draft) : (τ.draft d).takesForeign = d.takesForeign := by
  cases d <;> rfl

/-- What a construct shares with all others can be changed before it is
transcribed or after that. -/
theorem draft_mapCommon {f g : Common → Common} (h : ∀ c, τ.common (f c) = g (τ.common c))
    (d : Draft) : τ.draft (d.mapCommon f) = (τ.draft d).mapCommon g := by
  cases d with
  | note a =>
      have hforeign := congrArg Common.foreign (h { xmlId := a.xmlId, foreign := a.foreign })
      simp only [Draft.mapCommon, draft, annotation]
      exact congrArg (fun foreign => Draft.note { a with
        remarks := a.remarks.map τ.remark, foreign }) hforeign
  | _ =>
      simp only [Draft.mapCommon, draft, externalRef, typeDefinition, restriction, list, union,
        simpleContent, complexContent, derivation, groupRef, wildcard, elementDecl, attributeDecl,
        attributeGroupRef, group, attributeGroup, notationDecl, constraint, h]

theorem draft_annotate (a : Annotation) (d : Draft) :
    τ.draft (d.annotate a) = (τ.draft d).annotate (τ.annotation a) := by
  cases d <;> rfl

/-- Taking up a part commutes with transcribing. -/
theorem draft_adopt (d : Draft) (p : Part) :
    τ.draft (d.adopt p) = (τ.draft d).adopt (τ.part p) := by
  cases p with
  | note a => exact draft_annotate a d
  | remark r => cases d <;> simp [Draft.adopt, draft, part, annotation, derivation, Content.adopt]
  | component r =>
      obtain ⟨kind, i⟩ := r
      cases d with
      | external e => simp [Draft.adopt, draft, part, externalRef]
      | union u => cases kind <;> simp [Draft.adopt, draft, part, ref, union]
      | _ => cases kind <;> rfl
  | particle p =>
      cases d with
      | compositor o c common particles =>
          cases p <;> simp [Draft.adopt, draft, part]
      | _ => rfl
  | attributeItem i =>
      cases d with
      | complexType t c direct model =>
          simp only [Draft.adopt, draft, part, Content.adopt, content, List.map_append,
            List.map_cons, List.map_nil]
      | derivation d => simp [Draft.adopt, draft, part, derivation, Content.adopt, content]
      | attributeGroup g => simp [Draft.adopt, draft, part, attributeGroup]
      | _ => rfl
  | constraint c =>
      cases d with
      | element o e => simp [Draft.adopt, draft, part, elementDecl]
      | _ => rfl
  | field p =>
      cases d with
      | constraint c => simp [Draft.adopt, draft, part, constraint]
      | _ => rfl
  | facet f =>
      cases d with
      | restriction r => simp [Draft.adopt, draft, part, restriction]
      | derivation d => simp [Draft.adopt, draft, part, derivation]
      | _ => rfl
  | _ => cases d <;> rfl

/-- A transcribed draft amounts to the transcribed part, when the identity that
is given to a component is transcribed as well. -/
theorem part_toPart {schema schema' : Nat} {cs cs' : Components} (d : Draft)
    (h : ∀ x, d.owned? = some x →
      τ.identity (⟨schema, cs.count x.1⟩ : ComponentId x.1) = ⟨schema', cs'.count x.1⟩) :
    τ.part (d.toPart schema cs) = (τ.draft d).toPart schema' cs' := by
  cases d with
  | simpleType | complexType | group | attributeGroup | notationDecl =>
      simp only [Draft.toPart, draft, part, ref]
      rw [h _ rfl]
  | element o e =>
      have hid := h _ rfl
      dsimp only at hid
      cases he : e.topLevel <;>
        simp [Draft.toPart, draft, part, ref, elementDecl, particle, he, hid]
  | «attribute» a =>
      have hid := h _ rfl
      dsimp only at hid
      cases ha : a.topLevel <;>
        simp [Draft.toPart, draft, part, ref, attributeDecl, attributeItem, ha, hid]
  | compositor o c common particles =>
      simp [Draft.toPart, draft, part, particle_model]
  | _ => rfl

/-- A transcribed draft becomes the transcribed component. -/
theorem owned?_draft (d : Draft) :
    (τ.draft d).owned? = d.owned?.map fun x => ⟨x.1, τ.component x.1 x.2⟩ := by
  cases d with
  | complexType t c direct model => cases model <;> rfl
  | _ => rfl

end Drafts

end Transcription

end XmlSchema
