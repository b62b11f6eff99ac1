import XmlSchema.Proofs.Component.Extension
import XmlSchema.Proofs.Text.Trimming
import XmlSchema.Document.Opening

/-!
# Taking on a namespace

A document without a target namespace takes on the namespace of the document
that includes it.  The substitution replaces "no namespace" by that namespace:
in the names of global components, of identity constraints and of the local
declarations whose form is qualified, and in every reference.  Identities of
components move along to another schema; which types have been found is left
open.
-/

namespace XmlSchema

/-- The namespace that is taken on, the schema that components move from and
the one that they move to, and the forms of declarations that do not say
otherwise. -/
structure Substitution where
  namespaceName : String
  origin : Nat
  number : Nat
  elementForm : Form
  attributeForm : Form

namespace Substitution

variable (σ : Substitution)

/-- A name in no namespace becomes one in the namespace that is taken on. -/
def name (n : QName) : QName :=
  if n.namespaceName = "" then ⟨σ.namespaceName, Text.trim n.localName⟩ else n

/-- The name of a declaration: a local one that is unqualified keeps it. -/
def declaredName (topLevel : Bool) (form : Form) (n : Option QName) : Option QName :=
  if topLevel || form = .qualified then n.map σ.name else n

/-- The identity of a component moves to the other schema. -/
def identity {kind : ComponentKind} (i : ComponentId kind) : ComponentId kind :=
  if i.schema = σ.origin then { i with schema := σ.number } else i

/-- The identity of a component of any kind. -/
def ref (r : ComponentRef) : ComponentRef := ⟨r.kind, σ.identity r.id⟩

/-- The slot of a declaration, its type still to be found. -/
def slot : TypeSlot → TypeSlot
  | .absent => .absent
  | .named n _ => .named (σ.name n) none
  | .anonymous i => .anonymous (σ.identity i)

/-- The demand of an identity constraint. -/
def constraintKind : ConstraintKind → ConstraintKind
  | .keyref refer => .keyref (σ.name refer)
  | .key => .key
  | .unique => .unique

/-- An identity constraint. -/
def constraint (c : IdentityConstraint) : IdentityConstraint :=
  { c with kind := σ.constraintKind c.kind, name := σ.name c.name }

/-- A reference to a named group. -/
def groupRef (r : GroupRef) : GroupRef := { r with target := σ.name r.target }

/-- A reference to a named attribute group. -/
def attributeGroupRef (r : AttributeGroupRef) : AttributeGroupRef :=
  { r with target := σ.name r.target }

mutual

/-- A tree of particles. -/
def particle : Particle → Particle
  | .model o c common particles => .model o c common (particleList particles)
  | .element o i => .element o (σ.identity i)
  | .any o w => .any o w
  | .group o r => .group o (σ.groupRef r)

/-- A list of particles. -/
def particleList : List Particle → List Particle
  | [] => []
  | p :: rest => particle p :: particleList rest

end

/-- An attribute, or a reference to a group of attributes. -/
def attributeItem : AttributeItem → AttributeItem
  | .attribute i => .attribute (σ.identity i)
  | .group r => .group (σ.attributeGroupRef r)

/-- A particle with attributes. -/
def content (c : Content) : Content :=
  { c with
    particle := c.particle.map σ.particle
    attributes := c.attributes.map σ.attributeItem }

/-- A simple type. -/
def simpleType : SimpleType → SimpleType
  | .builtin base => .builtin base
  | .restriction r =>
      .restriction { r with base := r.base.map σ.name, baseType := r.baseType.map σ.identity }
  | .list l =>
      .list { l with itemTypeName := l.itemTypeName.map σ.name, itemType := l.itemType.map σ.identity }
  | .union u =>
      .union { u with
        memberNames := u.memberNames.map σ.name
        memberTypes := u.memberTypes.map σ.identity }
  | .unspecified => .unspecified

/-- The derivation of a complex type. -/
def derivation (d : Derivation) : Derivation :=
  { d with
    base := d.base.map σ.name
    content := σ.content d.content
    simpleType := d.simpleType.map σ.identity }

/-- Content that is text of a simple type. -/
def simpleContent (c : SimpleContent) : SimpleContent :=
  { c with derivation := c.derivation.map σ.derivation }

/-- Content that holds elements. -/
def complexContent (c : ComplexContent) : ComplexContent :=
  { c with derivation := c.derivation.map σ.derivation }

/-- The content model of a complex type. -/
def contentModel : ContentModel → ContentModel
  | .direct c => .direct (σ.content c)
  | .simple c => .simple (σ.simpleContent c)
  | .complex c => .complex (σ.complexContent c)

/-- A complex type. -/
def complexType (c : ComplexType) : ComplexType :=
  { c with content := σ.contentModel c.content }

/-- What a type is. -/
def typeBody : TypeBody → TypeBody
  | .simple t => .simple (σ.simpleType t)
  | .complex t => .complex (σ.complexType t)

/-- A type; only global types have names. -/
def typeDefinition (t : TypeDefinition) : TypeDefinition :=
  { t with name := t.name.map σ.name, body := σ.typeBody t.body }

/-- An element declaration. -/
def elementDecl (e : ElementDecl) : ElementDecl :=
  { e with
    name := σ.declaredName e.topLevel (e.form.getD σ.elementForm) e.name
    ref := e.ref.map σ.name
    type := σ.slot e.type
    substitutionGroup := e.substitutionGroup.map σ.name
    constraints := e.constraints.map σ.constraint }

/-- An attribute declaration. -/
def attributeDecl (a : AttributeDecl) : AttributeDecl :=
  { a with
    name := σ.declaredName a.topLevel (a.form.getD σ.attributeForm) a.name
    ref := a.ref.map σ.name
    type := σ.slot a.type }

/-- A named model group. -/
def group (g : GroupDefinition) : GroupDefinition :=
  { g with name := g.name.map σ.name, particle := g.particle.map σ.particle }

/-- A named group of attributes. -/
def attributeGroup (g : AttributeGroupDefinition) : AttributeGroupDefinition :=
  { g with name := g.name.map σ.name, attributes := g.attributes.map σ.attributeItem }

/-- A notation. -/
def notationDecl (n : NotationDecl) : NotationDecl := { n with name := n.name.map σ.name }

/-- A component. -/
def component : (kind : ComponentKind) → kind.Component → kind.Component
  | .element, e => σ.elementDecl e
  | .attribute, a => σ.attributeDecl a
  | .type, t => σ.typeDefinition t
  | .group, g => σ.group g
  | .attributeGroup, g => σ.attributeGroup g
  | .notationDecl, n => σ.notationDecl n

/-- A reference to another document. -/
def externalRef (e : ExternalRef) : ExternalRef :=
  { e with redefined := e.redefined.map σ.ref }

/-- A top-level item. -/
def item : SchemaItem → SchemaItem
  | .note a => .note a
  | .external e => .external (σ.externalRef e)
  | .component r => .component (σ.ref r)

/-- A registered name. -/
def registration (r : Registration) : Registration := { r with name := σ.name r.name }

/-- What reading a construct has led to. -/
def part : Part → Part
  | .nothing => .nothing
  | .external e => .external (σ.externalRef e)
  | .note a => .note a
  | .remark r => .remark r
  | .component r => .component (σ.ref r)
  | .variety t => .variety (σ.simpleType t)
  | .model m => .model (σ.contentModel m)
  | .derivation d => .derivation (σ.derivation d)
  | .particle p => .particle (p.map σ.particle)
  | .attributeItem i => .attributeItem (σ.attributeItem i)
  | .anyAttribute w => .anyAttribute w
  | .constraint c => .constraint (σ.constraint c)
  | .selector p => .selector p
  | .field p => .field p
  | .facet f => .facet f

/-- A construct that is being read. -/
def draft : Draft → Draft
  | .external e => .external (σ.externalRef e)
  | .note a => .note a
  | .simpleType t => .simpleType (σ.typeDefinition t)
  | .complexType t c direct model =>
      .complexType (σ.typeDefinition t) (σ.complexType c) (σ.content direct)
        (model.map σ.contentModel)
  | .restriction r =>
      .restriction { r with base := r.base.map σ.name, baseType := r.baseType.map σ.identity }
  | .list l =>
      .list { l with itemTypeName := l.itemTypeName.map σ.name, itemType := l.itemType.map σ.identity }
  | .union u =>
      .union { u with
        memberNames := u.memberNames.map σ.name
        memberTypes := u.memberTypes.map σ.identity }
  | .simpleContent c => .simpleContent (σ.simpleContent c)
  | .complexContent c => .complexContent (σ.complexContent c)
  | .derivation d => .derivation (σ.derivation d)
  | .compositor o c common particles => .compositor o c common (particles.map σ.particle)
  | .groupRef o r => .groupRef o (σ.groupRef r)
  | .any o w => .any o w
  | .anyAttribute w => .anyAttribute w
  | .element o e => .element o (σ.elementDecl e)
  | .attribute a => .attribute (σ.attributeDecl a)
  | .attributeGroupRef r => .attributeGroupRef (σ.attributeGroupRef r)
  | .group g => .group (σ.group g)
  | .attributeGroup g => .attributeGroup (σ.attributeGroup g)
  | .notationDecl n => .notationDecl (σ.notationDecl n)
  | .constraint c => .constraint (σ.constraint c)
  | .selector p => .selector p
  | .field p => .field p
  | .facet f => .facet f

/-- The beginning of a construct. -/
def opening : Opening → Opening
  | .draft d => .draft (σ.draft d)
  | .part p => .part (σ.part p)

variable {σ}

theorem name_of_ne {n : QName} (h : n.namespaceName ≠ "") : σ.name n = n := if_neg h

/-- A name that is taken on is one in the namespace of the substitution. -/
theorem name_mk (localName : String) :
    σ.name ⟨"", localName⟩ = ⟨σ.namespaceName, Text.trim localName⟩ := if_pos rfl

theorem name_trim (localName : String) :
    σ.name ⟨"", Text.trim localName⟩ = ⟨σ.namespaceName, Text.trim localName⟩ := by
  rw [name_mk, Text.trim_trim]

/-- Trimmed names in no namespace stay apart. -/
theorem name_injective {a b : String} (h : σ.name ⟨"", Text.trim a⟩ = σ.name ⟨"", Text.trim b⟩) :
    Text.trim a = Text.trim b := by
  rw [name_trim, name_trim] at h
  exact congrArg QName.localName h

theorem identity_origin {kind : ComponentKind} (index : Nat) :
    σ.identity (⟨σ.origin, index⟩ : ComponentId kind) = ⟨σ.number, index⟩ := if_pos rfl

theorem particleList_eq (particles : List Particle) :
    σ.particleList particles = particles.map σ.particle := by
  induction particles with
  | nil => rfl
  | cons p rest ih => rw [particleList, ih, List.map_cons]

theorem particle_model (o : Occurs) (c : Compositor) (common : Common)
    (particles : List Particle) :
    σ.particle (.model o c common particles) = .model o c common (particles.map σ.particle) := by
  rw [particle, particleList_eq]

/-- Substitution leaves no type found. -/
theorem unresolved_component (kind : ComponentKind) (x : kind.Component) :
    kind.unresolved (σ.component kind x) = σ.component kind x := by
  have hslot : ∀ slot : TypeSlot, (σ.slot slot).unresolved = σ.slot slot := by
    intro slot
    cases slot <;> rfl
  cases kind with
  | element => simp [ComponentKind.unresolved, component, elementDecl, hslot]
  | «attribute» => simp [ComponentKind.unresolved, component, attributeDecl, hslot]
  | _ => rfl

/-- Substitution does not see which types have been found. -/
theorem component_unresolved (kind : ComponentKind) (x : kind.Component) :
    σ.component kind (kind.unresolved x) = σ.component kind x := by
  have hslot : ∀ slot : TypeSlot, σ.slot slot.unresolved = σ.slot slot := by
    intro slot
    cases slot <;> rfl
  cases kind with
  | element => simp [ComponentKind.unresolved, component, elementDecl, hslot]
  | «attribute» => simp [ComponentKind.unresolved, component, attributeDecl, hslot]
  | _ => rfl

section Drafts

theorem role?_draft (d : Draft) (construct : Construct) :
    (σ.draft d).role? construct = d.role? construct := by
  cases d <;> cases construct <;>
    first
    | rfl
    | rename_i step
      cases step <;> rfl

theorem takesForeign_draft (d : Draft) : (σ.draft d).takesForeign = d.takesForeign := by
  cases d <;> rfl

theorem draft_mapCommon (f : Common → Common) (d : Draft) :
    σ.draft (d.mapCommon f) = (σ.draft d).mapCommon f := by
  cases d <;> rfl

/-- Taking up a part commutes with the substitution. -/
theorem draft_adopt (d : Draft) (p : Part) :
    σ.draft (d.adopt p) = (σ.draft d).adopt (σ.part p) := by
  cases p with
  | note a => cases d <;> rfl
  | component r =>
      obtain ⟨kind, i⟩ := r
      cases d with
      | external e => simp [Draft.adopt, draft, part, externalRef]
      | union u => cases kind <;> simp [Draft.adopt, draft, part, ref]
      | _ => cases kind <;> rfl
  | particle p =>
      cases d with
      | compositor o c common particles =>
          cases p <;> simp [Draft.adopt, draft, part]
      | _ => rfl
  | attributeItem i =>
      cases d with
      | complexType t c direct model =>
          simp only [Draft.adopt, draft, part, Content.adopt, content, List.map_append,
            List.map_cons, List.map_nil]
      | derivation d => simp [Draft.adopt, draft, part, derivation, Content.adopt, content]
      | attributeGroup g => simp [Draft.adopt, draft, part, attributeGroup]
      | _ => rfl
  | constraint c =>
      cases d with
      | element o e => simp [Draft.adopt, draft, part, elementDecl]
      | _ => rfl
  | _ => cases d <;> rfl

end Drafts

end Substitution

end XmlSchema
