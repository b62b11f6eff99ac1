import XmlSchema.Document.Draft
import XmlSchema.Proofs.Component.Extension

/-!
# What components are made of

A component refers by identity to the components that are defined in place
inside it: its parts.  The parts of what a document defines belong to the same
schema and, types among them, come before the whole; tables of components in
which this holds are grounded.
-/

namespace XmlSchema

/-- The type defined in place in a slot. -/
def TypeSlot.inline : TypeSlot → List TypeId
  | anonymous id => [id]
  | _ => []

theorem TypeSlot.inline_unresolved (slot : TypeSlot) : slot.unresolved.inline = slot.inline := by
  cases slot <;> rfl

/-- The attribute that an item declares in place. -/
def AttributeItem.id? : AttributeItem → Option AttributeId
  | .attribute id => some id
  | .group _ => none

/-- Types as components of any kind. -/
def typeRefs (ids : List TypeId) : List ComponentRef := ids.map (⟨.type, ·⟩)

/-- The parts of a particle. -/
def Particle.parts (p : Particle) : List ComponentRef := p.elements.map (⟨.element, ·⟩)

/-- The parts of some attribute items. -/
def attributeParts (items : List AttributeItem) : List ComponentRef :=
  (items.filterMap AttributeItem.id?).map (⟨.attribute, ·⟩)

/-- The parts of a content. -/
def Content.parts (c : Content) : List ComponentRef :=
  (c.particle.map Particle.parts).getD [] ++ attributeParts c.attributes

/-- The parts of a derivation. -/
def Derivation.parts (d : Derivation) : List ComponentRef :=
  typeRefs d.simpleType.toList ++ d.content.parts

/-- The parts of a content model. -/
def ContentModel.parts : ContentModel → List ComponentRef
  | direct c => c.parts
  | simple c => (c.derivation.map Derivation.parts).getD []
  | complex c => (c.derivation.map Derivation.parts).getD []

/-- The parts of a simple type. -/
def SimpleType.parts : SimpleType → List ComponentRef
  | builtin _ => []
  | restriction r => typeRefs r.baseType.toList
  | list l => typeRefs l.itemType.toList
  | union u => typeRefs u.memberTypes
  | unspecified => []

/-- The parts of a type. -/
def TypeBody.parts : TypeBody → List ComponentRef
  | simple t => t.parts
  | complex t => t.content.parts

/-- The parts of a component. -/
def ComponentKind.parts : (kind : ComponentKind) → kind.Component → List ComponentRef
  | .element, e => typeRefs e.type.inline
  | .attribute, a => typeRefs a.type.inline
  | .type, t => t.body.parts
  | .group, g => (g.particle.map Particle.parts).getD []
  | .attributeGroup, g => attributeParts g.attributes
  | .notationDecl, _ => []

/-- The parts that a draft has taken up. -/
def Draft.parts : Draft → List ComponentRef
  | .external e => e.redefined
  | .simpleType t => t.body.parts
  | .complexType _ _ direct model => direct.parts ++ (model.map ContentModel.parts).getD []
  | .restriction r => typeRefs r.baseType.toList
  | .list l => typeRefs l.itemType.toList
  | .union u => typeRefs u.memberTypes
  | .simpleContent c => (c.derivation.map Derivation.parts).getD []
  | .complexContent c => (c.derivation.map Derivation.parts).getD []
  | .derivation d => d.parts
  | .compositor _ _ _ particles => (Particle.elementsList particles).map (⟨.element, ·⟩)
  | .element _ e => typeRefs e.type.inline
  | .attribute a => typeRefs a.type.inline
  | .group g => (g.particle.map Particle.parts).getD []
  | .attributeGroup g => attributeParts g.attributes
  | _ => []

/-- The components that a part brings along. -/
def Part.parts : Part → List ComponentRef
  | .component ref => [ref]
  | .variety t => t.parts
  | .model m => m.parts
  | .derivation d => d.parts
  | .particle p => (p.map Particle.parts).getD []
  | .attributeItem i => attributeParts [i]
  | .external e => e.redefined
  | _ => []

/-- The components that an item of a schema refers to. -/
def SchemaItem.refs : SchemaItem → List ComponentRef
  | note _ => []
  | external e => e.redefined
  | component ref => [ref]

section Lists

@[simp] theorem attributeParts_append (items more : List AttributeItem) :
    attributeParts (items ++ more) = attributeParts items ++ attributeParts more := by
  simp [attributeParts]

theorem Particle.elementsList_append (ps qs : List Particle) :
    Particle.elementsList (ps ++ qs) = Particle.elementsList ps ++ Particle.elementsList qs := by
  induction ps with
  | nil => rfl
  | cons p rest ih => simp [Particle.elementsList, ih]

end Lists

theorem Content.parts_adopt_subset (c : Content) (p : Part) :
    (c.adopt p).parts ⊆ c.parts ++ p.parts := by
  intro ref h
  cases p with
  | particle p =>
      simp only [adopt, Content.parts, Part.parts, List.mem_append] at h ⊢
      rcases h with h | h
      · exact .inr h
      · exact .inl (.inr h)
  | attributeItem i =>
      simpa only [adopt, Content.parts, Part.parts, attributeParts_append, List.append_assoc]
        using h
  | _ => exact List.mem_append_left _ h

theorem Draft.parts_mapCommon (f : Common → Common) (d : Draft) :
    (d.mapCommon f).parts = d.parts := by
  cases d <;> rfl

theorem Draft.parts_annotate (a : Annotation) (d : Draft) : (d.annotate a).parts = d.parts := by
  cases d <;> rfl

theorem Draft.parts_addForeign (content : ForeignContent) (d : Draft) :
    (d.addForeign content).parts = d.parts :=
  d.parts_mapCommon _

/-- A draft takes up nothing but what the parts bring along. -/
theorem Draft.parts_adopt_subset (d : Draft) (p : Part) :
    (d.adopt p).parts ⊆ d.parts ++ p.parts := by
  fun_cases Draft.adopt d p
  all_goals intro ref h
  case case1 a =>
      rw [parts_annotate] at h
      exact List.mem_append_left _ h
  case case6 t c direct model _ _ =>
      have hdirect := direct.parts_adopt_subset p
      simp only [Draft.parts, List.mem_append] at h ⊢
      rcases h with h | h
      · rcases List.mem_append.1 (hdirect h) with h | h
        · exact .inl (.inl h)
        · exact .inr h
      · exact .inl (.inr h)
  case case15 d _ _ _ =>
      have hcontent := d.content.parts_adopt_subset p
      simp only [Draft.parts, Derivation.parts, List.mem_append] at h ⊢
      rcases h with h | h
      · exact .inl (.inl h)
      · rcases List.mem_append.1 (hcontent h) with h | h
        · exact .inl (.inr h)
        · exact .inr h
  all_goals
    simp only [Draft.parts, Part.parts, SimpleType.parts, TypeBody.parts, ContentModel.parts,
      Derivation.parts, TypeSlot.inline, attributeParts_append, Particle.elementsList_append,
      Particle.elementsList, Particle.parts, typeRefs,
      Option.map_some, Option.getD_some, Option.toList_some, List.map_cons, List.map_nil,
      List.map_append, List.append_nil, List.mem_append, List.mem_cons] at h ⊢
  all_goals grind

end XmlSchema
