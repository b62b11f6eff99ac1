import XmlSchema.Document.Writer
import XmlSchema.Proofs.Attempt
import XmlSchema.Proofs.Component.Parts
import XmlSchema.Proofs.Document.Grounding

/-!
# Which models can be written

Writing fails for few reasons: a type may combine parts that have no common
written form, and a component at the top level may lack a name.  Whether one of
them applies can be read off the model, whatever prefixes have been given so
far.
-/

namespace XmlSchema

open Attempt

/-- The parts of a definition of a simple type go together. -/
def SimpleType.Coherent : SimpleType → Prop
  | restriction r => r.base = none ∨ r.baseType = none
  | list l => l.itemTypeName = none ∨ l.itemType = none
  | _ => True

/-- The parts of a derivation go together inside simple content. -/
structure Derivation.CoherentInSimple (d : Derivation) : Prop where
  particle : d.content.particle = none
  extension : d.step = .extension → d.simpleType = none ∧ d.facets = []
  bases : d.base = none ∨ d.simpleType = none

/-- The parts of a derivation go together inside complex content. -/
structure Derivation.CoherentInComplex (d : Derivation) : Prop where
  simpleType : d.simpleType = none
  facets : d.facets = []

/-- The parts of a content model go together. -/
def ContentModel.Coherent : ContentModel → Prop
  | direct _ => True
  | simple c => ∀ d, c.derivation = some d → d.CoherentInSimple
  | complex c => ∀ d, c.derivation = some d → d.CoherentInComplex

/-- The parts of a type go together. -/
def TypeBody.Coherent : TypeBody → Prop
  | simple t => t.Coherent
  | complex t => t.content.Coherent

/-- The parts of a component go together; only types can be at fault. -/
def ComponentKind.Coherent : (kind : ComponentKind) → kind.Component → Prop
  | .type, t => t.body.Coherent
  | _, _ => True

/-- A reason why the parts of a type do not go together. -/
def Inconsistency.OfShape (cause : Inconsistency) : Prop :=
  cause ∈ [restrictionBases, listItems, particleInSimpleContent, typeInSimpleExtension,
    typeInComplexContent, derivationBases]

instance (cause : Inconsistency) : Decidable cause.OfShape :=
  inferInstanceAs (Decidable (cause ∈ _))

/-- What writing can fail with when nothing is missing and nothing is built in. -/
inductive Writer.Refusal : SchemaError → Prop
  | shape (name : Option QName) (key : SchemaKey) (cause : Inconsistency) (h : cause.OfShape) :
      Refusal (.inconsistent (.type name key) cause)
  | unnamed (kind : ComponentKind) (key : SchemaKey) : Refusal (.unnamedComponent kind key)

namespace Writer

section Total

variable (cx : WriterContext)

theorem total_declare (uri : String) : Total (declare uri) := total_modifyGet _

theorem total_token (name : QName) : Total (token name) := total_modifyGet _

theorem total_token? (name : Option QName) : Total (token? name) := by
  cases name with
  | none => exact total_pure _
  | some name => exact (total_token name).bind fun _ => total_pure _

theorem total_tokens (names : List QName) : Total (tokens names) := by
  induction names with
  | nil => exact total_pure _
  | cons name rest ih =>
      exact (total_token name).bind fun _ => ih.bind fun _ => total_pure _

theorem total_markupPrefix (scope : Scope) (isAttribute : Bool) (name : Xml.Name) :
    Total (markupPrefix scope isAttribute name) := by
  unfold markupPrefix
  cases name.uri with
  | none => exact total_pure _
  | some uri =>
      have hkept : ∀ kept : Bool, Total (if kept then pure name.pfx
          else do return some (← declare uri) : Writer (Option String)) := by
        intro kept
        cases kept with
        | true => exact total_pure _
        | false => exact (total_declare uri).bind fun _ => total_pure _
      exact hkept _

theorem total_adoptAttributes (scope : Scope) (attributes : List Xml.Attribute) :
    Total (adoptAttributes scope attributes) := by
  induction attributes with
  | nil => exact total_pure _
  | cons a rest ih =>
      have hone : Total (adoptAttribute scope a) :=
        (total_markupPrefix scope true a.name).bind fun _ => total_pure _
      exact hone.bind fun _ => ih.bind fun _ => total_pure _

theorem total_adoptTag (scope : Scope) (t : Xml.Tag) : Total (adoptTag scope t) :=
  (total_markupPrefix scope false t.name).bind fun _ =>
    (total_adoptAttributes scope t.attributes).bind fun _ => total_pure _

mutual

theorem total_adopt : ∀ (scope : Scope) (node : Xml.Node), Total (adopt scope node)
  | _, .text _ => by
      unfold adopt
      exact total_pure _
  | _, .comment _ => by
      unfold adopt
      exact total_pure _
  | scope, .element t kids => by
      unfold adopt
      exact (total_adoptTag _ t).bind fun _ =>
        (total_adoptAll (scope.enter t.declared) kids).bind fun _ => total_pure _

theorem total_adoptAll : ∀ (scope : Scope) (nodes : List Xml.Node), Total (adoptAll scope nodes)
  | _, [] => by
      unfold adoptAll
      exact total_pure _
  | scope, node :: rest => by
      unfold adoptAll
      exact (total_adopt scope node).bind fun _ =>
        (total_adoptAll scope rest).bind fun _ => total_pure _

end

theorem total_foreign (content : List ForeignContent) : Total (foreign cx content) := by
  unfold foreign
  split
  · exact total_pure _
  · refine (total_modify _).bind fun _ => ?_
    cases cx.policy with
    | drop => exact total_pure _
    | keep =>
        exact (total_adoptAttributes _ _).bind fun _ =>
          (total_adoptAll _ _).bind fun _ => total_pure _

theorem total_tag (localName : String) (attributes : List Xml.Attribute) :
    Total (tag localName attributes) :=
  (total_declare _).bind fun _ => total_pure _

theorem total_remarks (rs : List Remark) : Total (remarks rs) := by
  induction rs with
  | nil => exact total_pure _
  | cons r rest ih =>
      have hone : Total (remark r) :=
        (total_tag _ _).bind fun _ => (total_adoptAll _ _).bind fun _ => total_pure _
      exact hone.bind fun _ => ih.bind fun _ => total_pure _

theorem total_annotationNode (a : Annotation) : Total (annotationNode cx a) :=
  (total_tag _ _).bind fun _ => (total_foreign cx _).bind fun _ =>
    (total_remarks _).bind fun _ => total_pure _

theorem total_leadingNote (note : Option Annotation) : Total (leadingNote cx note) := by
  cases note with
  | none => exact total_pure _
  | some a => exact (total_annotationNode cx a).bind fun _ => total_pure _

end Total

section Shapes

variable {cx : WriterContext} {P : Prop} {α : Type}

/-- A construct can be written if its children can. -/
theorem decides_construct (localName : String) (pairs : List (String × Option String))
    (common : Common) {children : Writer (List Xml.Node)} (h : Decides children P Refusal) :
    Decides (construct cx localName pairs common children) P Refusal := by
  refine .after (total_tag _ _) fun t => .after (total_leadingNote cx _) fun note =>
    .after (total_foreign cx _) fun content => ?_
  exact h.before fun _ => total_pure _

theorem total_construct (localName : String) (pairs : List (String × Option String))
    (common : Common) {children : Writer (List Xml.Node)} (h : Total children) :
    Total (construct cx localName pairs common children) :=
  (total_tag _ _).bind fun _ => (total_leadingNote cx _).bind fun _ =>
    (total_foreign cx _).bind fun _ => h.bind fun _ => total_pure _

theorem decides_each {write : α → Writer Xml.Node} {Q : α → Prop} {xs : List α}
    (h : ∀ x ∈ xs, Decides (write x) (Q x) Refusal) :
    Decides (each write xs) (∀ x ∈ xs, Q x) Refusal := by
  induction xs with
  | nil => exact (total_pure _).decides.congr ⟨fun _ => nofun, fun _ => trivial⟩
  | cons x rest ih =>
      have hrest := ih fun y hy => h y (List.mem_cons_of_mem x hy)
      refine Decides.congr ((h x List.mem_cons_self).bind fun node =>
        hrest.before fun more => total_pure (node :: more)) ?_
      rw [List.forall_mem_cons]

theorem total_each {write : α → Writer Xml.Node} (h : ∀ x, Total (write x)) (xs : List α) :
    Total (each write xs) := by
  induction xs with
  | nil => exact total_pure _
  | cons x rest ih => exact (h x).bind fun _ => ih.bind fun _ => total_pure _

theorem total_whenSome {write : α → Writer Xml.Node} (h : ∀ x, Total (write x)) (x : Option α) :
    Total (whenSome write x) := by
  cases x with
  | none => exact total_pure _
  | some y => exact (h y).bind fun _ => total_pure _

theorem total_facet (f : Facet) : Total (facet cx f) :=
  (total_construct _ _ _ (total_pure _)).bind fun _ => total_pure _

theorem total_wildcard (localName : String) (w : Wildcard) : Total (wildcard cx localName w) :=
  total_construct _ _ _ (total_pure _)

theorem total_path (localName : String) (p : PathExpression) : Total (path cx localName p) :=
  (total_construct _ _ _ (total_pure _)).bind fun _ => total_pure _

theorem total_constraint (c : IdentityConstraint) : Total (constraint cx c) := by
  have hchildren : Total (do
      let selector ← whenSome (path cx "selector") c.selector
      let fields ← each (path cx "field") c.fields
      return selector ++ fields : Writer (List Xml.Node)) :=
    (total_whenSome (total_path _) _).bind fun _ =>
      (total_each (total_path _) _).bind fun _ => total_pure _
  unfold constraint
  cases c.kind with
  | keyref name =>
      exact (total_token name).bind fun _ =>
        (total_construct _ _ _ hchildren).bind fun _ => total_pure _
  | _ => exact (total_construct _ _ _ hchildren).bind fun _ => total_pure _

theorem decides_demand {kind : ComponentKind} {id : ComponentId kind} {x : kind.Component}
    (hx : cx.collection.get? id = some x) {f : kind.Component → Writer α}
    (h : Decides (f x) P Refusal) : Decides (demand cx id >>= f) P Refusal := by
  unfold demand
  rw [hx]
  exact h

theorem decides_demandName (kind : ComponentKind) (name : Option QName) {f : QName → Writer α}
    (h : ∀ n, Decides (f n) P Refusal) :
    Decides (demandName cx kind name >>= f) (name.isSome ∧ P) Refusal := by
  cases name with
  | none => exact fun s => ⟨nofun, .unnamed kind _⟩
  | some n => exact (h n).congr ⟨fun hP => ⟨rfl, hP⟩, And.right⟩

theorem both_isSome_iff {α β : Type} {x : Option α} {y : Option β} :
    (x.isSome && y.isSome) = true ↔ ¬ (x = none ∨ y = none) := by
  cases x <;> cases y <;> simp

/-- What a guard forbids is what a condition excludes. -/
theorem decides_guard {b : Bool} {Q : Prop} (hb : b = true ↔ ¬ Q) (name : Option QName)
    {cause : Inconsistency} (hcause : cause.OfShape) {m : Writer α} (h : Q → Decides m P Refusal) :
    Decides (do
      if b then inconsistent cx name cause
      m) (Q ∧ P) Refusal := by
  by_cases hQ : Q
  · have hfalse : b = false := by simpa [hQ] using hb
    rw [hfalse]
    exact (h hQ).congr ⟨fun hP => ⟨hQ, hP⟩, And.right⟩
  · have htrue : b = true := hb.2 hQ
    rw [htrue]
    exact fun s => ⟨fun h => hQ h.1, .shape name _ cause hcause⟩

end Shapes

section Components

variable (cx : WriterContext) (inline : TypeId → Writer Xml.Element) (S : ComponentRef → Prop)

/-- The writing of a part that is defined in place comes out as it should. -/
def WritesPart : ComponentRef → Prop
  | ⟨.type, id⟩ => Decides (inline id) (S ⟨.type, id⟩) Refusal
  | ⟨.element, id⟩ => Decides (element cx inline false id) (S ⟨.element, id⟩) Refusal
  | ⟨.attribute, id⟩ => Decides (attributeDecl cx inline false id) (S ⟨.attribute, id⟩) Refusal
  | _ => True

variable {cx inline S}

theorem decides_declaredAs (kind : ComponentKind) (topLevel : Bool) (ref name : Option QName) :
    Decides (declaredAs cx kind topLevel ref name) (topLevel = true → name.isSome) Refusal := by
  cases topLevel with
  | false =>
      have htotal : Total (declaredAs cx kind false ref name) := by
        cases ref with
        | some target => exact (total_token target).bind fun _ => total_pure _
        | none => cases name <;> exact total_pure _
      exact htotal.decides.congr ⟨fun _ => nofun, fun _ => trivial⟩
  | true =>
      cases name with
      | some n =>
          cases ref <;> exact (total_pure _).decides.congr ⟨fun _ _ => rfl, fun _ => trivial⟩
      | none =>
          cases ref <;> exact decides_throw (.unnamed kind _) fun h => nomatch h rfl

theorem decides_inlineType {slot : TypeSlot}
    (h : ∀ ref ∈ typeRefs slot.inline, WritesPart cx inline S ref) :
    Decides (inlineType inline slot) (∀ ref ∈ typeRefs slot.inline, S ref) Refusal := by
  cases slot with
  | anonymous id =>
      have hid : Decides (inline id) (S ⟨.type, id⟩) Refusal := h _ List.mem_cons_self
      refine (hid.before fun e => total_pure [Xml.Node.ofElement e]).congr ?_
      exact (List.forall_mem_singleton).symm
  | _ => exact (total_pure _).decides.congr ⟨fun _ => nofun, fun _ => trivial⟩

theorem decides_element {topLevel : Bool} {id : ElementId} {e : ElementDecl}
    (he : cx.collection.get? id = some e)
    (h : ∀ ref ∈ typeRefs e.type.inline, WritesPart cx inline S ref) :
    Decides (element cx inline topLevel id)
      ((topLevel = true → e.name.isSome) ∧ ∀ ref ∈ typeRefs e.type.inline, S ref) Refusal := by
  refine decides_demand he ((decides_declaredAs _ _ _ _).bind fun naming => ?_)
  refine .after (total_token? _) fun type => .after (total_token? _) fun group => ?_
  refine decides_construct _ _ _ ((decides_inlineType h).before fun node => ?_)
  exact (total_each total_constraint _).bind fun _ => total_pure _

theorem decides_attributeDecl {topLevel : Bool} {id : AttributeId} {a : AttributeDecl}
    (ha : cx.collection.get? id = some a)
    (h : ∀ ref ∈ typeRefs a.type.inline, WritesPart cx inline S ref) :
    Decides (attributeDecl cx inline topLevel id)
      ((topLevel = true → a.name.isSome) ∧ ∀ ref ∈ typeRefs a.type.inline, S ref) Refusal := by
  refine decides_demand ha ((decides_declaredAs _ _ _ _).bind fun naming => ?_)
  refine .after (total_token? _) fun type => ?_
  exact decides_construct _ _ _ (decides_inlineType h)

theorem decides_attributeItem {i : AttributeItem}
    (h : ∀ ref ∈ attributeParts [i], WritesPart cx inline S ref) :
    Decides (attributeItem cx inline i) (∀ ref ∈ attributeParts [i], S ref) Refusal := by
  cases i with
  | «attribute» id =>
      have hid : Decides (attributeDecl cx inline false id) (S ⟨.attribute, id⟩) Refusal :=
        h _ List.mem_cons_self
      refine (hid.before fun e => total_pure (Xml.Node.ofElement e)).congr ?_
      exact (List.forall_mem_singleton).symm
  | group ref =>
      have htotal : Total (attributeItem cx inline (.group ref)) :=
        (total_token _).bind fun _ =>
          (total_construct _ _ _ (total_pure _)).bind fun _ => total_pure _
      exact htotal.decides.congr ⟨fun _ => nofun, fun _ => trivial⟩

theorem decides_attributes {items : List AttributeItem}
    (h : ∀ ref ∈ attributeParts items, WritesPart cx inline S ref) :
    Decides (each (attributeItem cx inline) items) (∀ ref ∈ attributeParts items, S ref)
      Refusal := by
  have hparts : ∀ (Q : ComponentRef → Prop), (∀ ref ∈ attributeParts items, Q ref) ↔
      ∀ i ∈ items, ∀ ref ∈ attributeParts [i], Q ref := by
    intro Q
    induction items with
    | nil => exact ⟨fun _ => nofun, fun _ => nofun⟩
    | cons i rest ih =>
        rw [← List.singleton_append, attributeParts_append, List.forall_mem_append,
          List.forall_mem_append, List.forall_mem_singleton, ih fun ref href => h ref ?_]
        rw [← List.singleton_append, attributeParts_append]
        exact List.mem_append_right _ href
  refine Decides.congr ?_ (hparts S).symm
  exact decides_each fun i hi => decides_attributeItem ((hparts _).1 h i hi)

mutual

theorem decides_particle : ∀ p : Particle,
    (∀ id ∈ p.elements, WritesPart cx inline S ⟨.element, id⟩) →
    Decides (particle cx inline p) (∀ id ∈ p.elements, S ⟨.element, id⟩) Refusal
  | .model o c common particles, h => by
      unfold particle
      unfold Particle.elements at h ⊢
      exact (decides_construct _ _ _ (decides_particleList particles h)).before
        fun _ => total_pure _
  | .element o id, h => by
      unfold particle
      unfold Particle.elements at h ⊢
      have hid : Decides (element cx inline false id) (S ⟨.element, id⟩) Refusal :=
        h id List.mem_cons_self
      refine (hid.before fun _ => total_pure _).congr ⟨fun hid other hother => ?_, fun h =>
        h id List.mem_cons_self⟩
      rw [List.mem_singleton.1 hother]
      exact hid
  | .any o w, _ => by
      unfold particle
      unfold Particle.elements
      refine ((total_wildcard _ _).bind fun _ => total_pure _).decides.congr ?_
      exact ⟨fun _ => nofun, fun _ => trivial⟩
  | .group o ref, _ => by
      unfold particle
      unfold Particle.elements
      refine ((total_token _).bind fun _ =>
        (total_construct _ _ _ (total_pure _)).bind fun _ => total_pure _).decides.congr ?_
      exact ⟨fun _ => nofun, fun _ => trivial⟩

theorem decides_particleList : ∀ ps : List Particle,
    (∀ id ∈ Particle.elementsList ps, WritesPart cx inline S ⟨.element, id⟩) →
    Decides (particleList cx inline ps) (∀ id ∈ Particle.elementsList ps, S ⟨.element, id⟩)
      Refusal
  | [], _ => by
      unfold particleList Particle.elementsList
      exact (total_pure _).decides.congr ⟨fun _ => nofun, fun _ => trivial⟩
  | p :: rest, h => by
      unfold particleList
      unfold Particle.elementsList at h ⊢
      rw [List.forall_mem_append] at h ⊢
      exact (decides_particle p h.1).bind fun node =>
        (decides_particleList rest h.2).before fun _ => total_pure _

end

theorem decides_particle? {p : Option Particle}
    (h : ∀ ref ∈ (p.map Particle.parts).getD [], WritesPart cx inline S ref) :
    Decides (whenSome (particle cx inline) p) (∀ ref ∈ (p.map Particle.parts).getD [], S ref)
      Refusal := by
  cases p with
  | none => exact (total_pure _).decides.congr ⟨fun _ => nofun, fun _ => trivial⟩
  | some p =>
      have hp := decides_particle p (List.forall_mem_map.1 h)
      refine (hp.before fun node => total_pure [node]).congr ?_
      exact (List.forall_mem_map).symm

theorem decides_content {c : Content} (h : ∀ ref ∈ c.parts, WritesPart cx inline S ref) :
    Decides (content cx inline c) (∀ ref ∈ c.parts, S ref) Refusal := by
  unfold Content.parts at h ⊢
  rw [List.forall_mem_append] at h ⊢
  refine (decides_particle? h.1).bind fun particles =>
    (decides_attributes h.2).before fun attributes => ?_
  refine (total_whenSome (fun w => ?_) _).bind fun _ => total_pure _
  exact (total_wildcard _ w).bind fun _ => total_pure _

theorem decides_inlineNodes {ids : List TypeId}
    (h : ∀ ref ∈ typeRefs ids, WritesPart cx inline S ref) :
    Decides (each (inlineNode inline) ids) (∀ ref ∈ typeRefs ids, S ref) Refusal := by
  have hids := List.forall_mem_map.1 h
  refine (decides_each fun id hid => Decides.before (hids id hid) fun e =>
    total_pure (Xml.Node.ofElement e)).congr ?_
  exact (List.forall_mem_map).symm

theorem decides_inlineNode? {id : Option TypeId}
    (h : ∀ ref ∈ typeRefs id.toList, WritesPart cx inline S ref) :
    Decides (whenSome (inlineNode inline) id) (∀ ref ∈ typeRefs id.toList, S ref) Refusal := by
  cases id with
  | none => exact (total_pure _).decides.congr ⟨fun _ => nofun, fun _ => trivial⟩
  | some id =>
      have hid : Decides (inline id) (S ⟨.type, id⟩) Refusal := h _ List.mem_cons_self
      refine ((hid.before fun e => total_pure (Xml.Node.ofElement e)).before fun node =>
        total_pure [node]).congr ?_
      exact (List.forall_mem_singleton).symm

theorem decides_simpleBody (name : Option QName) {t : SimpleType}
    (hbuiltin : ∀ base, t ≠ .builtin base) (h : ∀ ref ∈ t.parts, WritesPart cx inline S ref) :
    Decides (simpleBody cx inline name t) (t.Coherent ∧ ∀ ref ∈ t.parts, S ref) Refusal := by
  cases t with
  | builtin base => exact absurd rfl (hbuiltin base)
  | unspecified =>
      exact (total_pure _).decides.congr ⟨fun _ => ⟨trivial, nofun⟩, fun _ => trivial⟩
  | restriction r =>
      refine decides_guard both_isSome_iff name (by decide) fun _ =>
        .after (total_token? _) fun base => ?_
      refine Decides.before (decides_construct _ _ _ ?_) fun _ => total_pure _
      exact (decides_inlineNode? h).before fun _ =>
        (total_each total_facet _).bind fun _ => total_pure _
  | list l =>
      refine decides_guard both_isSome_iff name (by decide) fun _ =>
        .after (total_token? _) fun itemType => ?_
      exact Decides.before (decides_construct _ _ _ (decides_inlineNode? h)) fun _ => total_pure _
  | union u =>
      refine Decides.congr (.after (total_tokens _) fun members => ?_)
        ⟨fun hparts => ⟨trivial, hparts⟩, And.right⟩
      exact Decides.before (decides_construct _ _ _ (decides_inlineNodes h))
        fun _ => total_pure _

/-- The children of a written derivation. -/
theorem decides_derivation (name : Option QName) {d : Derivation}
    (h : ∀ ref ∈ d.parts, WritesPart cx inline S ref) :
    Decides (derivation cx inline name d)
      ((d.base = none ∨ d.simpleType = none) ∧ ∀ ref ∈ d.parts, S ref) Refusal := by
  unfold Derivation.parts at h ⊢
  rw [List.forall_mem_append] at h ⊢
  refine decides_guard both_isSome_iff name (by decide) fun _ =>
    .after (total_token? _) fun base => ?_
  refine Decides.before (decides_construct _ _ _ ?_) fun _ => total_pure _
  refine (decides_inlineNode? h.1).bind fun inner => .after (total_each total_facet _) fun _ => ?_
  exact (decides_content h.2).before fun _ => total_pure _

theorem decides_simpleDerivation (name : Option QName) {d : Derivation}
    (h : ∀ ref ∈ d.parts, WritesPart cx inline S ref) :
    Decides (simpleDerivation cx inline name d)
      (d.CoherentInSimple ∧ ∀ ref ∈ d.parts, S ref) Refusal := by
  have hguards : Decides (simpleDerivation cx inline name d)
      (d.content.particle = none ∧ (d.step = .extension → d.simpleType = none ∧ d.facets = []) ∧
        (d.base = none ∨ d.simpleType = none) ∧ ∀ ref ∈ d.parts, S ref) Refusal := by
    refine decides_guard ?_ name (by decide) fun _ => decides_guard ?_ name (by decide) fun _ =>
      decides_derivation name h
    · cases d.content.particle <;> simp
    · cases d.step <;> cases d.simpleType <;> cases d.facets <;> simp
  exact hguards.congr ⟨fun ⟨hparticle, hextension, hbases, hparts⟩ =>
    ⟨⟨hparticle, hextension, hbases⟩, hparts⟩, fun ⟨hd, hparts⟩ =>
    ⟨hd.particle, hd.extension, hd.bases, hparts⟩⟩

theorem decides_complexDerivation (name : Option QName) {d : Derivation}
    (h : ∀ ref ∈ d.parts, WritesPart cx inline S ref) :
    Decides (complexDerivation cx inline name d)
      (d.CoherentInComplex ∧ ∀ ref ∈ d.parts, S ref) Refusal := by
  have hguards : Decides (complexDerivation cx inline name d)
      ((d.simpleType = none ∧ d.facets = []) ∧
        (d.base = none ∨ d.simpleType = none) ∧ ∀ ref ∈ d.parts, S ref) Refusal := by
    refine decides_guard ?_ name (by decide) fun _ => decides_derivation name h
    cases d.simpleType <;> cases d.facets <;> simp
  exact hguards.congr ⟨fun ⟨hd, _, hparts⟩ => ⟨⟨hd.1, hd.2⟩, hparts⟩, fun ⟨hd, hparts⟩ =>
    ⟨⟨hd.simpleType, hd.facets⟩, .inr hd.simpleType, hparts⟩⟩

/-- Writing a derivation that may be absent. -/
theorem decides_derivation? {write : Derivation → Writer Xml.Node} {Q : Derivation → Prop}
    {d : Option Derivation}
    (hwrite : ∀ d, (∀ ref ∈ d.parts, WritesPart cx inline S ref) →
      Decides (write d) (Q d ∧ ∀ ref ∈ d.parts, S ref) Refusal)
    (h : ∀ ref ∈ (d.map Derivation.parts).getD [], WritesPart cx inline S ref) :
    Decides (whenSome write d)
      ((∀ d', d = some d' → Q d') ∧ ∀ ref ∈ (d.map Derivation.parts).getD [], S ref) Refusal := by
  cases d with
  | none =>
      refine (total_pure _).decides.congr ⟨fun _ => ⟨?_, ?_⟩, fun _ => trivial⟩
      · intro d hd
        cases hd
      · intro ref href
        cases href
  | some d =>
      have hd : Decides (write d) (Q d ∧ ∀ ref ∈ d.parts, S ref) Refusal := hwrite d h
      refine (hd.before fun node => total_pure [node]).congr ⟨?_, ?_⟩
      · rintro ⟨hQ, hparts⟩
        refine ⟨fun d' hd' => ?_, hparts⟩
        cases hd'
        exact hQ
      · rintro ⟨hQ, hparts⟩
        exact ⟨hQ d rfl, hparts⟩

theorem decides_contentModel (name : Option QName) {m : ContentModel}
    (h : ∀ ref ∈ m.parts, WritesPart cx inline S ref) :
    Decides (contentModel cx inline name m) (m.Coherent ∧ ∀ ref ∈ m.parts, S ref) Refusal := by
  cases m with
  | direct c => exact (decides_content h).congr ⟨fun hparts => ⟨trivial, hparts⟩, And.right⟩
  | simple c =>
      exact Decides.before (decides_construct _ _ _ (decides_derivation?
        (fun d hd => decides_simpleDerivation name hd) h)) fun _ => total_pure _
  | complex c =>
      exact Decides.before (decides_construct _ _ _ (decides_derivation?
        (fun d hd => decides_complexDerivation name hd) h)) fun _ => total_pure _

theorem decides_typeDefinition {named : Bool} {id : TypeId} {t : TypeDefinition}
    (ht : cx.collection.get? id = some t) (hbuiltin : t.isBuiltin = false)
    (h : ∀ ref ∈ t.body.parts, WritesPart cx inline S ref) :
    Decides (typeDefinition cx inline named id)
      ((named = true → t.name.isSome) ∧ t.body.Coherent ∧ ∀ ref ∈ t.body.parts, S ref)
      Refusal := by
  have hbody : Decides (match t.body with
      | .simple s => simpleBody cx inline t.name s
      | .complex c => contentModel cx inline t.name c.content)
      (t.body.Coherent ∧ ∀ ref ∈ t.body.parts, S ref) Refusal := by
    unfold TypeDefinition.isBuiltin at hbuiltin
    cases hb : t.body with
    | simple s =>
        rw [hb] at hbuiltin h
        refine decides_simpleBody t.name (fun base hbase => ?_) h
        rw [hbase] at hbuiltin
        cases hbuiltin
    | complex c =>
        rw [hb] at h
        exact decides_contentModel t.name h
  unfold typeDefinition
  refine decides_demand ht ?_
  rw [hbuiltin]
  cases named with
  | false =>
      exact (decides_construct _ _ _ hbody).congr ⟨fun hP => ⟨nofun, hP⟩, And.right⟩
  | true =>
      refine (decides_demandName .type t.name fun n => .after (total_pure _) fun name =>
        decides_construct _ _ _ hbody).congr ?_
      exact ⟨fun ⟨hn, hP⟩ => ⟨fun _ => hn, hP⟩, fun ⟨hn, hP⟩ => ⟨hn rfl, hP⟩⟩

theorem decides_group {id : GroupId} {g : GroupDefinition} (hg : cx.collection.get? id = some g)
    (h : ∀ ref ∈ (g.particle.map Particle.parts).getD [], WritesPart cx inline S ref) :
    Decides (group cx inline id)
      (g.name.isSome ∧ ∀ ref ∈ (g.particle.map Particle.parts).getD [], S ref) Refusal :=
  decides_demand hg (decides_demandName .group g.name fun _ =>
    decides_construct _ _ _ (decides_particle? h))

theorem decides_attributeGroup {id : AttributeGroupId} {g : AttributeGroupDefinition}
    (hg : cx.collection.get? id = some g)
    (h : ∀ ref ∈ attributeParts g.attributes, WritesPart cx inline S ref) :
    Decides (attributeGroup cx inline id)
      (g.name.isSome ∧ ∀ ref ∈ attributeParts g.attributes, S ref) Refusal :=
  decides_demand hg (decides_demandName .attributeGroup g.name fun _ =>
    decides_construct _ _ _ (decides_content h))

theorem decides_notationDecl {id : NotationId} {n : NotationDecl}
    (hn : cx.collection.get? id = some n) :
    Decides (notationDecl cx id) n.name.isSome Refusal :=
  (decides_demand hn (decides_demandName .notationDecl n.name fun _ =>
    (total_construct _ _ _ (total_pure _)).decides)).congr
      ⟨And.left, fun hname => ⟨hname, trivial⟩⟩

/-- A component at the top level can be written when it has a name, its parts
go together and each of them can be written. -/
theorem decides_component {ref : ComponentRef} {x : ref.kind.Component}
    (hx : cx.collection.get? ref.id = some x) (hbuiltin : ref.kind.isBuiltin x = false)
    (h : ∀ part ∈ ref.kind.parts x, WritesPart cx inline S part) :
    Decides (component cx inline ref)
      ((ref.kind.nameOf x).isSome ∧ ref.kind.Coherent x ∧ ∀ part ∈ ref.kind.parts x, S part)
      Refusal := by
  obtain ⟨kind, id⟩ := ref
  cases kind with
  | element =>
      refine (decides_element hx h).congr ?_
      exact ⟨fun ⟨hn, hP⟩ => ⟨hn rfl, trivial, hP⟩, fun ⟨hn, _, hP⟩ => ⟨fun _ => hn, hP⟩⟩
  | «attribute» =>
      refine (decides_attributeDecl hx h).congr ?_
      exact ⟨fun ⟨hn, hP⟩ => ⟨hn rfl, trivial, hP⟩, fun ⟨hn, _, hP⟩ => ⟨fun _ => hn, hP⟩⟩
  | type =>
      refine (decides_typeDefinition hx hbuiltin h).congr ?_
      exact ⟨fun ⟨hn, hP⟩ => ⟨hn rfl, hP⟩, fun ⟨hn, hP⟩ => ⟨fun _ => hn, hP⟩⟩
  | group =>
      exact (decides_group hx h).congr
        ⟨fun ⟨hn, hP⟩ => ⟨hn, trivial, hP⟩, fun ⟨hn, _, hP⟩ => ⟨hn, hP⟩⟩
  | attributeGroup =>
      exact (decides_attributeGroup hx h).congr
        ⟨fun ⟨hn, hP⟩ => ⟨hn, trivial, hP⟩, fun ⟨hn, _, hP⟩ => ⟨hn, hP⟩⟩
  | notationDecl =>
      exact (decides_notationDecl hx).congr
        ⟨fun hn => ⟨hn, trivial, nofun⟩, fun ⟨hn, _, _⟩ => hn⟩

end Components

end Writer

end XmlSchema
