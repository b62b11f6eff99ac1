import XmlSchema.Document.Writer
import XmlSchema.Proofs.Attempt
import XmlSchema.Proofs.Component.Parts

/-!
# Which components are looked up to write a document

Writing looks at a collection in one way only: it looks up components by their
identities.  A component is looked up when it is to be written, and after it
come its parts, in the order in which they stand in it.
-/

namespace XmlSchema

open Attempt

/-- A context of writing with another collection in view. -/
def WriterContext.over (cx : WriterContext) (d : Collection) : WriterContext :=
  { cx with collection := d }

namespace Writer

/-- A step of writing can have a result. -/
def Answers {α : Type} (m : Writer α) (a : α) : Prop := ∃ s t, exec m s = (.ok a, t)

/-- A step of writing, as it depends on the collection, looks up some
components one after the other, as far as it comes.  Apart from that it asks
for the number of types at most. -/
inductive Looks (c : Collection) :
    {α : Type} → (Collection → Writer α) → List ComponentRef → Prop
  | quiet {α : Type} {f : Collection → Writer α} (h : ∀ d, f d = f c) : Looks c f []
  | demand (cx : WriterContext) {kind : ComponentKind} (id : ComponentId kind) :
      Looks c (fun d => demand (cx.over d) id) [⟨kind, id⟩]
  | bind {α β : Type} {f : Collection → Writer α} {g : Collection → α → Writer β}
      {refs more : List ComponentRef} (hf : Looks c f refs)
      (hg : ∀ a, Answers (f c) a → Looks c (fun d => g d a) more) :
      Looks c (fun d => f d >>= g d) (refs ++ more)
  | count {α : Type} {f : Nat → Collection → Writer α} {refs : List ComponentRef}
      (h : Looks c (f c.typeCount) refs) : Looks c (fun d => f d.typeCount d) refs

namespace Looks

variable {c d : Collection} {α β : Type} {f : Collection → Writer α} {refs : List ComponentRef}

/-- What is written depends on nothing but the components that are looked up
and on how many types there are. -/
theorem exec_eq (h : Looks c f refs) (hrefs : ∀ ref ∈ refs, d.get? ref.id = c.get? ref.id)
    (hcount : d.typeCount = c.typeCount) (s : WriterState) : exec (f d) s = exec (f c) s := by
  induction h generalizing s with
  | quiet h => rw [h d]
  | demand cx id =>
      have hid : (cx.over d).collection.get? id = (cx.over c).collection.get? id :=
        hrefs _ List.mem_cons_self
      have hdemand : Writer.demand (cx.over d) id = Writer.demand (cx.over c) id := by
        unfold Writer.demand
        rw [hid]
        rfl
      exact congrArg (exec · s) hdemand
  | @bind _ _ f g refs more hf hg ihf ihg =>
      rw [exec_bind, exec_bind, ihf fun ref href => hrefs ref (List.mem_append_left _ href)]
      rcases hexec : exec (f c) s with ⟨e | a, t⟩
      · rfl
      · exact ihg a ⟨s, t, hexec⟩ (fun ref href => hrefs ref (List.mem_append_right _ href)) t
  | @count _ f refs _ ih =>
      have hf : exec (f d.typeCount d) s = exec (f c.typeCount c) s := by
        rw [hcount]
        exact ih hrefs s
      exact hf

/-- A step that does not depend on the collection comes first. -/
theorem after {m : Collection → Writer β} {g : Collection → β → Writer α}
    (hm : ∀ d, m d = m c) (hg : ∀ b, Looks c (fun d => g d b) refs) :
    Looks c (fun d => m d >>= g d) refs :=
  .bind (.quiet hm) fun b _ => hg b

/-- A step that does not depend on the collection comes last. -/
theorem before {g : Collection → α → Writer β} (hf : Looks c f refs)
    (hg : ∀ d a, g d a = g c a) : Looks c (fun d => f d >>= g d) refs := by
  have h := Looks.bind (g := g) hf fun a _ => .quiet fun d => hg d a
  rwa [List.append_nil] at h

/-- A component that is there is looked up first. -/
theorem demanded {cx : WriterContext} {kind : ComponentKind} {id : ComponentId kind}
    {x : kind.Component} {g : Collection → kind.Component → Writer α} (hx : c.get? id = some x)
    (hg : Looks c (fun d => g d x) refs) :
    Looks c (fun d => Writer.demand (cx.over d) id >>= g d) (⟨kind, id⟩ :: refs) := by
  refine .bind (.demand cx id) ?_
  rintro a ⟨s, t, ha⟩
  have hdemand : Writer.demand (cx.over c) id = pure x := by
    have hget : (cx.over c).collection.get? id = some x := hx
    unfold Writer.demand
    rw [hget]
  rw [hdemand, exec_pure] at ha
  cases ha
  exact hg

/-- Steps that are tried under a condition stop at it or go on. -/
theorem guarded {cx : WriterContext} (b : Bool) (name : Option QName) (cause : Inconsistency)
    (h : Looks c f refs) :
    Looks c (fun d => do
      if b then inconsistent (cx.over d) name cause
      f d) refs := by
  cases b with
  | false => exact h
  | true =>
      refine .bind (f := fun d => inconsistent (cx.over d) name cause) (.quiet fun _ => rfl) ?_
      rintro a ⟨s, t, ha⟩
      cases ha

end Looks

section Shapes

variable {cx : WriterContext} {c : Collection} {α : Type} {refs : List ComponentRef}

theorem looks_construct (localName : String) (pairs : List (String × Option String))
    (common : Common) {children : Collection → Writer (List Xml.Node)}
    (h : Looks c children refs) :
    Looks c (fun d => construct (cx.over d) localName pairs common (children d)) refs := by
  unfold construct
  refine .after (fun _ => rfl) fun t => .after (fun _ => rfl) fun note =>
    .after (fun _ => rfl) fun content => ?_
  exact h.before fun _ _ => rfl

theorem looks_each {write : Collection → α → Writer Xml.Node} {V : α → List ComponentRef}
    {xs : List α} (h : ∀ x ∈ xs, Looks c (fun d => write d x) (V x)) :
    Looks c (fun d => each (write d) xs) (xs.flatMap V) := by
  induction xs with
  | nil => exact .quiet fun _ => rfl
  | cons x rest ih =>
      have hrest := ih fun y hy => h y (List.mem_cons_of_mem x hy)
      exact .bind (h x List.mem_cons_self) fun node _ => hrest.before fun _ _ => rfl

theorem looks_whenSome {write : Collection → α → Writer Xml.Node} {V : α → List ComponentRef}
    {x : Option α} (h : ∀ y, x = some y → Looks c (fun d => write d y) (V y)) :
    Looks c (fun d => whenSome (write d) x) ((x.map V).getD []) := by
  cases x with
  | none => exact .quiet fun _ => rfl
  | some y => exact (h y rfl).before fun _ _ => rfl

end Shapes

section Components

variable (cx : WriterContext) (inline : Collection → TypeId → Writer Xml.Element)
  (V : ComponentRef → List ComponentRef)

/-- To write a part that is defined in place looks up what it should. -/
def LooksPart : ComponentRef → Prop
  | ⟨.type, id⟩ => Looks cx.collection (fun d => inline d id) (V ⟨.type, id⟩)
  | ⟨.element, id⟩ =>
      Looks cx.collection (fun d => element (cx.over d) (inline d) false id) (V ⟨.element, id⟩)
  | ⟨.attribute, id⟩ =>
      Looks cx.collection (fun d => attributeDecl (cx.over d) (inline d) false id)
        (V ⟨.attribute, id⟩)
  | _ => True

variable {cx inline V}

theorem looks_inlineType {slot : TypeSlot}
    (h : ∀ ref ∈ typeRefs slot.inline, LooksPart cx inline V ref) :
    Looks cx.collection (fun d => inlineType (inline d) slot)
      ((typeRefs slot.inline).flatMap V) := by
  cases slot with
  | anonymous id =>
      have hid : Looks cx.collection (fun d => inline d id) (V ⟨.type, id⟩) :=
        h _ List.mem_cons_self
      have hone : (typeRefs (TypeSlot.anonymous id).inline).flatMap V = V ⟨.type, id⟩ :=
        List.flatMap_singleton _ _
      rw [hone]
      exact hid.before fun _ _ => rfl
  | _ => exact .quiet fun _ => rfl

theorem looks_element {topLevel : Bool} {id : ElementId} {e : ElementDecl}
    (he : cx.collection.get? id = some e)
    (h : ∀ ref ∈ typeRefs e.type.inline, LooksPart cx inline V ref) :
    Looks cx.collection (fun d => element (cx.over d) (inline d) topLevel id)
      (⟨.element, id⟩ :: (typeRefs e.type.inline).flatMap V) := by
  refine .demanded he ?_
  refine .after (fun _ => rfl) fun naming => .after (fun _ => rfl) fun type =>
    .after (fun _ => rfl) fun group => ?_
  exact looks_construct _ _ _ ((looks_inlineType h).before fun _ _ => rfl)

theorem looks_attributeDecl {topLevel : Bool} {id : AttributeId} {a : AttributeDecl}
    (ha : cx.collection.get? id = some a)
    (h : ∀ ref ∈ typeRefs a.type.inline, LooksPart cx inline V ref) :
    Looks cx.collection (fun d => attributeDecl (cx.over d) (inline d) topLevel id)
      (⟨.attribute, id⟩ :: (typeRefs a.type.inline).flatMap V) := by
  refine .demanded ha ?_
  refine .after (fun _ => rfl) fun naming => .after (fun _ => rfl) fun type => ?_
  exact looks_construct _ _ _ (looks_inlineType h)

theorem looks_attributeItem {i : AttributeItem}
    (h : ∀ ref ∈ attributeParts [i], LooksPart cx inline V ref) :
    Looks cx.collection (fun d => attributeItem (cx.over d) (inline d) i)
      ((attributeParts [i]).flatMap V) := by
  cases i with
  | «attribute» id =>
      have hid : Looks cx.collection
          (fun d => attributeDecl (cx.over d) (inline d) false id) (V ⟨.attribute, id⟩) :=
        h _ List.mem_cons_self
      have hone : (attributeParts [.attribute id]).flatMap V = V ⟨.attribute, id⟩ :=
        List.flatMap_singleton _ _
      rw [hone]
      exact hid.before fun _ _ => rfl
  | group ref => exact .quiet fun _ => rfl

theorem looks_attributes {items : List AttributeItem}
    (h : ∀ ref ∈ attributeParts items, LooksPart cx inline V ref) :
    Looks cx.collection (fun d => each (attributeItem (cx.over d) (inline d)) items)
      ((attributeParts items).flatMap V) := by
  have hitems : ∀ items, attributeParts items = items.flatMap fun i => attributeParts [i] := by
    intro items
    induction items with
    | nil => rfl
    | cons i rest ih =>
        rw [← List.singleton_append, attributeParts_append, ih, List.flatMap_append,
          List.flatMap_singleton]
  rw [hitems, List.flatMap_assoc]
  refine looks_each fun i hi => looks_attributeItem fun ref href => h ref ?_
  rw [hitems]
  exact List.mem_flatMap.2 ⟨i, hi, href⟩

mutual

theorem looks_particle : ∀ p : Particle,
    (∀ id ∈ p.elements, LooksPart cx inline V ⟨.element, id⟩) →
    Looks cx.collection (fun d => particle (cx.over d) (inline d) p)
      (p.elements.flatMap fun id => V ⟨.element, id⟩)
  | .model o c common particles, h => by
      unfold Particle.elements at h ⊢
      unfold particle
      exact (looks_construct _ _ _ (looks_particleList particles h)).before fun _ _ => rfl
  | .element o id, h => by
      unfold Particle.elements at h ⊢
      unfold particle
      have hid : Looks cx.collection (fun d => element (cx.over d) (inline d) false id)
          (V ⟨.element, id⟩) := h id List.mem_cons_self
      rw [List.flatMap_singleton]
      exact hid.before fun _ _ => rfl
  | .any o w, _ => by
      unfold Particle.elements
      unfold particle
      exact .quiet fun _ => rfl
  | .group o ref, _ => by
      unfold Particle.elements
      unfold particle
      exact .quiet fun _ => rfl

theorem looks_particleList : ∀ ps : List Particle,
    (∀ id ∈ Particle.elementsList ps, LooksPart cx inline V ⟨.element, id⟩) →
    Looks cx.collection (fun d => particleList (cx.over d) (inline d) ps)
      ((Particle.elementsList ps).flatMap fun id => V ⟨.element, id⟩)
  | [], _ => by
      unfold Particle.elementsList
      unfold particleList
      exact .quiet fun _ => rfl
  | p :: rest, h => by
      unfold Particle.elementsList at h ⊢
      unfold particleList
      rw [List.forall_mem_append] at h
      rw [List.flatMap_append]
      exact .bind (looks_particle p h.1) fun node _ =>
        (looks_particleList rest h.2).before fun _ _ => rfl

end

theorem looks_particle? {p : Option Particle}
    (h : ∀ ref ∈ (p.map Particle.parts).getD [], LooksPart cx inline V ref) :
    Looks cx.collection (fun d => whenSome (particle (cx.over d) (inline d)) p)
      (((p.map Particle.parts).getD []).flatMap V) := by
  have hwrite : ∀ q, p = some q →
      Looks cx.collection (fun d => particle (cx.over d) (inline d) q) (q.parts.flatMap V) := by
    rintro q rfl
    have hparts : q.parts.flatMap V = q.elements.flatMap fun id => V ⟨.element, id⟩ :=
      List.flatMap_map _ _ _
    rw [hparts]
    exact looks_particle q (List.forall_mem_map.1 h)
  have hlooks := looks_whenSome (V := fun q : Particle => q.parts.flatMap V) hwrite
  cases p with
  | none => exact hlooks
  | some q => exact hlooks

theorem looks_content {content : Content} (h : ∀ ref ∈ content.parts, LooksPart cx inline V ref) :
    Looks cx.collection (fun d => Writer.content (cx.over d) (inline d) content)
      (content.parts.flatMap V) := by
  unfold Content.parts at h ⊢
  rw [List.forall_mem_append] at h
  rw [List.flatMap_append]
  refine .bind (looks_particle? h.1) fun particles _ => ?_
  exact (looks_attributes h.2).before fun _ _ => rfl

theorem looks_inlineNode {id : TypeId} (h : LooksPart cx inline V ⟨.type, id⟩) :
    Looks cx.collection (fun d => inlineNode (inline d) id) (V ⟨.type, id⟩) :=
  Looks.before h fun _ _ => rfl

theorem looks_inlineNodes {ids : List TypeId}
    (h : ∀ ref ∈ typeRefs ids, LooksPart cx inline V ref) :
    Looks cx.collection (fun d => each (inlineNode (inline d)) ids) ((typeRefs ids).flatMap V) := by
  have hids := List.forall_mem_map.1 h
  rw [typeRefs, List.flatMap_map]
  exact looks_each fun id hid => looks_inlineNode (hids id hid)

theorem looks_inlineNode? {id : Option TypeId}
    (h : ∀ ref ∈ typeRefs id.toList, LooksPart cx inline V ref) :
    Looks cx.collection (fun d => whenSome (inlineNode (inline d)) id)
      ((typeRefs id.toList).flatMap V) := by
  cases id with
  | none => exact .quiet fun _ => rfl
  | some id =>
      have hone : (typeRefs [id]).flatMap V = V ⟨.type, id⟩ := List.flatMap_singleton _ _
      rw [Option.toList_some, hone]
      exact (looks_inlineNode (h _ List.mem_cons_self)).before fun _ _ => rfl

theorem looks_simpleBody (name : Option QName) {t : SimpleType}
    (h : ∀ ref ∈ t.parts, LooksPart cx inline V ref) :
    Looks cx.collection (fun d => simpleBody (cx.over d) (inline d) name t)
      (t.parts.flatMap V) := by
  cases t with
  | builtin base => exact .quiet fun _ => rfl
  | unspecified => exact .quiet fun _ => rfl
  | restriction r =>
      refine .guarded _ name .restrictionBases (.after (fun _ => rfl) fun base => ?_)
      refine Looks.before (looks_construct _ _ _ ?_) fun _ _ => rfl
      exact (looks_inlineNode? h).before fun _ _ => rfl
  | list l =>
      refine .guarded _ name .listItems (.after (fun _ => rfl) fun itemType => ?_)
      exact Looks.before (looks_construct _ _ _ (looks_inlineNode? h)) fun _ _ => rfl
  | union u =>
      refine .after (fun _ => rfl) fun members => ?_
      exact Looks.before (looks_construct _ _ _ (looks_inlineNodes h)) fun _ _ => rfl

theorem looks_derivation (name : Option QName) {derived : Derivation}
    (h : ∀ ref ∈ derived.parts, LooksPart cx inline V ref) :
    Looks cx.collection (fun d => derivation (cx.over d) (inline d) name derived)
      (derived.parts.flatMap V) := by
  unfold Derivation.parts at h ⊢
  rw [List.forall_mem_append] at h
  rw [List.flatMap_append]
  refine .guarded _ name .derivationBases (.after (fun _ => rfl) fun base => ?_)
  refine Looks.before (looks_construct _ _ _ ?_) fun _ _ => rfl
  refine .bind (looks_inlineNode? h.1) fun inner _ => .after (fun _ => rfl) fun facets => ?_
  exact (looks_content h.2).before fun _ _ => rfl

/-- Writing a derivation that may be absent. -/
theorem looks_derivation? {write : Collection → Derivation → Writer Xml.Node}
    {derived : Option Derivation}
    (hwrite : ∀ derived, (∀ ref ∈ derived.parts, LooksPart cx inline V ref) →
      Looks cx.collection (fun d => write d derived) (derived.parts.flatMap V))
    (h : ∀ ref ∈ (derived.map Derivation.parts).getD [], LooksPart cx inline V ref) :
    Looks cx.collection (fun d => whenSome (write d) derived)
      (((derived.map Derivation.parts).getD []).flatMap V) := by
  cases derived with
  | none => exact .quiet fun _ => rfl
  | some derived => exact (hwrite derived h).before fun _ _ => rfl

theorem looks_contentModel (name : Option QName) {m : ContentModel}
    (h : ∀ ref ∈ m.parts, LooksPart cx inline V ref) :
    Looks cx.collection (fun d => contentModel (cx.over d) (inline d) name m)
      (m.parts.flatMap V) := by
  cases m with
  | direct content => exact looks_content h
  | simple content =>
      refine Looks.before (looks_construct _ _ _ (looks_derivation? ?_ h)) fun _ _ => rfl
      intro derived hderived
      exact .guarded _ name .particleInSimpleContent
        (.guarded _ name .typeInSimpleExtension (looks_derivation name hderived))
  | complex content =>
      refine Looks.before (looks_construct _ _ _ (looks_derivation? ?_ h)) fun _ _ => rfl
      intro derived hderived
      exact .guarded _ name .typeInComplexContent (looks_derivation name hderived)

/-- Writing the body of a type looks up its parts. -/
theorem looks_typeBody (name : Option QName) {body : TypeBody}
    (h : ∀ ref ∈ body.parts, LooksPart cx inline V ref) :
    Looks cx.collection (fun d => match body with
      | .simple s => simpleBody (cx.over d) (inline d) name s
      | .complex c => contentModel (cx.over d) (inline d) name c.content)
      (body.parts.flatMap V) := by
  cases body with
  | simple s => exact looks_simpleBody name h
  | complex c => exact looks_contentModel name h

theorem looks_typeDefinition {named : Bool} {id : TypeId} {t : TypeDefinition}
    (ht : cx.collection.get? id = some t) (h : ∀ ref ∈ t.body.parts, LooksPart cx inline V ref) :
    Looks cx.collection (fun d => typeDefinition (cx.over d) (inline d) named id)
      (⟨.type, id⟩ :: t.body.parts.flatMap V) := by
  refine .demanded ht (.guarded _ t.name .builtinType ?_)
  cases named with
  | false => exact looks_construct _ _ _ (looks_typeBody t.name h)
  | true =>
      refine .after (fun _ => rfl) fun n => .after (fun _ => rfl) fun name => ?_
      exact looks_construct _ _ _ (looks_typeBody t.name h)

/-- A component at the top level is looked up, and after it its parts. -/
theorem looks_component {ref : ComponentRef} {x : ref.kind.Component}
    (hx : cx.collection.get? ref.id = some x)
    (h : ∀ part ∈ ref.kind.parts x, LooksPart cx inline V part) :
    Looks cx.collection (fun d => component (cx.over d) (inline d) ref)
      (ref :: (ref.kind.parts x).flatMap V) := by
  obtain ⟨kind, id⟩ := ref
  cases kind with
  | element => exact looks_element hx h
  | «attribute» => exact looks_attributeDecl hx h
  | type => exact looks_typeDefinition hx h
  | group =>
      refine .demanded hx (.after (fun _ => rfl) fun name => ?_)
      exact looks_construct _ _ _ (looks_particle? h)
  | attributeGroup =>
      refine .demanded hx (.after (fun _ => rfl) fun name => ?_)
      exact looks_construct _ _ _ (looks_content h)
  | notationDecl => exact .demanded hx (.quiet fun _ => rfl)

/-- An item is written by writing what it refers to. -/
theorem looks_item {i : SchemaItem}
    (h : ∀ ref ∈ i.refs, Looks cx.collection
      (fun d => componentNode (cx.over d) (inline d) ref) (V ref)) :
    Looks cx.collection (fun d => item (cx.over d) (inline d) i) (i.refs.flatMap V) := by
  cases i with
  | note a => exact .quiet fun _ => rfl
  | external e =>
      exact Looks.before (looks_construct _ _ _ (looks_each h)) fun _ _ => rfl
  | component ref =>
      have hone : (SchemaItem.component ref).refs.flatMap V = V ref := List.flatMap_singleton _ _
      rw [hone]
      exact h ref List.mem_cons_self

end Components

end Writer

end XmlSchema
