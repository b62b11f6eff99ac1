import XmlSchema.Proofs.Component.Parts
import XmlSchema.Proofs.Document.Tracing

/-!
# Particles and the elements they are read from

A particle has the bounds that the attributes of one element give, the element
it is read from; the particles inside it are read, in order, from children of
that element.  Reading keeps to this: every particle that a draft, a part or a
component holds is read from an element that stands in the document.
-/

namespace XmlSchema

open Attempt

/-- The bounds that the tag of a construct gives. -/
def Role.occurs (tag : Xml.Tag) : Occurs :=
  .parse (tag.attribute? "minOccurs") (tag.attribute? "maxOccurs")

namespace Particle

mutual

/-- A particle is read from an element. -/
inductive ReadFrom : Xml.Tag → List Xml.Node → Particle → Prop
  | model {tag : Xml.Tag} {kids : List Xml.Node} {c : Compositor} {common : Common}
      {particles : List Particle} (hc : ChildClass.of tag.name = .known (.compositor c))
      (h : ReadIn kids particles) : ReadFrom tag kids (.model (Role.occurs tag) c common particles)
  | element {tag : Xml.Tag} {kids : List Xml.Node} {id : ElementId}
      (hc : ChildClass.of tag.name = .known .element) :
      ReadFrom tag kids (.element (Role.occurs tag) id)
  | any {tag : Xml.Tag} {kids : List Xml.Node} {w : Wildcard}
      (hc : ChildClass.of tag.name = .known .any) : ReadFrom tag kids (.any (Role.occurs tag) w)
  | group {tag : Xml.Tag} {kids : List Xml.Node} {r : GroupRef}
      (hc : ChildClass.of tag.name = .known .group) :
      ReadFrom tag kids (.group (Role.occurs tag) r)

/-- Particles are read, in order, from some of a list of nodes. -/
inductive ReadIn : List Xml.Node → List Particle → Prop
  | nil : ReadIn [] []
  | skip {node : Xml.Node} {nodes : List Xml.Node} {ps : List Particle} (h : ReadIn nodes ps) :
      ReadIn (node :: nodes) ps
  | take {tag : Xml.Tag} {kids nodes : List Xml.Node} {p : Particle} {ps : List Particle}
      (hp : ReadFrom tag kids p) (h : ReadIn nodes ps) :
      ReadIn (.element tag kids :: nodes) (p :: ps)

end

mutual

/-- A particle with all particles inside it. -/
def family : Particle → List Particle
  | model o c common particles => model o c common particles :: families particles
  | element o id => [element o id]
  | any o w => [any o w]
  | group o r => [group o r]

/-- Some particles with all particles inside them. -/
def families : List Particle → List Particle
  | [] => []
  | p :: rest => family p ++ families rest

end

variable {tag : Xml.Tag} {kids nodes : List Xml.Node} {p q : Particle} {ps : List Particle}

theorem ReadFrom.occurs_eq (h : ReadFrom tag kids p) : p.occurs = Role.occurs tag := by
  cases h <;> rfl

theorem ReadFrom.class_eq (h : ReadFrom tag kids p) :
    ∃ construct, ChildClass.of tag.name = .known construct := by
  cases h <;> exact ⟨_, by assumption⟩

/-- Nothing is read from a further node. -/
theorem ReadIn.pass (node : Xml.Node) : ∀ {nodes : List Xml.Node} {ps : List Particle},
    ReadIn nodes ps → ReadIn (nodes ++ [node]) ps
  | _, _, .nil => .skip .nil
  | _, _, .skip h => .skip (h.pass node)
  | _, _, .take hp h => .take hp (h.pass node)

/-- A further particle is read from a further node. -/
theorem ReadIn.snoc (hp : ReadFrom tag kids p) : ∀ {nodes : List Xml.Node} {ps : List Particle},
    ReadIn nodes ps → ReadIn (nodes ++ [.element tag kids]) (ps ++ [p])
  | _, _, .nil => .take hp .nil
  | _, _, .skip h => .skip (h.snoc hp)
  | _, _, .take hq h => .take hq (h.snoc hp)

theorem ReadIn.exists_of_mem : ∀ {nodes : List Xml.Node} {ps : List Particle}, ReadIn nodes ps →
    ∀ p ∈ ps, ∃ tag kids, .element tag kids ∈ nodes ∧ ReadFrom tag kids p
  | _, _, .nil, _, hp => by cases hp
  | _, _, .skip h, p, hp => by
      obtain ⟨tag, kids, hmem, hread⟩ := h.exists_of_mem p hp
      exact ⟨tag, kids, List.mem_cons_of_mem _ hmem, hread⟩
  | _, _, .take hq h, p, hp => by
      rcases List.mem_cons.1 hp with rfl | hp
      · exact ⟨_, _, List.mem_cons_self, hq⟩
      · obtain ⟨tag, kids, hmem, hread⟩ := h.exists_of_mem p hp
        exact ⟨tag, kids, List.mem_cons_of_mem _ hmem, hread⟩

end Particle

/-- A particle is read from an element that stands somewhere below a site. -/
def Site.HasParticle (root : Site) (p : Particle) : Prop :=
  ∃ π, root.Within π ∧ p.ReadFrom π.tag π.kids

namespace Site

variable {root π : Site}

mutual

/-- All particles inside a particle are read from elements as well. -/
theorem HasParticle.of_mem_family : ∀ {p : Particle}, root.HasParticle p → ∀ q ∈ p.family, root.HasParticle q
  | .model o c common particles, h, q, hq => by
      unfold Particle.family at hq
      rcases List.mem_cons.1 hq with rfl | hinside
      · exact h
      · obtain ⟨π, hπ, hread⟩ := h
        cases hread with
        | model hc hin =>
            refine HasParticle.of_mem_families (fun p hp => ?_) q hinside
            obtain ⟨tag, kids, hmem, hread⟩ := hin.exists_of_mem p hp
            obtain ⟨construct, hclass⟩ := hread.class_eq
            exact ⟨_, hπ.child ⟨tag, kids, hmem, hclass, rfl⟩, hread⟩
  | .element _ _, h, q, hq | .any _ _, h, q, hq | .group _ _, h, q, hq => by
      unfold Particle.family at hq
      rw [List.mem_singleton.1 hq]
      exact h

theorem HasParticle.of_mem_families : ∀ {ps : List Particle}, (∀ p ∈ ps, root.HasParticle p) →
    ∀ q ∈ Particle.families ps, root.HasParticle q
  | [], _, q, hq => by
      unfold Particle.families at hq
      cases hq
  | p :: rest, h, q, hq => by
      unfold Particle.families at hq
      rcases List.mem_append.1 hq with hq | hq
      · exact HasParticle.of_mem_family (h p List.mem_cons_self) q hq
      · exact HasParticle.of_mem_families (fun p hp => h p (List.mem_cons_of_mem _ hp)) q hq

end

end Site

/-- The particle of a content model. -/
def ContentModel.particles (m : ContentModel) : List Particle := m.content.particle.toList

/-- The particle of a type. -/
def TypeBody.particles : TypeBody → List Particle
  | simple _ => []
  | complex c => c.content.particles

/-- The outermost particles of a component. -/
def ComponentKind.particles : (kind : ComponentKind) → kind.Component → List Particle
  | .type, t => t.body.particles
  | .group, g => g.particle.toList
  | _, _ => []

theorem ComponentKind.particles_congr {kind : ComponentKind} {x y : kind.Component}
    (h : kind.unresolved y = kind.unresolved x) : kind.particles y = kind.particles x := by
  cases kind with
  | type | group => exact congrArg (ComponentKind.particles _) h
  | _ => rfl

/-- The outermost particles that a part hands over. -/
def Part.particles : Part → List Particle
  | .model m => m.particles
  | .derivation d => d.content.particle.toList
  | .particle p => p.toList
  | _ => []

namespace Draft

/-- The outermost particles that a draft holds for the component around it. -/
def particles : Draft → List Particle
  | .simpleType t => t.body.particles
  | .complexType _ _ direct model =>
      direct.particle.toList ++ model.toList.flatMap ContentModel.particles
  | .simpleContent c => c.derivation.toList.flatMap fun d => d.content.particle.toList
  | .complexContent c => c.derivation.toList.flatMap fun d => d.content.particle.toList
  | .derivation d => d.content.particle.toList
  | .group g => g.particle.toList
  | _ => []

/-- A draft that becomes a particle is read from an element, some of whose
children have been read. -/
def Fits (tag : Xml.Tag) (done : List Xml.Node) : Draft → Prop
  | .compositor o c _ particles =>
      o = Role.occurs tag ∧ ChildClass.of tag.name = .known (.compositor c) ∧
        Particle.ReadIn done particles
  | .groupRef o _ => o = Role.occurs tag ∧ ChildClass.of tag.name = .known .group
  | .any o _ => o = Role.occurs tag ∧ ChildClass.of tag.name = .known .any
  | .element o _ => o = Role.occurs tag ∧ ChildClass.of tag.name = .known .element
  | _ => True

variable {tag : Xml.Tag} {done : List Xml.Node} {d : Draft}

theorem particles_mapCommon (f : Common → Common) (d : Draft) :
    (d.mapCommon f).particles = d.particles := by
  cases d <;> rfl

theorem fits_mapCommon (f : Common → Common) : (d.mapCommon f).Fits tag done ↔ d.Fits tag done := by
  cases d <;> exact Iff.rfl

theorem particles_annotate (a : Annotation) (d : Draft) :
    (d.annotate a).particles = d.particles := by
  cases d <;> rfl

/-- Taking up a part brings no particles but those of the part. -/
theorem particles_adopt_subset (d : Draft) (p : Part) :
    (d.adopt p).particles ⊆ d.particles ++ p.particles := by
  have hcontent : ∀ c : Content,
      (c.adopt p).particle.toList ⊆ c.particle.toList ++ p.particles := by
    intro c
    cases p with
    | particle q => exact List.subset_append_right _ _
    | _ => exact List.subset_append_left _ _
  fun_cases Draft.adopt d p
  case case1 a =>
    rw [particles_annotate]
    exact List.subset_append_left _ _
  case case6 t c direct model _ _ =>
    have hdirect := hcontent direct
    simp only [particles]
    grind
  case case15 d _ _ _ => exact hcontent d.content
  all_goals first
    | exact List.subset_append_left _ _
    | simp [particles, Part.particles]

/-- A child that is passed over does not count. -/
theorem Fits.pass (h : d.Fits tag done) (node : Xml.Node) : d.Fits tag (done ++ [node]) := by
  cases d with
  | compositor => exact ⟨h.1, h.2.1, h.2.2.pass node⟩
  | _ => exact h

/-- A part is taken up with the child that it has been read from. -/
theorem Fits.adopt (h : d.Fits tag done) {t : Xml.Tag} {kids : List Xml.Node} {p : Part}
    (hp : ∀ q, p = .particle (some q) → q.ReadFrom t kids) :
    (d.adopt p).Fits tag (done ++ [.element t kids]) := by
  have hpass := h.pass (.element t kids)
  fun_cases Draft.adopt d p
  case case1 a => cases d <;> exact hpass
  case case16 => exact ⟨h.1, h.2.1, h.2.2.snoc (hp _ rfl)⟩
  all_goals exact hpass

theorem particles_owned_subset {x : (kind : ComponentKind) × kind.Component}
    (h : d.owned? = some x) : x.1.particles x.2 ⊆ d.particles := by
  cases d <;> cases h
  case complexType t c direct model =>
    cases model with
    | none => exact List.subset_append_left _ _
    | some m =>
        simp only [ComponentKind.particles, TypeBody.particles, particles, Option.getD_some, Option.toList_some,
          List.flatMap_cons, List.flatMap_nil, List.append_nil]
        exact List.subset_append_right _ _
  all_goals exact List.Subset.refl _

end Draft

namespace Role

/-- A part in which a particle is read is played by one construct alone. -/
def Suits : Role → Construct → Prop
  | .compositor c, construct => construct = .compositor c
  | .groupRef, construct => construct = .group
  | .any, construct => construct = .any
  | .element _, construct => construct = .element
  | _, _ => True

variable {cx : Context} {scope : Scope} {tag : Xml.Tag} {kids : List Xml.Node} {role : Role}
  {construct : Construct}

theorem suits_of_ofContent? (h : ofContent? construct = some role) : role.Suits construct := by
  cases construct <;> cases h <;> first | rfl | trivial

theorem suits_of_ofRedefinition? (h : ofRedefinition? construct = some role) :
    role.Suits construct := by
  cases construct <;> cases h <;> trivial

theorem suits_of_ofTopLevel? (h : ofTopLevel? construct = some role) : role.Suits construct := by
  cases construct <;> cases h <;> first | rfl | trivial

theorem suits_of_role? {d : Draft} (h : d.role? construct = some role) : role.Suits construct := by
  unfold Draft.role? at h
  split at h
  all_goals try split at h
  all_goals first
    | exact suits_of_ofContent? h
    | exact suits_of_ofRedefinition? h
    | cases h <;> first | rfl | trivial

theorem suits_of_playedBy (h : role.PlayedBy construct) : role.Suits construct := by
  rcases h with h | ⟨d, h⟩
  · exact suits_of_ofTopLevel? h
  · exact suits_of_role? h

/-- A construct begins with the bounds of its tag, and with no particles. -/
theorem fits_opening {d : Draft} (hc : ChildClass.of tag.name = .known construct)
    (hsuits : role.Suits construct) (h : role.opening cx scope tag kids = .ok (.draft d)) :
    d.Fits tag [] ∧ d.particles = [] := by
  match role, h with
  | .restriction, h | .list, h | .derivation _, h | .union, h | .constraint _, h =>
      obtain ⟨x, -, h⟩ := bind_eq_ok_iff.1 h
      cases h
      exact ⟨trivial, rfl⟩
  | .element _, h =>
      obtain ⟨x, -, h⟩ := bind_eq_ok_iff.1 h
      cases h
      exact ⟨⟨rfl, hsuits ▸ hc⟩, rfl⟩
  | .attribute _, h =>
      obtain ⟨x, -, h⟩ := bind_eq_ok_iff.1 h
      cases h
      exact ⟨trivial, rfl⟩
  | .groupRef, h =>
      simp only [opening] at h
      split at h
      · cases h
      · obtain ⟨x, -, h⟩ := bind_eq_ok_iff.1 h
        cases h
        exact ⟨⟨rfl, hsuits ▸ hc⟩, rfl⟩
  | .attributeGroupRef, h =>
      simp only [opening] at h
      split at h
      · cases h
      · obtain ⟨x, -, h⟩ := bind_eq_ok_iff.1 h
        cases h
        exact ⟨trivial, rfl⟩
  | .remark audience, h => cases audience <;> cases h
  | .compositor _, h =>
      cases h
      exact ⟨⟨rfl, hsuits ▸ hc, .nil⟩, rfl⟩
  | .any, h =>
      cases h
      exact ⟨⟨rfl, hsuits ▸ hc⟩, rfl⟩
  | .note, h | .simpleType _, h | .complexType _, h | .simpleContent, h | .complexContent, h
  | .anyAttribute, h | .group, h | .attributeGroup, h | .notationDecl, h | .selector, h
  | .field, h | .facet _, h =>
      cases h
      exact ⟨trivial, rfl⟩

/-- A construct that is read at once hands no particles over. -/
theorem particles_opening {p : Part} (h : role.opening cx scope tag kids = .ok (.part p)) :
    p.particles = [] := by
  match role, h with
  | .restriction, h | .list, h | .derivation _, h | .union, h | .constraint _, h | .element _, h
  | .attribute _, h =>
      obtain ⟨x, -, h⟩ := bind_eq_ok_iff.1 h
      cases h
  | .groupRef, h | .attributeGroupRef, h =>
      simp only [opening] at h
      split at h
      · cases h
        rfl
      · obtain ⟨x, -, h⟩ := bind_eq_ok_iff.1 h
        cases h
  | .remark audience, h =>
      cases audience <;>
        · cases h
          rfl

end Role

namespace Site

/-- All particles of a component are read from elements below a site. -/
def HasParticles (root : Site) (kind : ComponentKind) (x : kind.Component) : Prop :=
  ∀ p ∈ kind.particles x, root.HasParticle p

/-- A draft has been read from a tag and the children that are done. -/
structure Forms (root : Site) (tag : Xml.Tag) (done : List Xml.Node) (d : Draft) : Prop where
  fits : d.Fits tag done
  held : ∀ p ∈ d.particles, root.HasParticle p

/-- A part has been read from a tag with all its children. -/
structure Gives (root : Site) (tag : Xml.Tag) (kids : List Xml.Node) (p : Part) : Prop where
  held : ∀ q ∈ p.particles, root.HasParticle q
  whole : ∀ q, p = .particle (some q) → q.ReadFrom tag kids

variable {root π : Site} {tag t : Xml.Tag} {done kids : List Xml.Node} {d : Draft} {p : Part}

theorem Forms.pass (h : root.Forms tag done d) (node : Xml.Node) :
    root.Forms tag (done ++ [node]) d :=
  ⟨h.fits.pass node, h.held⟩

theorem Forms.addForeign (h : root.Forms tag done d) (content : ForeignContent) :
    root.Forms tag done (d.addForeign content) :=
  ⟨(Draft.fits_mapCommon _).2 h.fits, (Draft.particles_mapCommon _ d).symm ▸ h.held⟩

theorem Forms.of_nothing (hfits : d.Fits tag done) (h : d.particles = []) :
    root.Forms tag done d := by
  refine ⟨hfits, ?_⟩
  rw [h]
  exact List.forall_mem_nil _

theorem Forms.adopt (h : root.Forms tag done d) (hp : root.Gives t kids p) :
    root.Forms tag (done ++ [.element t kids]) (d.adopt p) := by
  refine ⟨h.fits.adopt hp.whole, fun q hq => ?_⟩
  rcases List.mem_append.1 (d.particles_adopt_subset p hq) with hq | hq
  · exact h.held q hq
  · exact hp.held q hq

/-- A part that is no particle holds particles read elsewhere. -/
theorem Gives.of_held (hheld : ∀ q ∈ p.particles, root.HasParticle q)
    (hp : ∀ q, p ≠ .particle q) : root.Gives tag kids p :=
  ⟨hheld, fun _ hq => absurd hq (hp _)⟩

theorem Gives.of_nothing (h : p.particles = []) : root.Gives tag kids p := by
  refine ⟨?_, ?_⟩
  · rw [h]
    exact List.forall_mem_nil _
  · rintro q rfl
    cases h

/-- A draft that has been read as a whole amounts to a part that has. -/
theorem Forms.toPart (h : root.Forms π.tag π.kids d) (hπ : root.Within π) (schema : Nat)
    (cs : Components) : root.Gives π.tag π.kids (d.toPart schema cs) := by
  have hparticle : ∀ q : Particle, q.ReadFrom π.tag π.kids →
      root.Gives π.tag π.kids (.particle (some q)) := by
    intro q hq
    refine ⟨fun r hr => ?_, fun r hr => ?_⟩
    · cases List.mem_singleton.1 hr
      exact ⟨π, hπ, hq⟩
    · cases hr
      exact hq
  cases d with
  | compositor o c common particles =>
      obtain ⟨rfl, hc, hin⟩ := h.fits
      exact hparticle _ (.model hc hin)
  | groupRef o r =>
      obtain ⟨rfl, hc⟩ := h.fits
      exact hparticle _ (.group hc)
  | any o w =>
      obtain ⟨rfl, hc⟩ := h.fits
      exact hparticle _ (.any hc)
  | element o e =>
      obtain ⟨rfl, hc⟩ := h.fits
      cases he : e.topLevel with
      | true => exact .of_nothing (by simp [Draft.toPart, he, Part.particles])
      | false =>
          simp only [Draft.toPart, he, Bool.false_eq_true, if_false]
          exact hparticle _ (.element hc)
  | «attribute» a =>
      exact .of_nothing (by cases ha : a.topLevel <;> simp [Draft.toPart, ha, Part.particles])
  | simpleContent c =>
      refine .of_held (fun q hq => h.held q ?_) fun q => Part.noConfusion
      cases hd : c.derivation <;>
        simp_all [Draft.toPart, Part.particles, Draft.particles, ContentModel.particles,
          ContentModel.content]
  | complexContent c =>
      refine .of_held (fun q hq => h.held q ?_) fun q => Part.noConfusion
      cases hd : c.derivation <;>
        simp_all [Draft.toPart, Part.particles, Draft.particles, ContentModel.particles,
          ContentModel.content]
  | derivation d => exact .of_held h.held fun q => Part.noConfusion
  | _ => exact .of_nothing rfl

end Site

/-- Particles are traced to the elements they are read from. -/
def Tracing.particles (root : Site) : Tracing root where
  stems := root.HasParticles
  forms π done d := root.Forms π.tag done d
  gives π p := root.Gives π.tag π.kids p
  forms_reference _ := .of_nothing trivial rfl
  forms_opening hc hrole ho :=
    have hd := Role.fits_opening hc (Role.suits_of_playedBy hrole) ho
    .of_nothing hd.1 hd.2
  gives_opening ho := .of_nothing (Role.particles_opening ho)
  pass node hd := hd.pass node
  foreign_attribute _ hd := hd.addForeign _
  foreign_element _ hd := hd.addForeign _
  adopt hd hp := hd.adopt hp
  stems_owned _ hd hx p hp := hd.held p (Draft.particles_owned_subset hx hp)
  gives_toPart hπ hd := hd.toPart hπ _ _

end XmlSchema
