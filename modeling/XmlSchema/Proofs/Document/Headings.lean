import XmlSchema.Proofs.Collection.Seclusion
import XmlSchema.Proofs.Component.Ledger
import XmlSchema.Proofs.Document.Control
import XmlSchema.Proofs.Document.Tracing

/-!
# The headings of components

A component has a heading: what the attributes of its own construct say.  The
children of the construct never change it, so that a component has the heading
with which a site of the document is opened.
-/

namespace XmlSchema

open Attempt

/-- What a construct says by its attributes alone, whatever it is. -/
def Common.heading (c : Common) : Common := { xmlId := c.xmlId }

/-- A type without its content. -/
def TypeBody.heading : TypeBody → TypeBody
  | simple _ => .simple .unspecified
  | complex c => .complex { c with content := .direct {} }

namespace ComponentKind

/-- A component without all that its children have given it, and without the
type that it names, for which a child may stand in. -/
def heading : (kind : ComponentKind) → kind.Component → kind.Component
  | type, t => { t with body := t.body.heading, common := t.common.heading }
  | element, e =>
      { e with type := .absent, constraints := [], common := e.common.heading }
  | «attribute», a => { a with type := .absent, common := a.common.heading }
  | group, g => { g with particle := none, common := g.common.heading }
  | attributeGroup, g =>
      { g with attributes := [], anyAttribute := none, common := g.common.heading }
  | notationDecl, n => { n with common := n.common.heading }

/-- What a component shares with all constructs. -/
def common : (kind : ComponentKind) → kind.Component → Common
  | type, t => t.common
  | element, e => e.common
  | «attribute», a => a.common
  | group, g => g.common
  | attributeGroup, g => g.common
  | notationDecl, n => n.common

variable {kind : ComponentKind} {x y : kind.Component}

theorem heading_congr (h : kind.unresolved y = kind.unresolved x) :
    kind.heading y = kind.heading x := by
  have hheading : ∀ z : kind.Component, kind.heading (kind.unresolved z) = kind.heading z := by
    intro z
    cases kind <;> rfl
  rw [← hheading y, h, hheading]

theorem common_congr (h : kind.unresolved y = kind.unresolved x) :
    kind.common y = kind.common x := by
  have hcommon : ∀ z : kind.Component, kind.common (kind.unresolved z) = kind.common z := by
    intro z
    cases kind <;> rfl
  rw [← hcommon y, h, hcommon]

/-- The set of methods that a component forbids, if components of its sort can
forbid any: a simple type has nothing to say on what stands in for it. -/
def control? : (kind : ComponentKind) → kind.Component → Control → Option DerivationSet
  | element, e, .block => some e.block
  | element, e, .final => some e.finalSet
  | type, t, .final => some t.finalSet
  | type, t, .block =>
      match t.body with
      | .simple _ => none
      | .complex c => some c.block
  | _, _, _ => none

theorem control?_heading (kind : ComponentKind) (x : kind.Component) (control : Control) :
    kind.control? (kind.heading x) control = kind.control? x control := by
  cases kind with
  | type =>
      cases control with
      | final => rfl
      | block =>
          unfold control? heading
          dsimp only
          cases t : x.body <;> rfl
  | _ => cases control <;> rfl

end ComponentKind

namespace Draft

/-- The heading of the component that a draft becomes. -/
def heading? (d : Draft) : Option AnyComponent := d.owned?.map fun x => ⟨x.1, x.1.heading x.2⟩

/-- The foreign content of the component that a draft becomes. -/
def foreign (d : Draft) : List ForeignContent :=
  d.owned?.toList.flatMap fun x => (x.1.common x.2).foreign

theorem heading?_addForeign (content : ForeignContent) (d : Draft) :
    (d.addForeign content).heading? = d.heading? := by
  cases d <;> rfl

theorem foreign_addForeign_subset (content : ForeignContent) (d : Draft) :
    (d.addForeign content).foreign ⊆ d.foreign ++ [content] := by
  cases d <;> simp [foreign, owned?, addForeign, mapCommon, ComponentKind.common]

theorem heading?_annotate (a : Annotation) (d : Draft) : (d.annotate a).heading? = d.heading? := by
  cases d <;> rfl

theorem foreign_annotate (a : Annotation) (d : Draft) : (d.annotate a).foreign = d.foreign := by
  cases d <;> rfl

/-- A type that is read as a simple one is one. -/
def Simple : Draft → Prop
  | .simpleType t => ∃ s, t.body = .simple s
  | _ => True

theorem Simple.addForeign {d : Draft} (h : d.Simple) (content : ForeignContent) :
    (d.addForeign content).Simple := by
  cases d <;> exact h

theorem Simple.adopt {d : Draft} (h : d.Simple) (p : Part) : (d.adopt p).Simple := by
  fun_cases Draft.adopt d p
  case case1 a => cases d <;> exact h
  case case4 t s => exact ⟨s, rfl⟩
  all_goals exact h

theorem heading?_adopt {d : Draft} (h : d.Simple) (p : Part) :
    (d.adopt p).heading? = d.heading? := by
  fun_cases Draft.adopt d p
  case case1 a => exact heading?_annotate a d
  case case4 t s =>
    obtain ⟨s', hbody⟩ := h
    simp only [heading?, owned?, Option.map_some, ComponentKind.heading, hbody, TypeBody.heading]
  all_goals rfl

theorem foreign_adopt (d : Draft) (p : Part) : (d.adopt p).foreign = d.foreign := by
  fun_cases Draft.adopt d p
  case case1 a => exact foreign_annotate a d
  all_goals rfl

/-- What a draft is when its construct begins. -/
structure Fresh (d : Draft) (tag : Xml.Tag) : Prop where
  simple : d.Simple
  foreign : d.foreign = []
  control : ∀ x, d.owned? = some x → ∀ control set, x.1.control? x.2 control = some set →
    set = derivationSet tag control.label

theorem Fresh.of_none {d : Draft} {tag : Xml.Tag} (hsimple : d.Simple) (h : d.owned? = none) :
    d.Fresh tag := by
  refine ⟨hsimple, ?_, fun x hx => ?_⟩
  · unfold Draft.foreign
    rw [h]
    rfl
  · rw [h] at hx
    cases hx

theorem Fresh.of_owned {d : Draft} {tag : Xml.Tag} {x : AnyComponent} (hsimple : d.Simple)
    (hx : d.owned? = some x) (hforeign : (x.1.common x.2).foreign = [])
    (hcontrol : ∀ control set, x.1.control? x.2 control = some set →
      set = derivationSet tag control.label) : d.Fresh tag := by
  refine ⟨hsimple, ?_, fun y hy => ?_⟩
  · unfold Draft.foreign
    rw [hx]
    simpa using hforeign
  · cases Option.some.inj (hx.symm.trans hy)
    exact hcontrol

theorem Fresh.of_uncontrolled {d : Draft} {tag : Xml.Tag} {x : AnyComponent} (hsimple : d.Simple)
    (hx : d.owned? = some x) (hforeign : (x.1.common x.2).foreign = [])
    (hcontrol : ∀ control, x.1.control? x.2 control = none) : d.Fresh tag := by
  refine .of_owned hsimple hx hforeign fun control set hset => ?_
  cases (hcontrol control).symm.trans hset

end Draft

namespace Role

variable {cx : Context} {scope : Scope} {tag : Xml.Tag} {kids : List Xml.Node} {role : Role}
  {d : Draft}

/-- A construct begins without foreign content, as what it is read as, and with
the sets that its tag gives. -/
theorem fresh_opening (h : role.opening cx scope tag kids = .ok (.draft d)) : d.Fresh tag := by
  match role, h with
  | .restriction, h | .list, h | .derivation _, h | .union, h | .constraint _, h =>
      obtain ⟨x, -, h⟩ := bind_eq_ok_iff.1 h
      cases h
      exact .of_none trivial rfl
  | .element topLevel, h =>
      obtain ⟨e, he, h⟩ := bind_eq_ok_iff.1 h
      cases h
      obtain ⟨group, -, he⟩ := bind_eq_ok_iff.1 he
      obtain ⟨naming, -, he⟩ := bind_eq_ok_iff.1 he
      obtain ⟨slot, -, he⟩ := bind_eq_ok_iff.1 he
      cases he
      refine .of_owned trivial rfl rfl fun control set hset => ?_
      cases control <;> exact (Option.some.inj hset).symm
  | .attribute topLevel, h =>
      obtain ⟨a, ha, h⟩ := bind_eq_ok_iff.1 h
      cases h
      obtain ⟨naming, -, ha⟩ := bind_eq_ok_iff.1 ha
      obtain ⟨slot, -, ha⟩ := bind_eq_ok_iff.1 ha
      cases ha
      exact .of_uncontrolled trivial rfl rfl fun _ => rfl
  | .groupRef, h | .attributeGroupRef, h =>
      simp only [opening] at h
      split at h
      · cases h
      · obtain ⟨x, -, h⟩ := bind_eq_ok_iff.1 h
        cases h
        exact .of_none trivial rfl
  | .remark audience, h => cases audience <;> cases h
  | .simpleType _, h =>
      cases h
      refine .of_owned ⟨_, rfl⟩ rfl rfl fun control set hset => ?_
      cases control with
      | block => cases hset
      | final => exact (Option.some.inj hset).symm
  | .complexType _, h =>
      cases h
      refine .of_owned trivial rfl rfl fun control set hset => ?_
      cases control <;> exact (Option.some.inj hset).symm
  | .group, h | .attributeGroup, h | .notationDecl, h =>
      cases h
      exact .of_uncontrolled trivial rfl rfl fun _ => rfl
  | .note, h | .simpleContent, h | .complexContent, h | .compositor _, h | .any, h
  | .anyAttribute, h | .selector, h | .field, h | .facet _, h =>
      cases h
      exact .of_none trivial rfl

end Role

namespace Site

/-- A construct at a site begins with a heading. -/
def Opens (π : Site) (y : AnyComponent) : Prop :=
  ∃ (cx : Context) (scope : Scope) (construct : Construct) (role : Role) (d : Draft),
    ChildClass.of π.tag.name = .known construct ∧ role.PlayedBy construct ∧
      role.opening cx scope π.tag π.kids = .ok (.draft d) ∧ d.heading? = some y

/-- A component is declared or defined at a site: it has the heading of the
site.  All its foreign content is foreign, if that of the tag is. -/
structure Declares (π : Site) (kind : ComponentKind) (x : kind.Component) : Prop where
  opens : π.Opens ⟨kind, kind.heading x⟩
  foreign : π.tag.Proper → ∀ content ∈ (kind.common x).foreign, content.Outside

/-- A draft has the heading of a site. -/
structure Drafts (π : Site) (d : Draft) : Prop where
  simple : d.Simple
  opens : ∀ y, d.heading? = some y → π.Opens y
  foreign : π.tag.Proper → ∀ content ∈ d.foreign, content.Outside

/-- Something at a site or further inside declares or defines a component. -/
def Declared (root : Site) (kind : ComponentKind) (x : kind.Component) : Prop :=
  ∃ π, root.Within π ∧ π.Declares kind x

variable {root π : Site} {d : Draft} {kind : ComponentKind} {x y : kind.Component}

theorem Declares.congr (h : π.Declares kind x) (hyx : kind.unresolved y = kind.unresolved x) :
    π.Declares kind y := by
  refine ⟨?_, ?_⟩
  · rw [ComponentKind.heading_congr hyx]
    exact h.opens
  · rw [ComponentKind.common_congr hyx]
    exact h.foreign

/-- The sets of a component are those that its tag gives. -/
theorem Declares.control_eq (h : π.Declares kind x) {control : Control} {set : DerivationSet}
    (hset : kind.control? x control = some set) : set = derivationSet π.tag control.label := by
  obtain ⟨cx, scope, construct, role, d, -, -, ho, hd⟩ := h.opens
  obtain ⟨y, hy, hheading⟩ := Option.map_eq_some_iff.1 hd
  have hsame := congrArg (fun z : AnyComponent => z.1.control? z.2 control) hheading
  simp only [ComponentKind.control?_heading] at hsame
  exact (Role.fresh_opening ho).control y hy control set (hsame.trans hset)

theorem Drafts.of_plain (hsimple : d.Simple) (hopens : ∀ y, d.heading? = some y → π.Opens y)
    (hforeign : d.foreign = []) : π.Drafts d := by
  refine ⟨hsimple, hopens, fun _ => ?_⟩
  rw [hforeign]
  exact List.forall_mem_nil _

theorem Drafts.addForeign (h : π.Drafts d) {content : ForeignContent}
    (hc : π.tag.Proper → content.Outside) : π.Drafts (d.addForeign content) := by
  refine ⟨h.simple.addForeign content, ?_, fun ht other hother => ?_⟩
  · rw [d.heading?_addForeign content]
    exact h.opens
  · rcases List.mem_append.1 (d.foreign_addForeign_subset content hother) with hother | hother
    · exact h.foreign ht other hother
    · rw [List.mem_singleton.1 hother]
      exact hc ht

theorem Drafts.adopt (h : π.Drafts d) (p : Part) : π.Drafts (d.adopt p) := by
  refine ⟨h.simple.adopt p, ?_, ?_⟩
  · rw [Draft.heading?_adopt h.simple]
    exact h.opens
  · rw [d.foreign_adopt]
    exact h.foreign

theorem Drafts.owned (h : π.Drafts d) {x : AnyComponent} (hx : d.owned? = some x) :
    π.Declares x.1 x.2 := by
  refine ⟨h.opens _ ?_, fun ht content hcontent => h.foreign ht content ?_⟩
  · unfold Draft.heading?
    rw [hx]
    rfl
  · unfold Draft.foreign
    rw [hx]
    simpa using hcontent

end Site

theorem Reader.outside_of_class {tag : Xml.Tag} {kids : List Xml.Node}
    (h : ChildClass.of tag.name = .foreign) : (foreignElement tag kids).Outside := h

/-- Components are traced to what declares or defines them. -/
def Tracing.headings (root : Site) : Tracing root where
  stems := root.Declared
  forms π _ d := π.Drafts d
  gives _ _ := True
  forms_reference _ := .of_plain trivial (fun _ hy => by cases hy) rfl
  forms_opening hc hrole ho :=
    have hfresh := Role.fresh_opening ho
    .of_plain hfresh.simple (fun _ hy => ⟨_, _, _, _, _, hc, hrole, ho, hy⟩) hfresh.foreign
  gives_opening _ := trivial
  pass _ hd := hd
  foreign_attribute hcontent hd :=
    hd.addForeign fun ht => Reader.outside_of_attributes ht hcontent
  foreign_element hc hd := hd.addForeign fun _ => Reader.outside_of_class hc
  adopt hd _ := hd.adopt _
  stems_owned hπ hd hx := ⟨_, hπ, hd.owned hx⟩
  gives_toPart _ _ := trivial

end XmlSchema
