import Mathlib.Data.List.Forall2
import Mathlib.Tactic.Choose
import XmlSchema.Proofs.Component.Parts
import XmlSchema.Proofs.Document.Site

/-!
# What is recorded of a site

The names that a component or a part of one records are those that the tokens
of its site stand for, and whatever it holds has a site directly inside its
own.  A placement gives every component of a schema its site.
-/

namespace XmlSchema

/-- The names that are recorded, by the attribute that refers to them. -/
abbrev References := List (String × List QName)

/-- The names that a slot records. -/
def TypeSlot.references : TypeSlot → References
  | absent => [("type", [])]
  | named name _ => [("type", [name])]
  | anonymous _ => []

/-- The names that a declaration records for its reference and its type. -/
def declaredReferences (topLevel : Bool) (ref : Option QName) (type : TypeSlot) : References :=
  (if topLevel then [] else [("ref", ref.toList)]) ++ type.references

/-- The names that a component records. -/
def ComponentKind.references : (kind : ComponentKind) → kind.Component → References
  | .element, e =>
      ("substitutionGroup", e.substitutionGroup.toList) ::
        declaredReferences e.topLevel e.ref e.type
  | .attribute, a => declaredReferences a.topLevel a.ref a.type
  | _, _ => []

/-- The names that a variety records. -/
def SimpleType.references : SimpleType → References
  | restriction r => [("base", r.base.toList)]
  | list l => [("itemType", l.itemTypeName.toList)]
  | union u => [("memberTypes", u.memberNames)]
  | _ => []

/-- The names that an identity constraint records. -/
def ConstraintKind.references : ConstraintKind → References
  | keyref refer => [("refer", [refer])]
  | _ => []

/-- The names that a part records, if it is no component. -/
def Part.references : Part → References
  | .variety t => t.references
  | .derivation d => [("base", d.base.toList)]
  | .particle (some (.group _ r)) => [("ref", [r.target])]
  | .attributeItem (.group r) => [("ref", [r.target])]
  | .constraint c => c.kind.references
  | _ => []

/-- What a content holds. -/
def Content.held (c : Content) : List Part :=
  c.particle.toList.map (fun p => .particle (some p)) ++ c.attributes.map .attributeItem

/-- What a type holds. -/
def TypeBody.held : TypeBody → List Part
  | simple .unspecified => []
  | simple (.builtin _) => []
  | simple t => [.variety t]
  | complex ⟨_, _, _, .direct c, _⟩ => c.held
  | complex c => [.model c.content]

/-- What a component holds. -/
def ComponentKind.held : (kind : ComponentKind) → kind.Component → List Part
  | .element, e => (typeRefs e.type.inline).map .component ++ e.constraints.map .constraint
  | .attribute, a => (typeRefs a.type.inline).map .component
  | .type, t => t.body.held
  | .group, g => g.particle.toList.map fun p => .particle (some p)
  | .attributeGroup, g => g.attributes.map .attributeItem
  | .notationDecl, _ => []

/-- What a part holds, if it is no component. -/
def Part.held : Part → List Part
  | .external e => e.redefined.map .component
  | .variety t => t.parts.map .component
  | .model m => m.derivation?.toList.map .derivation
  | .derivation d => (typeRefs d.simpleType.toList).map .component ++ d.content.held
  | .particle (some (.model _ _ _ particles)) => particles.map fun p => .particle (some p)
  | _ => []

/-- The component that a part is. -/
def Part.component? : Part → Option ComponentRef
  | .component ref => some ref
  | .particle (some (.element _ id)) => some ⟨.element, id⟩
  | .attributeItem (.attribute id) => some ⟨.attribute, id⟩
  | _ => none

/-- The constructs that declare or define components of some kind. -/
def ComponentKind.constructs : ComponentKind → List Construct
  | element => [.element]
  | «attribute» => [.attribute]
  | type => [.simpleType, .complexType]
  | group => [.group]
  | attributeGroup => [.attributeGroup]
  | notationDecl => [.notationDecl]

/-- A part that is read as a whole: the content of a complex type that has no
construct of its own never is. -/
def Part.Whole (p : Part) : Prop := ∀ c, p ≠ .model (.direct c)

section References

theorem declaredReferences_anonymous_subset (topLevel : Bool) (ref : Option QName)
    (slot : TypeSlot) (id : TypeId) :
    declaredReferences topLevel ref (.anonymous id) ⊆ declaredReferences topLevel ref slot := by
  intro entry h
  exact List.mem_append_left _ ((List.mem_append.1 h).resolve_right List.not_mem_nil)

theorem Content.held_adopt_subset (c : Content) (p : Part) :
    (c.adopt p).held ⊆ c.held ++ [p] := by
  intro q hq
  cases p with
  | particle p =>
      cases p <;> simp only [adopt, Content.held, List.mem_append] at hq ⊢ <;> grind
  | attributeItem i =>
      simp only [adopt, Content.held, List.map_append, List.map_cons, List.map_nil,
        List.mem_append] at hq ⊢
      grind
  | _ => exact List.mem_append_left _ hq

theorem TypeSlot.references_unresolved (slot : TypeSlot) :
    slot.unresolved.references = slot.references := by
  cases slot <;> rfl

namespace ComponentKind

variable {kind : ComponentKind} {x y : kind.Component}

theorem references_unresolved (kind : ComponentKind) (x : kind.Component) :
    kind.references (kind.unresolved x) = kind.references x := by
  cases kind with
  | element =>
      simp only [references, unresolved, declaredReferences, TypeSlot.references_unresolved]
      rfl
  | «attribute» =>
      simp only [references, unresolved, declaredReferences, TypeSlot.references_unresolved]
      rfl
  | _ => rfl

theorem held_unresolved (kind : ComponentKind) (x : kind.Component) :
    kind.held (kind.unresolved x) = kind.held x := by
  cases kind with
  | element =>
      simp only [held, unresolved, TypeSlot.inline_unresolved]
  | «attribute» =>
      simp only [held, unresolved, TypeSlot.inline_unresolved]
  | _ => rfl

/-- Finding the type of a declaration changes nothing that it records. -/
theorem references_congr (h : kind.unresolved y = kind.unresolved x) :
    kind.references y = kind.references x := by
  rw [← references_unresolved, h, references_unresolved]

theorem held_congr (h : kind.unresolved y = kind.unresolved x) : kind.held y = kind.held x := by
  rw [← held_unresolved, h, held_unresolved]

end ComponentKind

end References

namespace Draft

/-- The names that a draft would record if it were closed. -/
def references (d : Draft) : References :=
  match d.owned? with
  | some x => x.1.references x.2
  | none => (d.toPart 0 {}).references

/-- What a draft would hold if it were closed. -/
def held (d : Draft) : List Part :=
  match d.owned? with
  | some x => x.1.held x.2
  | none => (d.toPart 0 {}).held

/-- The kind of component that a draft becomes, and its name. -/
def becomes? (d : Draft) : Option (ComponentKind × Option QName) :=
  d.owned?.map fun x => (x.1, x.1.nameOf x.2)

theorem references_mapCommon (f : Common → Common) (d : Draft) :
    (d.mapCommon f).references = d.references := by
  cases d <;> rfl

theorem held_mapCommon (f : Common → Common) (d : Draft) : (d.mapCommon f).held = d.held := by
  cases d <;> rfl

theorem becomes?_mapCommon (f : Common → Common) (d : Draft) :
    (d.mapCommon f).becomes? = d.becomes? := by
  cases d <;> rfl

theorem references_annotate (a : Annotation) (d : Draft) :
    (d.annotate a).references = d.references := by
  cases d <;> rfl

theorem held_annotate (a : Annotation) (d : Draft) : (d.annotate a).held = d.held := by
  cases d <;> rfl

/-- Taking up a part changes neither the kind nor the name of a component. -/
theorem becomes?_adopt (d : Draft) (p : Part) : (d.adopt p).becomes? = d.becomes? := by
  fun_cases Draft.adopt d p
  case case1 a => cases d <;> rfl
  all_goals rfl

/-- Taking up a part records no names: a type in place takes the place of a
named one. -/
theorem references_adopt_subset (d : Draft) (p : Part) :
    (d.adopt p).references ⊆ d.references := by
  fun_cases Draft.adopt d p
  case case1 a =>
    rw [references_annotate]
    exact List.Subset.refl _
  case case17 o e id =>
    exact List.cons_subset_cons _ (declaredReferences_anonymous_subset _ _ _ _)
  case case19 a id => exact declaredReferences_anonymous_subset _ _ _ _
  all_goals exact List.Subset.refl _

/-- Nothing is held but what has been taken up. -/
theorem held_adopt_subset (d : Draft) {p : Part} (hp : p.Whole) :
    (d.adopt p).held ⊆ d.held ++ [p] := by
  fun_cases Draft.adopt d p
  case case1 a =>
    rw [held_annotate]
    exact List.subset_append_left _ _
  case case4 t v => cases v <;> simp [held, owned?, ComponentKind.held, TypeBody.held]
  case case5 t c direct model m =>
    cases m with
    | direct content => exact absurd rfl (hp content)
    | _ => simp [held, owned?, ComponentKind.held, TypeBody.held]
  case case6 t c direct model _ _ =>
    cases model with
    | none => exact Content.held_adopt_subset direct p
    | some m => exact List.subset_append_left _ _
  case case15 d _ _ _ =>
    have hcontent := Content.held_adopt_subset d.content p
    simp only [held, owned?, toPart, Part.held]
    grind
  all_goals try exact List.subset_append_left _ _
  all_goals
    intro q hq
    simp [held, owned?, toPart, Part.held, ComponentKind.held, SimpleType.parts, typeRefs,
      TypeSlot.inline, ContentModel.derivation?] at hq ⊢
    grind

theorem whole_toPart (schema : Nat) (cs : Components) (d : Draft) : (d.toPart schema cs).Whole := by
  intro c h
  cases d with
  | element o e => cases he : e.topLevel <;> simp [toPart, he] at h
  | «attribute» a => cases ha : a.topLevel <;> simp [toPart, ha] at h
  | _ => cases h

/-- What a draft that is no component amounts to records what it does, and a
component is referred to. -/
theorem references_toPart (schema : Nat) (cs : Components) (d : Draft) :
    (d.toPart schema cs).references ⊆ d.references := by
  cases d with
  | element o e => cases he : e.topLevel <;> simp [toPart, he, Part.references]
  | «attribute» a => cases ha : a.topLevel <;> simp [toPart, ha, Part.references]
  | _ => exact List.Subset.refl _

theorem held_toPart (schema : Nat) (cs : Components) (d : Draft) :
    (d.toPart schema cs).held ⊆ d.held := by
  cases d with
  | element o e => cases he : e.topLevel <;> simp [toPart, he, Part.held]
  | «attribute» a => cases ha : a.topLevel <;> simp [toPart, ha, Part.held]
  | _ => first | exact List.Subset.refl _ | exact List.nil_subset _

theorem component?_toPart (schema : Nat) (cs : Components) (d : Draft) :
    (d.toPart schema cs).component? =
      d.owned?.map fun x => ⟨x.1, schema, cs.count x.1⟩ := by
  cases d with
  | element o e => cases he : e.topLevel <;> simp [toPart, he, Part.component?, owned?]
  | «attribute» a => cases ha : a.topLevel <;> simp [toPart, ha, Part.component?, owned?]
  | _ => rfl

end Draft

/-- The sites of the components of a schema, by kind, in the order of the
components. -/
structure Placement where
  schema : Nat
  sites : ComponentKind → List Site := fun _ => []

namespace Placement

/-- The site of a component. -/
def site? (places : Placement) (ref : ComponentRef) : Option Site :=
  if ref.id.schema = places.schema then (places.sites ref.kind)[ref.id.index]? else none

/-- Every component that has a site keeps it. -/
structure Extends (places later : Placement) : Prop where
  schema_eq : later.schema = places.schema
  sites : ∀ kind, places.sites kind <+: later.sites kind

/-- Give the next component of a kind its site. -/
def push (places : Placement) (kind : ComponentKind) (π : Site) : Placement where
  schema := places.schema
  sites other := if other = kind then places.sites other ++ [π] else places.sites other

variable {places middle later : Placement}

theorem Extends.refl (places : Placement) : places.Extends places :=
  ⟨rfl, fun _ => List.prefix_refl _⟩

theorem Extends.trans (h : places.Extends middle) (h' : middle.Extends later) :
    places.Extends later :=
  ⟨h'.schema_eq.trans h.schema_eq, fun kind => (h.sites kind).trans (h'.sites kind)⟩

theorem extends_push (places : Placement) (kind : ComponentKind) (π : Site) :
    places.Extends (places.push kind π) := by
  refine ⟨rfl, fun other => ?_⟩
  unfold push
  dsimp only
  split
  · exact List.prefix_append _ _
  · exact List.prefix_refl _

theorem Extends.site? (h : places.Extends later) {ref : ComponentRef} {π : Site}
    (hsite : places.site? ref = some π) : later.site? ref = some π := by
  unfold Placement.site? at hsite ⊢
  rw [h.schema_eq]
  split
  · rename_i hschema
    rw [if_pos hschema] at hsite
    obtain ⟨more, hmore⟩ := h.sites ref.kind
    rw [← hmore, List.getElem?_append_left (List.getElem?_eq_some_iff.1 hsite).1, hsite]
  · rename_i hschema
    rw [if_neg hschema] at hsite
    cases hsite

end Placement

namespace Site

/-- The names recorded for an attribute are those that its tokens stand for. -/
def Says (π : Site) (st : Setting) (label : String) (names : List QName) : Prop :=
  List.Forall₂ (fun token name => π.denotes? st token = some name) (π.tokens label) names

/-- A site declares or defines a component of some kind under the name that its
tag gives, if it gives one. -/
structure Bears (π : Site) (kind : ComponentKind) (name : Option QName) : Prop where
  construct : ∃ construct ∈ kind.constructs, ChildClass.of π.tag.name = .known construct
  name : ∀ n, name = some n → (π.tag.attribute? "name").map Text.trim = some n.localName

end Site

/-- A part is recorded at a site: its names are those of the site, a component
has been given the site, and what the part holds is recorded directly inside. -/
inductive Stands (st : Setting) (places : Placement) : Site → Part → Prop
  | intro {π : Site} {p : Part} (names : ∀ entry ∈ p.references, π.Says st entry.1 entry.2)
      (placed : ∀ ref, p.component? = some ref → places.site? ref = some π)
      (inside : Part → Site)
      (holds : ∀ q ∈ p.held, ∃ construct, π.Holds construct (inside q))
      (held : ∀ q ∈ p.held, Stands st places (inside q) q) : Stands st places π p

/-- A draft becomes what its site declares or defines. -/
def Site.Frames (π : Site) (d : Draft) : Prop :=
  ∀ kind name, d.becomes? = some (kind, name) → π.Bears kind name

/-- Names and parts are recorded at a site. -/
structure Reads (st : Setting) (places : Placement) (π : Site) (refs : References)
    (held : List Part) : Prop where
  names : ∀ entry ∈ refs, π.Says st entry.1 entry.2
  held : ∀ q ∈ held, ∃ construct inner, π.Holds construct inner ∧ Stands st places inner q

/-- A draft is read at a site: what it has recorded so far reads there, and it
becomes what the site bears. -/
structure Drafted (st : Setting) (places : Placement) (π : Site) (d : Draft) : Prop where
  reads : Reads st places π d.references d.held
  frames : π.Frames d

/-- Two drafts record the same and become the same. -/
structure Draft.SameRecord (d d' : Draft) : Prop where
  references : d'.references = d.references
  held : d'.held = d.held
  becomes : d'.becomes? = d.becomes?

section Reads

variable {st : Setting} {places later : Placement} {π inner : Site} {construct : Construct}
  {refs : References} {held : List Part} {p : Part}

theorem Stands.extend (h : Stands st places π p) (hext : places.Extends later) :
    Stands st later π p := by
  induction h with
  | intro names placed inside holds _ ih =>
      exact .intro names (fun ref href => hext.site? (placed ref href)) inside holds ih

theorem Reads.extend (h : Reads st places π refs held) (hext : places.Extends later) :
    Reads st later π refs held := by
  refine ⟨h.names, fun q hq => ?_⟩
  obtain ⟨construct, inner, hinner, hstands⟩ := h.held q hq
  exact ⟨construct, inner, hinner, hstands.extend hext⟩

theorem Reads.mono (h : Reads st places π refs held) {fewer : References} {less : List Part}
    (hrefs : fewer ⊆ refs) (hheld : less ⊆ held) : Reads st places π fewer less :=
  ⟨fun entry hentry => h.names entry (hrefs hentry), fun q hq => h.held q (hheld hq)⟩

/-- A part stands where what it records and holds is read. -/
theorem Reads.stands (h : Reads st places π p.references p.held)
    (hplaced : ∀ ref, p.component? = some ref → places.site? ref = some π) :
    Stands st places π p := by
  have hinside : ∀ q, ∃ inner, q ∈ p.held →
      (∃ construct, π.Holds construct inner) ∧ Stands st places inner q := by
    intro q
    by_cases hq : q ∈ p.held
    · obtain ⟨construct, inner, hinner, hstands⟩ := h.held q hq
      exact ⟨inner, fun _ => ⟨⟨construct, hinner⟩, hstands⟩⟩
    · exact ⟨π, fun hmem => absurd hmem hq⟩
  choose inside hinside using hinside
  exact .intro h.names hplaced inside (fun q hq => (hinside q hq).1)
    fun q hq => (hinside q hq).2

/-- A part that holds nothing and records no names stands anywhere. -/
theorem Stands.of_nothing (hrefs : p.references = []) (hheld : p.held = [])
    (hcomponent : p.component? = none) : Stands st places π p := by
  refine Reads.stands ⟨?_, ?_⟩ fun ref href => ?_
  · rw [hrefs]
    exact List.forall_mem_nil _
  · rw [hheld]
    exact List.forall_mem_nil _
  · rw [hcomponent] at href
    cases href

namespace Draft.SameRecord

theorem refl (d : Draft) : d.SameRecord d := ⟨rfl, rfl, rfl⟩

theorem trans {d d' d'' : Draft} (h : d.SameRecord d') (h' : d'.SameRecord d'') :
    d.SameRecord d'' :=
  ⟨h'.references.trans h.references, h'.held.trans h.held, h'.becomes.trans h.becomes⟩

theorem mapCommon (f : Common → Common) (d : Draft) : d.SameRecord (d.mapCommon f) :=
  ⟨d.references_mapCommon f, d.held_mapCommon f, d.becomes?_mapCommon f⟩

end Draft.SameRecord

namespace Drafted

variable {d d' : Draft}

/-- A draft that holds nothing yet. -/
theorem of_empty (hnames : ∀ entry ∈ d.references, π.Says st entry.1 entry.2) (hheld : d.held = [])
    (hframes : π.Frames d) : Drafted st places π d := by
  refine ⟨⟨hnames, ?_⟩, hframes⟩
  rw [hheld]
  exact List.forall_mem_nil _

theorem congr (h : Drafted st places π d) (hd : d.SameRecord d') : Drafted st places π d' := by
  refine ⟨?_, fun kind name hbecomes => h.frames kind name (hd.becomes ▸ hbecomes)⟩
  rw [hd.references, hd.held]
  exact h.reads

theorem extend (h : Drafted st places π d) (hext : places.Extends later) :
    Drafted st later π d :=
  ⟨h.reads.extend hext, h.frames⟩

/-- A draft that takes up a part is read as before, with the part inside. -/
theorem adopt (h : Drafted st places π d) (hinner : π.Holds construct inner)
    (hp : Stands st places inner p) (hwhole : p.Whole) : Drafted st places π (d.adopt p) := by
  refine ⟨⟨fun entry hentry => h.reads.names entry (d.references_adopt_subset p hentry),
    fun q hq => ?_⟩, fun kind name hbecomes => h.frames kind name (d.becomes?_adopt p ▸ hbecomes)⟩
  rcases List.mem_append.1 (d.held_adopt_subset hwhole hq) with hq | hq
  · exact h.reads.held q hq
  · rw [List.mem_singleton.1 hq]
    exact ⟨construct, inner, hinner, hp⟩

end Drafted

end Reads

end XmlSchema
