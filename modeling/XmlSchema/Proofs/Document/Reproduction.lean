import XmlSchema.Proofs.Component.Parts
import XmlSchema.Proofs.Document.Copying

/-!
# Every construct is read as a copy of itself

What is written for a component is read as a copy of the component, if its names
are such as its attributes can say, if its particles stand where the schema
language has a place for them, and if all that it is made of is what is left of
it when it is written and read again.
-/

namespace XmlSchema

open Attempt

namespace Context

/-- A name that a definition or a constraint of the document can have. -/
def Qualifies (cx : Context) (name : QName) : Prop := cx.qualify name.localName = name

/-- A declaration has a name that its attributes can say, or refers to another
one. -/
def Calls (cx : Context) (topLevel : Bool) (form : Form) (ref name : Option QName) : Prop :=
  match topLevel with
  | true => ref = none ∧ ∀ n, name = some n → cx.Qualifies n
  | false => (ref.isSome → name = none) ∧
      ∀ n, name = some n → cx.localName n.localName form = n

end Context

/-- The construct of an identity constraint. -/
def ConstraintKind.construct : ConstraintKind → Construct
  | key => .key
  | keyref _ => .keyref
  | unique => .unique

/-- A slot before a type is defined in place. -/
def TypeSlot.begun : TypeSlot → TypeSlot
  | anonymous _ => absent
  | slot => slot

/-- An element declaration before its type and its constraints are read. -/
def ElementDecl.begun (e : ElementDecl) : ElementDecl :=
  { e with type := e.type.begun, constraints := [] }

/-- An attribute declaration before its type is read. -/
def AttributeDecl.begun (a : AttributeDecl) : AttributeDecl := { a with type := a.type.begun }

/-- An identity constraint before its paths are read. -/
def IdentityConstraint.begun (k : IdentityConstraint) : IdentityConstraint :=
  { kind := k.kind, name := k.name, common := k.common }

namespace TypeDefinition

/-- The construct of a type. -/
def construct (t : TypeDefinition) : Construct := if t.isSimple then .simpleType else .complexType

/-- The part that a type plays. -/
def role (t : TypeDefinition) (named : Bool) : Role :=
  if t.isSimple then .simpleType named else .complexType named

end TypeDefinition

/-- The construct of an attribute or of a reference to a group of attributes. -/
def AttributeItem.construct : AttributeItem → Construct
  | «attribute» _ => .attribute
  | group _ => .attributeGroup

/-- The part that it plays. -/
def AttributeItem.role : AttributeItem → Role
  | «attribute» _ => .attribute false
  | group _ => .attributeGroupRef

namespace Particle

/-- The construct of a particle. -/
def construct : Particle → Construct
  | model _ c _ _ => .compositor c
  | element _ _ => .element
  | any _ _ => .any
  | group _ _ => .group

/-- The part that it plays. -/
def role : Particle → Role
  | model _ c _ _ => .compositor c
  | element _ _ => .element false
  | any _ _ => .any
  | group _ _ => .groupRef

end Particle

theorem attributeParts_subset {items : List AttributeItem} {i : AttributeItem} (hi : i ∈ items) :
    attributeParts [i] ⊆ attributeParts items :=
  List.map_subset _ (List.filterMap_subset _ fun _ h => List.mem_singleton.1 h ▸ hi)

namespace Spelling

open Xml

/-- The attributes that name a declaration say how it is called. -/
def naming (cx : Context) (topLevel : Bool) (form : Form) (ref name : Option QName) :
    Spelling (List (String × Option String)) where
  Holds outer pairs :=
    (∀ label, label ≠ "name" → label ≠ "ref" → Writer.valueOf? pairs label = none) ∧
      ∀ scope : Scope, scope.Serves outer → ∀ t : Tag,
        t.attribute? "name" = Writer.valueOf? pairs "name" →
        t.attribute? "ref" = Writer.valueOf? pairs "ref" →
        Role.declaredName cx scope t topLevel form = .ok (name, ref)
  mono hw h := ⟨h.1, fun scope hscope => h.2 scope (hscope.of_within hw)⟩

/-- The attribute that names a type says which slot a declaration begins with. -/
def slot (cx : Context) (slot : TypeSlot) : Spelling (Option String) where
  Holds outer token := ∀ scope : Scope, scope.Serves outer → ∀ t : Tag,
    t.attribute? "type" = token → Role.declaredType cx scope t = .ok slot.begun.unresolved
  mono hw h := fun scope hscope => h scope (hscope.of_within hw)

end Spelling

namespace Writer

open Xml Reader Transcription

theorem parse_flag (b : Bool) : ((flag b).bind parseBool?).getD false = b := by
  cases b <;> decide

theorem parse_boolText (b : Option Bool) : (b.map boolText).bind parseBool? = b := by
  cases b with
  | none => rfl
  | some b => cases b <;> decide

theorem parse_form (f : Option Form) : (f.map Form.text).bind Form.parse? = f := by
  cases f with
  | none => rfl
  | some f => cases f <;> decide

theorem parse_use (u : Option AttributeUse) :
    (u.map AttributeUse.text).bind AttributeUse.parse? = u := by
  cases u with
  | none => rfl
  | some u => cases u <;> decide

theorem parse_process (p : Option ProcessContents) :
    (p.map ProcessContents.text).bind ProcessContents.parse? = p := by
  cases p with
  | none => rfl
  | some p => cases p <;> decide

variable {α : Type} {Q : Meaning → α → Prop} {cx : Context} {wcx : WriterContext}
  {c : Collection} {inline : TypeId → Writer Element}

theorem delivers_demand {kind : ComponentKind} {id : ComponentId kind} {x : kind.Component}
    (hx : wcx.collection.get? id = some x) {f : kind.Component → Writer α}
    (h : Delivers (f x) Q) : Delivers (demand wcx id >>= f) Q := by
  unfold demand
  rw [hx]
  exact h

theorem delivers_demandName {kind : ComponentKind} {name : Option QName} {f : QName → Writer α}
    (h : ∀ n, name = some n → Delivers (f n) Q) :
    Delivers (demandName wcx kind name >>= f) Q := by
  cases name with
  | none => exact delivers_throw _
  | some n => exact h n rfl

/-- It does not matter that the type has been found. -/
theorem slot_begun {f : (kind : ComponentKind) → ComponentId kind → ComponentId kind}
    (slot : TypeSlot) : (comparing f).slot slot.begun.unresolved = plain.slot slot.begun := by
  cases slot <;> rfl

/-- What a guard forbids is not written. -/
theorem delivers_guard {b : Bool} {name : Option QName} {cause : Inconsistency} {m : Writer α}
    (h : b = false → Delivers m Q) : Delivers (do
      if b then inconsistent wcx name cause
      m) Q := by
  cases b with
  | true => exact delivers_throw _
  | false => exact h rfl

section Calls

variable (hinherits : cx.inherits = false)
include hinherits

theorem delivers_declaredAs {kind : ComponentKind} {topLevel : Bool} {form : Form}
    {ref name : Option QName} (hcalls : cx.Calls topLevel form ref name)
    (href : ref.map QName.reread = ref) :
    Delivers (declaredAs wcx kind topLevel ref name)
      (Spelling.naming cx topLevel form ref name).Holds := by
  cases topLevel with
  | true =>
      obtain ⟨rfl, hcalled⟩ := hcalls
      cases name with
      | none => exact delivers_throw _
      | some n =>
          refine delivers_pure fun outer => ⟨fun label hlabel _ => ?_, fun _ _ t hname _ => ?_⟩
          · simp [valueOf?_cons, valueOf?_nil, hlabel.symm]
          · have hn : cx.qualify n.localName = n := hcalled n rfl
            simp [Role.declaredName, hname, valueOf?_cons, valueOf?_nil, hn]
  | false =>
      obtain ⟨hnone, hcalled⟩ := hcalls
      cases ref with
      | some target =>
          have hplain := QName.plain_of_reread (eq_of_map_eq href target rfl)
          obtain rfl := hnone rfl
          refine Delivers.map ((delivers_token hinherits target).mono fun outer token htoken =>
            ⟨fun label _ hlabel => ?_, fun scope hscope t _ href => ?_⟩)
          · simp [valueOf?_cons, valueOf?_nil, hlabel.symm]
          · have hresolve := (htoken hplain scope hscope).resolve
            simp [Role.declaredName, href, valueOf?_cons, valueOf?_nil, hresolve]
      | none =>
          cases name with
          | none =>
              refine delivers_pure fun outer => ⟨fun _ _ _ => rfl, fun _ _ t hname href => ?_⟩
              simp [Role.declaredName, hname, href, valueOf?_nil]
          | some n =>
              refine delivers_pure fun outer =>
                ⟨fun label hlabel _ => ?_, fun _ _ t hname href => ?_⟩
              · simp [valueOf?_cons, valueOf?_nil, hlabel.symm]
              · have hn : cx.localName n.localName form = n := hcalled n rfl
                simp [Role.declaredName, hname, href, valueOf?_cons, valueOf?_nil, hn]

theorem delivers_declaredType {slot : TypeSlot} (hslot : rewritten.slot slot = slot.unresolved) :
    Delivers (token? slot.typeName?) (Spelling.slot cx slot).Holds := by
  cases slot with
  | named n resolved =>
      have hname : n.reread = n := (TypeSlot.named.inj hslot).1
      have hplain := QName.plain_of_reread hname
      refine Delivers.map ((delivers_token hinherits n).mono fun outer token htoken scope hscope t
        ht => ?_)
      simp only [Role.declaredType, ht, (htoken hplain scope hscope).resolve]
      rfl
  | _ =>
      refine delivers_pure fun outer scope _ t ht => ?_
      simp only [Role.declaredType, ht]
      rfl

end Calls

section Constructs

variable (hkeep : cx.policy = .keep) (hwrites : wcx.policy = .keep)
include hkeep hwrites

theorem delivers_facet {f : Facet} (h : rewritten.facet f = f) :
    Delivers (facet wcx f)
      (Spelling.nodeReadAs c cx (.facet f.kind) (.facet f.kind) (.facet f)).Holds := by
  have hname : Construct.ofLocalName? f.kind.localName = some (.facet f.kind) := by
    cases f.kind <;> rfl
  have hcommon : rewritten.common { xmlId := f.xmlId, note := f.note } =
      { xmlId := f.xmlId, note := f.note } :=
    congrArg (fun f : Facet => ({ xmlId := f.xmlId, note := f.note } : Common)) h
  have hdress : (Draft.facet { f with note := none }).dress { xmlId := f.xmlId, note := f.note } =
      .facet f := by
    obtain ⟨kind, value, fixed, xmlId, note⟩ := f
    cases note <;> rfl
  refine .asNode (.always (delivers_reading hkeep hwrites hname hcommon hdress (fun _ => rfl) rfl
    (delivers_pure fun _ => adds_nil) (.of_none rfl) fun outer _ scope _ t kids ht =>
      ⟨.facet { f with note := none }, ?_, fun _ _ => rfl⟩))
  simp [Role.opening, boolAttribute?, ht, valueOf?_cons, valueOf?_nil, parse_flag]

/-- A path of an identity constraint. -/
theorem delivers_path (selects : Bool) {p : PathExpression} (h : rewritten.path p = p) :
    Delivers (path wcx (if selects then "selector" else "field") p)
      (Spelling.nodeReadAs c cx (if selects then .selector else .field)
        (if selects then .selector else .field)
        (if selects then .selector p else .field p)).Holds := by
  have hcommon : rewritten.common { xmlId := p.xmlId, note := p.note } =
      { xmlId := p.xmlId, note := p.note } :=
    congrArg (fun p : PathExpression => ({ xmlId := p.xmlId, note := p.note } : Common)) h
  let made (p : PathExpression) : Draft := if selects then .selector p else .field p
  have hdress : (made { p with note := none }).dress { xmlId := p.xmlId, note := p.note } =
      made p := by
    obtain ⟨path, xmlId, note⟩ := p
    cases selects <;> cases note <;> rfl
  have hname : Construct.ofLocalName? (if selects then "selector" else "field") =
      some (if selects then Construct.selector else .field) := by
    cases selects <;> rfl
  refine .asNode (.always (delivers_reading hkeep hwrites hname hcommon hdress (fun _ => rfl)
    (by cases selects <;> rfl) (delivers_pure fun _ => adds_nil)
    (by cases selects <;> exact .of_none rfl) fun outer _ scope _ t kids ht =>
      ⟨made { p with note := none }, ?_, fun _ _ => by cases selects <;> rfl⟩))
  cases selects <;> simp [made, Role.opening, ht, valueOf?_cons, valueOf?_nil]

theorem delivers_compositor {o : Occurs} {kind : Compositor} {common : Common}
    {particles : List Particle} {children : Writer (List Node)} (ho : o.reread = o)
    (hcommon : rewritten.common common = common)
    (hchildren : Delivers children (Spelling.adds c cx (.compositor o kind common [])
      (.compositor o kind common particles)).Holds) :
    Delivers (construct wcx kind.localName [] common children) fun outer e =>
      (Spelling.readAs c cx (.compositor kind) (.compositor kind)
        (.particle (some (.model o kind common particles)))).Holds outer (withOccurs o e) := by
  have hname : Construct.ofLocalName? kind.localName = some (.compositor kind) := by
    cases kind <;> rfl
  refine .always (delivers_bounded hkeep hwrites hname o hcommon
    (Draft.dress_of (fun common => .compositor o kind common []) (fun _ _ => rfl)
      (fun _ _ => rfl) common) nofun rfl hchildren (.of_none rfl) (fun _ _ => ⟨rfl, rfl⟩)
    fun outer _ scope _ t kids ht =>
      ⟨.compositor o kind { xmlId := common.xmlId } [], ?_, fun _ _ => rfl⟩)
  unfold Occurs.reread at ho
  simp [Role.opening, ht, valueOf?_cons, valueOf?_nil, bounds, ho]

theorem delivers_wildcard {w : Wildcard} (h : rewritten.wildcard w = w) :
    Delivers (wildcard wcx "anyAttribute" w) (Spelling.readAs c cx .anyAttribute .anyAttribute
      (.anyAttribute w)).Holds := by
  have hcommon : rewritten.common w.common = w.common := congrArg Wildcard.common h
  refine .always (delivers_reading hkeep hwrites rfl hcommon
    (Draft.dress_of (fun common => .anyAttribute { w with common }) (fun _ _ => rfl)
      (fun _ _ => rfl) w.common) (nofun) rfl
    (delivers_pure fun _ => adds_nil) (.of_none rfl) fun outer _ scope _ t kids ht =>
      ⟨.anyAttribute { w with common := { xmlId := w.common.xmlId } }, ?_, fun _ _ => rfl⟩)
  simp [Role.opening, ht, valueOf?_cons, valueOf?_nil, parse_process]

theorem delivers_any {w : Wildcard} {o : Occurs} (h : rewritten.wildcard w = w)
    (ho : o.reread = o) :
    Delivers (wildcard wcx "any" w) fun outer e =>
      (Spelling.readAs c cx .any .any (.particle (some (.any o w)))).Holds outer
        (withOccurs o e) := by
  have hcommon : rewritten.common w.common = w.common := congrArg Wildcard.common h
  refine .always (delivers_bounded hkeep hwrites rfl o hcommon
    (Draft.dress_of (fun common => .any o { w with common }) (fun _ _ => rfl)
      (fun _ _ => rfl) w.common) (nofun) rfl
    (delivers_pure fun _ => adds_nil) (.of_none rfl) (fun _ _ => ⟨rfl, rfl⟩)
    fun outer _ scope _ t kids ht =>
      ⟨.any o { w with common := { xmlId := w.common.xmlId } }, ?_, fun _ _ => rfl⟩)
  unfold Occurs.reread at ho
  simpa [Role.opening, ht, valueOf?_cons, valueOf?_nil, parse_process, bounds] using ho

/-- The paths of an identity constraint, its selector before its fields. -/
theorem delivers_paths {k : IdentityConstraint} (h : rewritten.constraint k = k) :
    Delivers (do
      let selector ← whenSome (path wcx "selector") k.selector
      let fields ← each (path wcx "field") k.fields
      return selector ++ fields)
      (Spelling.adds c cx (.constraint k.begun) (.constraint k)).Holds := by
  have hselector : ∀ p, k.selector = some p → Delivers (path wcx "selector" p)
      (Spelling.nodeReadAs c cx .selector .selector (.selector p)).Holds := fun p hp =>
    delivers_path hkeep hwrites true (eq_of_map_eq (congrArg IdentityConstraint.selector h) p hp)
  have hfields : ∀ p ∈ k.fields, Delivers (path wcx "field" p)
      (Spelling.nodeReadAs c cx .field .field (.field p)).Holds := fun p hp =>
    delivers_path hkeep hwrites false
      (forall_of_map_eq (congrArg IdentityConstraint.fields h) p hp)
  exact (delivers_whenSome (fun selector => .constraint { k with selector, fields := [] })
    fun p hp => (hselector p hp).taken rfl rfl).followed
      (delivers_each (fun fields => .constraint { k with fields })
        (fun _ p hp => (hfields p hp).taken rfl rfl) [])

section Names

/-- A tag with such a reference says what the constraint demands. -/
def Refers (cx : Context) (kind : ConstraintKind) (outer : Meaning) (refer : Option String) :
    Prop :=
  ∀ scope, scope.Serves outer → ∀ t : Tag, t.attribute? "refer" = refer →
    Role.constraintKind cx scope t kind.construct = .ok kind

/-- A constraint is read as a copy of itself from whatever refers to what it
refers to. -/
theorem delivers_referring {k : IdentityConstraint} (h : rewritten.constraint k = k)
    (hqualifies : cx.Qualifies k.name) (refer : Option String) :
    Delivers (do
      let e ← construct wcx k.kind.localName
        [("name", some k.name.localName), ("refer", refer)] k.common (do
          let selector ← whenSome (path wcx "selector") k.selector
          let fields ← each (path wcx "field") k.fields
          return selector ++ fields)
      return Node.ofElement e) fun outer node => Refers cx k.kind outer refer →
        (Spelling.nodeReadAs c cx k.kind.construct (.constraint k.kind.construct)
          (.constraint k)).Holds outer node := by
  have hname : Construct.ofLocalName? k.kind.localName = some k.kind.construct := by
    cases k.kind <;> rfl
  refine .asNodeWhen (delivers_reading hkeep hwrites hname
    (congrArg IdentityConstraint.common h)
    (Draft.dress_of (fun common => .constraint { k.begun with common })
      (fun _ _ => rfl) (fun _ _ => rfl) k.common) nofun rfl (delivers_paths hkeep hwrites h)
    (.of_none rfl) fun outer hrefer scope hscope t kids ht => ⟨.constraint
      { k.begun with common := { xmlId := k.common.xmlId } }, ?_, fun _ _ => rfl⟩)
  have hcalled : cx.qualify k.name.localName = k.name := hqualifies
  have hkind := hrefer scope hscope t (by simp [ht, valueOf?_cons, valueOf?_nil])
  simp [Role.opening, IdentityConstraint.begun, hkind, hcalled, ht, valueOf?_cons, valueOf?_nil]

variable (hinherits : cx.inherits = false)
include hinherits

theorem delivers_constraint {k : IdentityConstraint} (h : rewritten.constraint k = k)
    (hqualifies : cx.Qualifies k.name) :
    Delivers (constraint wcx k) (Spelling.nodeReadAs c cx k.kind.construct
      (.constraint k.kind.construct) (.constraint k)).Holds := by
  have hrest := delivers_referring (c := c) hkeep hwrites h hqualifies
  have hkind : rewritten.constraintKind k.kind = k.kind := congrArg IdentityConstraint.kind h
  unfold constraint
  cases hk : k.kind with
  | keyref name =>
      rw [hk] at hkind hrest
      have hplain := QName.plain_of_reread (ConstraintKind.keyref.inj hkind)
      refine (delivers_token hinherits name).bind fun token =>
        (hrest (some token)).mono fun outer node hnode htoken => hnode fun scope hscope t ht => ?_
      simp [Role.constraintKind, ConstraintKind.construct, ht, (htoken hplain scope hscope).resolve]
  | _ =>
      rw [hk] at hrest
      exact (hrest none).mono fun outer node hnode => hnode fun scope hscope t ht => rfl

theorem delivers_groupRef {r : GroupRef} {o : Occurs} (h : rewritten.groupRef r = r)
    (ho : o.reread = o) :
    Delivers (do
      let target ← token r.target
      construct wcx "group" [("ref", some target)] r.common (pure [])) fun outer e =>
        (Spelling.readAs c cx .group .groupRef (.particle (some (.group o r)))).Holds outer
          (withOccurs o e) := by
  have hplain := QName.plain_of_reread (congrArg GroupRef.target h)
  unfold Occurs.reread at ho
  refine (delivers_token hinherits r.target).bind fun token =>
    delivers_bounded hkeep hwrites rfl o (congrArg GroupRef.common h)
      (Draft.dress_of (fun common => .groupRef o { target := r.target, common })
        (fun _ _ => rfl) (fun _ _ => rfl) r.common) nofun rfl
      (delivers_pure fun _ => adds_nil) (.of_none rfl) (fun _ _ => ⟨rfl, rfl⟩)
      fun outer htoken scope hscope t kids ht =>
        ⟨.groupRef o { target := r.target, common := { xmlId := r.common.xmlId } }, ?_,
          fun _ _ => rfl⟩
  have hresolve := (htoken hplain scope hscope).resolve
  simp [Role.opening, hresolve, ho, ht, valueOf?_cons, valueOf?_nil, bounds]

theorem delivers_attributeGroupRef {r : AttributeGroupRef} (h : rewritten.attributeGroupRef r = r) :
    Delivers (do
      let target ← token r.target
      construct wcx "attributeGroup" [("ref", some target)] r.common (pure []))
      (Spelling.readAs c cx .attributeGroup .attributeGroupRef
        (.attributeItem (.group r))).Holds := by
  have hplain := QName.plain_of_reread (congrArg AttributeGroupRef.target h)
  refine (delivers_token hinherits r.target).bind fun token =>
    delivers_reading hkeep hwrites rfl (congrArg AttributeGroupRef.common h)
      (Draft.dress_of (fun common => .attributeGroupRef { target := r.target, common })
        (fun _ _ => rfl) (fun _ _ => rfl) r.common) nofun rfl
      (delivers_pure fun _ => adds_nil) (.of_none rfl)
      fun outer htoken scope hscope t kids ht =>
        ⟨.attributeGroupRef { target := r.target, common := { xmlId := r.common.xmlId } }, ?_,
          fun _ _ => rfl⟩
  have hresolve := (htoken hplain scope hscope).resolve
  simp [Role.opening, hresolve, ht, valueOf?_cons, valueOf?_nil]

end Names

end Constructs

section Declarations

variable (cx wcx inline)

/-- A part that is defined in place, other than the type of an element, is read
as a copy of itself. -/
def CopiesPart : ComponentRef → Prop
  | ⟨.type, id⟩ => Delivers (inline id)
      (Spelling.readAs wcx.collection cx .simpleType (.simpleType false)
        (.component ⟨.type, id⟩)).Holds
  | ⟨.element, id⟩ => ∀ o : Occurs, o.reread = o →
      Delivers (element wcx inline false id) fun outer e =>
        (Spelling.readAs wcx.collection cx .element (.element false)
          (.particle (some (.element o id)))).Holds outer (withOccurs o e)
  | ⟨.attribute, id⟩ => Delivers (attributeDecl wcx inline false id)
      (Spelling.readAs wcx.collection cx .attribute (.attribute false)
        (.attributeItem (.attribute id))).Holds
  | _ => True

variable {cx wcx inline}

theorem delivers_inlineType (made : TypeSlot → Draft) {slot : TypeSlot}
    (hadopt : ∀ id, (made .absent).adopt (.component ⟨.type, id⟩) = made (.anonymous id))
    (h : ∀ id, slot = .anonymous id → ∃ construct role,
      (made .absent).role? construct = some role ∧ Delivers (inline id)
        (Spelling.readAs c cx construct role (.component ⟨.type, id⟩)).Holds) :
    Delivers (inlineType inline slot)
      (Spelling.adds c cx (made slot.begun) (made slot)).Holds := by
  cases slot with
  | anonymous id =>
      obtain ⟨construct, role, hrole, hid⟩ := h id rfl
      rw [← hadopt]
      exact hid.asNodes hrole
  | _ => exact delivers_pure fun _ => adds_nil

section Written

variable (hkeep : cx.policy = .keep) (hwrites : wcx.policy = .keep)
  (hinherits : cx.inherits = false)
include hkeep hwrites hinherits

/-- What stands inside of an element declaration, its type before its
constraints. -/
theorem delivers_enclosed {e : ElementDecl} (o : Occurs)
    (hfixed : ∀ k ∈ e.constraints, rewritten.constraint k = k)
    (hconstraints : ∀ k ∈ e.constraints, cx.Qualifies k.name)
    (hinline : ∀ id ∈ e.type.inline, ∃ t, wcx.collection.get? id = some t ∧
      Delivers (inline id) (Spelling.readAs wcx.collection cx t.construct (t.role false)
        (.component ⟨.type, id⟩)).Holds) :
    Delivers (do
      let type ← inlineType inline e.type
      let constraints ← each (constraint wcx) e.constraints
      return type ++ constraints)
      (Spelling.adds wcx.collection cx (.element o e.begun) (.element o e)).Holds := by
  have htype : Delivers (inlineType inline e.type) (Spelling.adds wcx.collection cx
      (.element o e.begun) (.element o { e with constraints := [] })).Holds := by
    refine delivers_inlineType (fun type => .element o { e with type, constraints := [] })
      (fun _ => rfl) fun id hid => ?_
    obtain ⟨t, ht, hdelivers⟩ := hinline id (hid ▸ List.mem_cons_self)
    refine ⟨_, _, ?_, hdelivers⟩
    unfold TypeDefinition.construct TypeDefinition.role
    cases t.isSimple <;> rfl
  have hconstraint : Delivers (each (constraint wcx) e.constraints) (Spelling.adds wcx.collection cx
      (.element o { e with constraints := [] }) (.element o e)).Holds := by
    refine delivers_each (fun constraints => .element o { e with constraints })
      (fun _ k hk => (delivers_constraint hkeep hwrites hinherits (hfixed k hk)
        (hconstraints k hk)).taken ?_ rfl) []
    cases k.kind <;> rfl
  exact htype.followed hconstraint

theorem delivers_element {id : ElementId} {e : ElementDecl} {o : Occurs}
    (he : wcx.collection.get? id = some e)
    (h : rewritten.elementDecl e = ComponentKind.unresolved .element e)
    (hcalls : cx.Calls e.topLevel (e.form.getD cx.elementForm) e.ref e.name)
    (hconstraints : ∀ k ∈ e.constraints, cx.Qualifies k.name)
    (hinline : ∀ id ∈ e.type.inline, ∃ t, wcx.collection.get? id = some t ∧
      Delivers (inline id) (Spelling.readAs wcx.collection cx t.construct (t.role false)
        (.component ⟨.type, id⟩)).Holds) (ho : o.reread = o) :
    Delivers (element wcx inline e.topLevel id) fun outer el =>
      (Spelling.readAs wcx.collection cx .element (.element e.topLevel)
        (if e.topLevel then .component ⟨.element, id⟩
          else .particle (some (.element o id)))).Holds outer (withOccurs o el) := by
  have hfixed : ∀ k ∈ e.constraints, rewritten.constraint k = k :=
    forall_of_map_eq (congrArg ElementDecl.constraints h)
  have hsubstitution : ∀ n, e.substitutionGroup = some n → Text.Plain n.localName := fun n hn =>
    QName.plain_of_reread (eq_of_map_eq (congrArg ElementDecl.substitutionGroup h) n hn)
  have hblock : e.block.reread = e.block := congrArg ElementDecl.block h
  have hfinal : e.finalSet.reread = e.finalSet := congrArg ElementDecl.finalSet h
  unfold element
  refine delivers_demand he ((delivers_declaredAs hinherits hcalls
    (congrArg ElementDecl.ref h)).bind fun naming =>
      (delivers_declaredType hinherits (congrArg ElementDecl.type h)).bind fun type =>
        (delivers_token? hinherits e.substitutionGroup).bind fun substitutionGroup => ?_)
  refine (delivers_bounded hkeep hwrites rfl o (congrArg ElementDecl.common h)
    (Draft.dress_of (fun common => .element o { e.begun with common }) (fun _ _ => rfl)
      (fun _ _ => rfl) e.common) nofun rfl
    (delivers_enclosed hkeep hwrites hinherits o hfixed hconstraints hinline)
    (.of_owned he rfl fun cs hcs => ?_)
    (K := fun outer => (Spelling.naming cx e.topLevel (e.form.getD cx.elementForm) e.ref
      e.name).Holds outer naming ∧ (Spelling.slot cx e.type).Holds outer type ∧
        (Spelling.name? cx e.substitutionGroup).Holds outer substitutionGroup)
    (fun outer hK => ?_) fun outer hK scope hscope t kids ht => ?_).mono
      fun _ _ hread hgroup htype hnaming => hread ⟨hnaming, htype, hgroup⟩
  · obtain ⟨schema, index⟩ := id
    subst hcs
    rfl
  · simp [valueOf?_append, valueOf?_cons, valueOf?_nil, hK.1.1]
  · obtain ⟨⟨hothers, hnaming⟩, htype, hgroup⟩ := hK
    have hform : (t.attribute? "form").bind Form.parse? = e.form := by
      simp [ht, valueOf?_append, valueOf?_cons, valueOf?_nil, hothers, bounds, parse_form]
    have hcalled := hnaming scope hscope t
      (by simp [ht, valueOf?_append, valueOf?_cons, valueOf?_nil, bounds])
      (by simp [ht, valueOf?_append, valueOf?_cons, valueOf?_nil, bounds])
    have hslot := htype scope hscope t
      (by simp [ht, valueOf?_append, valueOf?_cons, valueOf?_nil, hothers, bounds])
    have hmember := hgroup hsubstitution scope hscope
    refine ⟨.element o { e.begun with
      type := e.type.begun.unresolved, common := { xmlId := e.common.xmlId } }, ?_, fun _ _ => ?_⟩
    · have hoccurs : Occurs.parse o.lexical.1 o.lexical.2 = o := ho
      have hsets : ((derivations e.block).map DerivationSet.parse).getD .empty = e.block ∧
          ((derivations e.finalSet).map DerivationSet.parse).getD .empty = e.finalSet :=
        ⟨hblock, hfinal⟩
      simp only [Role.opening, Role.openElement, derivationSet, boolAttribute?, hform, hcalled,
        hslot]
      simp [ht, valueOf?_append, valueOf?_cons, valueOf?_nil, hothers, bounds, parse_flag, hmember,
        hsets, hoccurs]
      rfl
    · simp only [Transcription.draft, elementDecl, ElementDecl.begun, slot_begun]
      rfl

theorem delivers_attributeDecl {id : AttributeId} {a : AttributeDecl}
    (ha : wcx.collection.get? id = some a)
    (h : rewritten.attributeDecl a = ComponentKind.unresolved .attribute a)
    (hcalls : cx.Calls a.topLevel (a.form.getD cx.attributeForm) a.ref a.name)
    (hinline : ∀ ref ∈ typeRefs a.type.inline, CopiesPart cx wcx inline ref) :
    Delivers (attributeDecl wcx inline a.topLevel id) (Spelling.readAs wcx.collection cx
      .attribute (.attribute a.topLevel) (if a.topLevel then .component ⟨.attribute, id⟩
        else .attributeItem (.attribute id))).Holds := by
  have htype : Delivers (inlineType inline a.type) (Spelling.adds wcx.collection cx
      (.attribute a.begun) (.attribute a)).Holds :=
    delivers_inlineType (fun type => .attribute { a with type }) (fun _ => rfl)
      fun id hid => ⟨_, _, rfl, hinline ⟨.type, id⟩ (hid ▸ List.mem_cons_self)⟩
  unfold attributeDecl
  refine delivers_demand ha ((delivers_declaredAs hinherits hcalls
    (congrArg AttributeDecl.ref h)).bind fun naming =>
      (delivers_declaredType hinherits (congrArg AttributeDecl.type h)).bind fun type => ?_)
  refine (delivers_reading hkeep hwrites rfl (congrArg AttributeDecl.common h)
    (Draft.dress_of (fun common => .attribute { a.begun with common }) (fun _ _ => rfl)
      (fun _ _ => rfl) a.common) nofun rfl htype (.of_owned ha rfl fun cs hcs => ?_)
    (K := fun outer => (Spelling.naming cx a.topLevel (a.form.getD cx.attributeForm) a.ref
      a.name).Holds outer naming ∧ (Spelling.slot cx a.type).Holds outer type)
    fun outer hK scope hscope t kids ht => ?_).mono
      fun _ _ hread htype hnaming => hread ⟨hnaming, htype⟩
  · obtain ⟨schema, index⟩ := id
    subst hcs
    rfl
  · obtain ⟨⟨hothers, hnaming⟩, htype⟩ := hK
    have hform : (t.attribute? "form").bind Form.parse? = a.form := by
      simp [ht, valueOf?_append, valueOf?_cons, valueOf?_nil, hothers, parse_form]
    have hcalled := hnaming scope hscope t
      (by simp [ht, valueOf?_append, valueOf?_cons, valueOf?_nil])
      (by simp [ht, valueOf?_append, valueOf?_cons, valueOf?_nil])
    have hslot := htype scope hscope t
      (by simp [ht, valueOf?_append, valueOf?_cons, valueOf?_nil, hothers])
    refine ⟨.attribute { a.begun with
      type := a.type.begun.unresolved, common := { xmlId := a.common.xmlId } }, ?_, fun _ _ => ?_⟩
    · simp only [Role.opening, Role.openAttribute, hform, hcalled, hslot]
      simp [ht, valueOf?_append, valueOf?_cons, valueOf?_nil, hothers, parse_use]
      rfl
    · simp only [Transcription.draft, Transcription.attributeDecl, AttributeDecl.begun,
        slot_begun]
      rfl

theorem delivers_attributeItem {i : AttributeItem} (hfixed : rewritten.attributeItem i = i)
    (h : ∀ ref ∈ attributeParts [i], CopiesPart cx wcx inline ref) :
    Delivers (attributeItem wcx inline i) (Spelling.nodeReadAs wcx.collection cx i.construct i.role
      (.attributeItem i)).Holds := by
  cases i with
  | «attribute» id =>
      have hid : CopiesPart cx wcx inline ⟨.attribute, id⟩ := h _ List.mem_cons_self
      exact hid.asNode
  | group r =>
      have hr := delivers_attributeGroupRef (c := wcx.collection) hkeep hwrites hinherits
        (AttributeItem.group.inj hfixed)
      have hnode := hr.asNode
      rw [bind_assoc] at hnode
      exact hnode

omit hkeep hwrites hinherits

mutual

theorem delivers_particle (hkeep : cx.policy = .keep) (hwrites : wcx.policy = .keep)
    (hinherits : cx.inherits = false) : ∀ p : Particle, rewritten.particle p = p →
    (∀ id ∈ p.elements, CopiesPart cx wcx inline ⟨.element, id⟩) →
    Delivers (particle wcx inline p)
      (Spelling.nodeReadAs wcx.collection cx p.construct p.role (.particle (some p))).Holds
  | .model o c common particles, hfixed, h => by
      unfold particle
      unfold Particle.elements at h
      rw [Transcription.particle, Particle.model.injEq] at hfixed
      obtain ⟨ho, -, hcommon, hparticles⟩ := hfixed
      exact (delivers_compositor hkeep hwrites ho hcommon
        (delivers_particleList hkeep hwrites hinherits o c common particles [] hparticles
          h)).asBoundedNode
  | .element o id, hfixed, h => by
      unfold particle
      unfold Particle.elements at h
      have ho : o.reread = o := (Particle.element.inj hfixed).1
      exact (h id List.mem_cons_self o ho).asBoundedNode
  | .any o w, hfixed, _ => by
      unfold particle
      obtain ⟨ho, hw⟩ := Particle.any.inj hfixed
      exact (delivers_any hkeep hwrites hw ho).asBoundedNode
  | .group o r, hfixed, _ => by
      unfold particle
      obtain ⟨ho, hr⟩ := Particle.group.inj hfixed
      have hnode := (delivers_groupRef (c := wcx.collection) hkeep hwrites hinherits hr
        ho).asBoundedNode
      rw [bind_assoc] at hnode
      exact hnode

theorem delivers_particleList (hkeep : cx.policy = .keep) (hwrites : wcx.policy = .keep)
    (hinherits : cx.inherits = false) (o : Occurs) (c : Compositor) (common : Common) :
    ∀ ps before : List Particle, rewritten.particleList ps = ps →
    (∀ id ∈ Particle.elementsList ps, CopiesPart cx wcx inline ⟨.element, id⟩) →
    Delivers (particleList wcx inline ps) (Spelling.adds wcx.collection cx
      (.compositor o c common before) (.compositor o c common (before ++ ps))).Holds
  | [], before, _, _ => by
      unfold particleList
      rw [List.append_nil]
      exact delivers_pure fun _ => adds_nil
  | p :: rest, before, hfixed, h => by
      unfold particleList
      unfold Particle.elementsList at h
      rw [List.forall_mem_append] at h
      rw [Transcription.particleList, List.cons.injEq] at hfixed
      have hrest := delivers_particleList hkeep hwrites hinherits o c common rest (before ++ [p])
        hfixed.2 h.2
      refine (delivers_particle hkeep hwrites hinherits p hfixed.1 h.1).bind fun node =>
        Delivers.map (hrest.mono ?_)
      rintro outer more hmore ⟨e, rfl, he⟩
      have hfirst := he.adds (q := .compositor o c common before) (by cases p <;> rfl)
      rw [List.append_assoc] at hmore
      exact hfirst.append hmore

end

end Written

end Declarations

end Writer

end XmlSchema
