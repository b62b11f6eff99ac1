import XmlSchema.Proofs.Document.Reproduction
import XmlSchema.Proofs.Document.Writing

/-!
# Documents are written as copies of themselves

A component is read as a copy of itself if its names are such as its attributes
can say, if its particles stand where the schema language has a place for them,
and if all that it is made of is what is left of it when it is written and read
again.  If all components of a document are such, then every item of its schema
is written as an element that is read as a copy of the item.  How deeply types
are defined inside each other does not matter: the types that a type holds are
written before it.
-/

namespace XmlSchema

open Attempt

/-- A particle that can stand outside of all compositors. -/
def Particle.Compound : Particle → Prop
  | model _ _ _ _ => True
  | group _ _ => True
  | _ => False

theorem Particle.Compound.ofContent? {p : Particle} (h : p.Compound) :
    Role.ofContent? p.construct = some p.role := by
  cases p with
  | model => rfl
  | group => rfl
  | element => exact absurd h id
  | any => exact absurd h id

/-- The particle of a content can stand there. -/
def Content.Shaped (c : Content) : Prop := ∀ p, c.particle = some p → p.Compound

/-- A derivation before anything inside of it is read. -/
def Derivation.begun (d : Derivation) : Derivation :=
  { step := d.step, base := d.base, common := d.common }

/-- A complex type before its content is read. -/
def ComplexType.begun (c : ComplexType) : ComplexType :=
  { isAbstract := c.isAbstract, mixed := c.mixed, block := c.block }

/-- The draft of a complex type with its content model. -/
def ContentModel.settled (t : TypeDefinition) (c : ComplexType) : ContentModel → Draft
  | direct content => .complexType t c content none
  | model => .complexType t c {} (some model)

/-- The particles of a type can stand where they do. -/
def TypeDefinition.Shaped (t : TypeDefinition) : Prop :=
  match t.body with
  | .simple _ => True
  | .complex c => c.content.content.Shaped

theorem ComponentRef.eq_of_count {kind : ComponentKind} {id : ComponentId kind}
    {cs : Components} (h : cs.count kind = id.index) :
    (⟨kind, ⟨id.schema, cs.count kind⟩⟩ : ComponentRef) = ⟨kind, id⟩ := by
  rw [h]

namespace Writer

open Xml Reader Transcription

section Definitions

variable {cx : Context} {wcx : WriterContext} {inline : TypeId → Writer Element}

theorem delivers_inlineNode {id : TypeId} (h : CopiesPart cx wcx inline ⟨.type, id⟩) :
    Delivers (inlineNode inline id) (Spelling.nodeReadAs wcx.collection cx .simpleType
      (.simpleType false) (.component ⟨.type, id⟩)).Holds :=
  Delivers.asNode h

theorem delivers_inlineNode? {optional : Option TypeId}
    (h : ∀ ref ∈ typeRefs optional.toList, CopiesPart cx wcx inline ref) :
    ∀ id, optional = some id → Delivers (inlineNode inline id)
      (Spelling.nodeReadAs wcx.collection cx .simpleType (.simpleType false)
        (.component ⟨.type, id⟩)).Holds := by
  rintro id rfl
  exact delivers_inlineNode (h _ List.mem_cons_self)

variable
  (hkeep : cx.policy = .keep) (hwrites : wcx.policy = .keep) (hinherits : cx.inherits = false)
include hkeep hwrites hinherits

theorem delivers_particle? {optional : Option Particle}
    (hfixed : optional.map rewritten.particle = optional)
    (h : ∀ ref ∈ (optional.map Particle.parts).getD [], CopiesPart cx wcx inline ref) :
    ∀ p, optional = some p → Delivers (particle wcx inline p)
      (Spelling.nodeReadAs wcx.collection cx p.construct p.role (.particle (some p))).Holds := by
  rintro p rfl
  exact delivers_particle hkeep hwrites hinherits p (Option.some.inj hfixed)
    (List.forall_mem_map.1 h)

/-- A content is taken up by what takes each piece of it. -/
theorem delivers_content (made : Content → Draft) {c : Content}
    (hparticle : ∀ p, c.particle = some p → (made {}).role? p.construct = some p.role ∧
      (made {}).adopt (.particle (some p)) = made { particle := some p })
    (hattribute : ∀ c i, (made c).role? (AttributeItem.construct i) = some i.role ∧
      (made c).adopt (.attributeItem i) = made (c.adopt (.attributeItem i)))
    (hwildcard : ∀ c w, (made c).role? .anyAttribute = some .anyAttribute ∧
      (made c).adopt (.anyAttribute w) = made (c.adopt (.anyAttribute w)))
    (hfixed : rewritten.content c = c) (h : ∀ ref ∈ c.parts, CopiesPart cx wcx inline ref) :
    Delivers (content wcx inline c) (Spelling.adds wcx.collection cx (made {}) (made c)).Holds := by
  unfold Content.parts at h
  obtain ⟨hparticles, hattributes⟩ := List.forall_mem_append.1 h
  have hfirst : Delivers (whenSome (particle wcx inline) c.particle) (Spelling.adds wcx.collection
      cx (made {}) (made { particle := c.particle })).Holds :=
    delivers_whenSome (fun particle => made { particle }) fun p hp =>
      (delivers_particle? hkeep hwrites hinherits (congrArg Content.particle hfixed) hparticles
        p hp).taken (hparticle p hp).1 (hparticle p hp).2
  have hsecond : Delivers (each (attributeItem wcx inline) c.attributes) (Spelling.adds
      wcx.collection cx (made { particle := c.particle })
      (made { c with anyAttribute := none })).Holds :=
    delivers_each (fun attributes => made { particle := c.particle, attributes })
      (fun attributes i hi => (delivers_attributeItem hkeep hwrites hinherits
        (forall_of_map_eq (congrArg Content.attributes hfixed) i hi) fun ref href =>
          hattributes ref (attributeParts_subset hi href)).taken (hattribute _ i).1
            (hattribute _ i).2) []
  have hthird : Delivers (whenSome (anyAttribute wcx) c.anyAttribute) (Spelling.adds
      wcx.collection cx (made { c with anyAttribute := none }) (made c)).Holds :=
    delivers_whenSome (fun anyAttribute => made { c with anyAttribute }) fun w hw =>
      (delivers_wildcard hkeep hwrites
        (eq_of_map_eq (congrArg Content.anyAttribute hfixed) w hw)).asNode.taken
          (hwildcard _ w).1 (hwildcard _ w).2
  exact hfirst.followedTwice hsecond hthird

theorem delivers_restriction {r : SimpleRestriction} (hfixed : rewritten.restriction r = r)
    (h : ∀ ref ∈ typeRefs r.baseType.toList, CopiesPart cx wcx inline ref) :
    Delivers (do
      let base ← token? r.base
      construct wcx "restriction" [("base", base)] r.common (do
        let inner ← whenSome (inlineNode inline) r.baseType
        let facets ← each (facet wcx) r.facets
        return inner ++ facets)) (Spelling.readAs wcx.collection cx (.derivation .restriction)
          .restriction (.variety (.restriction r))).Holds := by
  have hbase : ∀ n, r.base = some n → Text.Plain n.localName := fun n hn =>
    QName.plain_of_reread (eq_of_map_eq (congrArg SimpleRestriction.base hfixed) n hn)
  have hinner : Delivers (whenSome (inlineNode inline) r.baseType) (Spelling.adds wcx.collection cx
      (.restriction { base := r.base, common := r.common })
      (.restriction { r with facets := [] })).Holds :=
    delivers_whenSome (fun baseType => .restriction { r with baseType, facets := [] })
      fun id hid => (delivers_inlineNode? h id hid).taken rfl rfl
  have hfacets : Delivers (each (facet wcx) r.facets) (Spelling.adds wcx.collection cx
      (.restriction { r with facets := [] }) (.restriction r)).Holds :=
    delivers_each (fun facets => .restriction { r with facets })
      (fun _ f hf => (delivers_facet hkeep hwrites
        (forall_of_map_eq (congrArg SimpleRestriction.facets hfixed) f hf)).taken rfl rfl) []
  refine (delivers_token? hinherits r.base).bind fun base => delivers_reading hkeep hwrites rfl
    (congrArg SimpleRestriction.common hfixed)
    (Draft.dress_of (fun common => .restriction { base := r.base, common }) (fun _ _ => rfl)
      (fun _ _ => rfl) r.common) nofun rfl (hinner.followed hfacets) (.of_none rfl)
    fun outer htoken scope hscope t kids ht =>
      ⟨.restriction { base := r.base, common := { xmlId := r.common.xmlId } }, ?_, fun _ _ => rfl⟩
  have hresolve := htoken hbase scope hscope
  simp [Role.opening, ht, valueOf?_cons, valueOf?_nil, hresolve]

theorem delivers_list {l : SimpleList} (hfixed : rewritten.list l = l)
    (h : ∀ ref ∈ typeRefs l.itemType.toList, CopiesPart cx wcx inline ref) :
    Delivers (do
      let itemType ← token? l.itemTypeName
      construct wcx "list" [("itemType", itemType)] l.common
        (whenSome (inlineNode inline) l.itemType))
      (Spelling.readAs wcx.collection cx .list .list (.variety (.list l))).Holds := by
  have hitem : ∀ n, l.itemTypeName = some n → Text.Plain n.localName := fun n hn =>
    QName.plain_of_reread (eq_of_map_eq (congrArg SimpleList.itemTypeName hfixed) n hn)
  have hinner : Delivers (whenSome (inlineNode inline) l.itemType) (Spelling.adds wcx.collection cx
      (.list { itemTypeName := l.itemTypeName, common := l.common }) (.list l)).Holds :=
    delivers_whenSome (fun itemType => .list { l with itemType })
      fun id hid => (delivers_inlineNode? h id hid).taken rfl rfl
  refine (delivers_token? hinherits l.itemTypeName).bind fun itemType =>
    delivers_reading hkeep hwrites rfl (congrArg SimpleList.common hfixed)
      (Draft.dress_of (fun common => .list { itemTypeName := l.itemTypeName, common })
        (fun _ _ => rfl) (fun _ _ => rfl) l.common) nofun rfl hinner (.of_none rfl)
      fun outer htoken scope hscope t kids ht =>
        ⟨.list { itemTypeName := l.itemTypeName, common := { xmlId := l.common.xmlId } }, ?_,
          fun _ _ => rfl⟩
  have hresolve := htoken hitem scope hscope
  simp [Role.opening, ht, valueOf?_cons, valueOf?_nil, hresolve]

theorem delivers_union {u : SimpleUnion} (hfixed : rewritten.union u = u)
    (h : ∀ ref ∈ typeRefs u.memberTypes, CopiesPart cx wcx inline ref) :
    Delivers (do
      let members ← tokens u.memberNames
      construct wcx "union"
        [("memberTypes", if members.isEmpty then none else some (" ".intercalate members))]
        u.common (each (inlineNode inline) u.memberTypes))
      (Spelling.readAs wcx.collection cx .union .union (.variety (.union u))).Holds := by
  have hmembers := QName.plain_of_rereadAll (congrArg SimpleUnion.memberNames hfixed)
  have hinner : Delivers (each (inlineNode inline) u.memberTypes) (Spelling.adds wcx.collection cx
      (.union { memberNames := u.memberNames, common := u.common }) (.union u)).Holds :=
    delivers_each (fun memberTypes => .union { u with memberTypes })
      (fun _ id hid => (delivers_inlineNode (List.forall_mem_map.1 h id hid)).taken rfl rfl) []
  refine (delivers_tokens hinherits u.memberNames).bind fun members =>
    delivers_reading hkeep hwrites rfl (congrArg SimpleUnion.common hfixed)
      (Draft.dress_of (fun common => .union { memberNames := u.memberNames, common })
        (fun _ _ => rfl) (fun _ _ => rfl) u.common) nofun rfl hinner (.of_none rfl)
      fun outer htokens scope hscope t kids ht =>
        ⟨.union { memberNames := u.memberNames, common := { xmlId := u.common.xmlId } }, ?_,
          fun _ _ => rfl⟩
  obtain ⟨hwords, hresolve⟩ := htokens hmembers scope hscope
  have hsplit : Text.words ((t.attribute? "memberTypes").getD "") = members := by
    have hvalue : t.attribute? "memberTypes" =
        if members.isEmpty then none else some (" ".intercalate members) := by
      simp [ht, valueOf?_cons, valueOf?_nil]
    rw [hvalue]
    cases members with
    | nil => rfl
    | cons token rest =>
        rw [List.isEmpty_cons, if_neg Bool.false_ne_true, Option.getD_some]
        exact Text.words_intercalate (fun w hw => (hwords w hw).1) fun w hw => (hwords w hw).2
  have hid : t.attribute? "id" = u.common.xmlId := by
    simp [ht, valueOf?_cons, valueOf?_nil]
  simp only [Role.opening, hsplit, hresolve, hid]
  rfl

/-- What a derivation is made of. -/
theorem delivers_derived {d : Derivation} (hfixed : rewritten.derivation d = d)
    (hshaped : d.content.Shaped) (h : ∀ ref ∈ d.parts, CopiesPart cx wcx inline ref) :
    Delivers (do
      let inner ← whenSome (inlineNode inline) d.simpleType
      let facets ← each (facet wcx) d.facets
      let rest ← content wcx inline d.content
      return inner ++ facets ++ rest)
      (Spelling.adds wcx.collection cx (.derivation d.begun) (.derivation d)).Holds := by
  unfold Derivation.parts at h
  obtain ⟨htypes, hcontents⟩ := List.forall_mem_append.1 h
  have hinner : Delivers (whenSome (inlineNode inline) d.simpleType) (Spelling.adds wcx.collection
      cx (.derivation d.begun) (.derivation { d.begun with simpleType := d.simpleType })).Holds :=
    delivers_whenSome (fun simpleType => .derivation { d.begun with simpleType })
      fun id hid => (delivers_inlineNode? htypes id hid).taken rfl rfl
  have hfacets : Delivers (each (facet wcx) d.facets) (Spelling.adds wcx.collection cx
      (.derivation { d.begun with simpleType := d.simpleType })
      (.derivation { d with content := {} })).Holds :=
    delivers_each (fun facets => .derivation { d.begun with simpleType := d.simpleType, facets })
      (fun _ f hf => (delivers_facet hkeep hwrites
        (forall_of_map_eq (congrArg Derivation.facets hfixed) f hf)).taken rfl rfl) []
  have hrest : Delivers (content wcx inline d.content) (Spelling.adds wcx.collection cx
      (.derivation { d with content := {} }) (.derivation d)).Holds := by
    refine delivers_content hkeep hwrites hinherits (fun content => .derivation { d with content })
      (fun p hp => ⟨?_, rfl⟩) (fun c i => ⟨?_, rfl⟩) (fun c w => ⟨rfl, rfl⟩)
      (congrArg Derivation.content hfixed) hcontents
    · have hp := hshaped p hp
      cases p <;> first | rfl | exact absurd hp id
    · cases i <;> rfl
  exact hinner.followedTwice hfacets hrest

theorem delivers_derivation {name : Option QName} {d : Derivation}
    (hfixed : rewritten.derivation d = d) (hshaped : d.content.Shaped)
    (h : ∀ ref ∈ d.parts, CopiesPart cx wcx inline ref) :
    Delivers (derivation wcx inline name d) (Spelling.nodeReadAs wcx.collection cx
      (.derivation d.step) (.derivation d.step) (.derivation d)).Holds := by
  have hbase : ∀ n, d.base = some n → Text.Plain n.localName := fun n hn =>
    QName.plain_of_reread (eq_of_map_eq (congrArg Derivation.base hfixed) n hn)
  have hname : Construct.ofLocalName? d.step.localName = some (.derivation d.step) := by
    cases d.step <;> rfl
  unfold derivation
  refine delivers_guard fun _ => (delivers_token? hinherits d.base).bind fun base =>
    .asNodeWhen (delivers_reading hkeep hwrites hname (congrArg Derivation.common hfixed)
      (Draft.dress_of (fun common => .derivation { d.begun with common }) (fun _ _ => rfl)
        (fun _ _ => rfl) d.common) nofun rfl
      (delivers_derived hkeep hwrites hinherits hfixed hshaped h) (.of_none rfl)
      fun outer htoken scope hscope t kids ht =>
        ⟨.derivation { d.begun with common := { xmlId := d.common.xmlId } }, ?_,
          fun _ _ => rfl⟩)
  have hresolve := htoken hbase scope hscope
  simp [Role.opening, ht, valueOf?_cons, valueOf?_nil, hresolve, Derivation.begun]

theorem delivers_simpleBody {n : Option QName} {t : TypeDefinition} {s : SimpleType}
    (hfixed : rewritten.simpleType s = s) (h : ∀ ref ∈ s.parts, CopiesPart cx wcx inline ref) :
    Delivers (simpleBody wcx inline n s) (Spelling.adds wcx.collection cx
      (.simpleType { t with body := .simple .unspecified })
      (.simpleType { t with body := .simple s })).Holds := by
  cases s with
  | builtin => exact delivers_throw _
  | unspecified => exact delivers_pure fun _ => adds_nil
  | restriction r =>
      have hnodes := (delivers_restriction hkeep hwrites hinherits
        (SimpleType.restriction.inj hfixed) h).asNodes
        (q := .simpleType { t with body := .simple .unspecified }) rfl
      rw [bind_assoc] at hnodes
      exact delivers_guard fun _ => hnodes
  | list l =>
      have hnodes := (delivers_list hkeep hwrites hinherits (SimpleType.list.inj hfixed) h).asNodes
        (q := .simpleType { t with body := .simple .unspecified }) rfl
      rw [bind_assoc] at hnodes
      exact delivers_guard fun _ => hnodes
  | union u =>
      have hnodes := (delivers_union hkeep hwrites hinherits (SimpleType.union.inj hfixed)
        h).asNodes (q := .simpleType { t with body := .simple .unspecified }) rfl
      rw [bind_assoc] at hnodes
      exact hnodes

/-- A derivation inside a content model is taken up by that. -/
theorem delivers_simpleContent {name : Option QName} {m : SimpleContent}
    (hfixed : rewritten.simpleContent m = m)
    (hshaped : ((m.derivation.map Derivation.content).getD {}).Shaped)
    (h : ∀ ref ∈ (m.derivation.map Derivation.parts).getD [], CopiesPart cx wcx inline ref) :
    Delivers (construct wcx "simpleContent" [] m.common
      (whenSome (simpleDerivation wcx inline name) m.derivation))
      (Spelling.readAs wcx.collection cx .simpleContent .simpleContent
        (.model (.simple m))).Holds := by
  have hinner : Delivers (whenSome (simpleDerivation wcx inline name) m.derivation)
      (Spelling.adds wcx.collection cx (.simpleContent { common := m.common })
        (.simpleContent m)).Holds := by
    refine delivers_whenSome (fun derivation => .simpleContent { m with derivation }) fun d hd =>
      delivers_guard fun _ => delivers_guard fun _ =>
        (delivers_derivation hkeep hwrites hinherits
          (eq_of_map_eq (congrArg SimpleContent.derivation hfixed) d hd) ?_ ?_).taken rfl rfl
    · rwa [hd] at hshaped
    · rwa [hd] at h
  refine .always (delivers_reading hkeep hwrites rfl (congrArg SimpleContent.common hfixed)
    (Draft.dress_of (fun common => .simpleContent { common }) (fun _ _ => rfl) (fun _ _ => rfl)
      m.common) nofun rfl hinner (.of_none rfl) fun outer _ scope _ t kids ht =>
        ⟨.simpleContent { common := { xmlId := m.common.xmlId } }, ?_, fun _ _ => rfl⟩)
  simp [Role.opening, ht, valueOf?_cons, valueOf?_nil]

theorem delivers_complexContent {name : Option QName} {m : ComplexContent}
    (hfixed : rewritten.complexContent m = m)
    (hshaped : ((m.derivation.map Derivation.content).getD {}).Shaped)
    (h : ∀ ref ∈ (m.derivation.map Derivation.parts).getD [], CopiesPart cx wcx inline ref) :
    Delivers (construct wcx "complexContent" [("mixed", m.mixed.map boolText)] m.common
      (whenSome (complexDerivation wcx inline name) m.derivation))
      (Spelling.readAs wcx.collection cx .complexContent .complexContent
        (.model (.complex m))).Holds := by
  have hinner : Delivers (whenSome (complexDerivation wcx inline name) m.derivation)
      (Spelling.adds wcx.collection cx (.complexContent { mixed := m.mixed, common := m.common })
        (.complexContent m)).Holds := by
    refine delivers_whenSome (fun derivation => .complexContent { m with derivation }) fun d hd =>
      delivers_guard fun _ => (delivers_derivation hkeep hwrites hinherits
        (eq_of_map_eq (congrArg ComplexContent.derivation hfixed) d hd) ?_ ?_).taken rfl rfl
    · rwa [hd] at hshaped
    · rwa [hd] at h
  refine .always (delivers_reading hkeep hwrites rfl (congrArg ComplexContent.common hfixed)
    (Draft.dress_of (fun common => .complexContent { mixed := m.mixed, common }) (fun _ _ => rfl)
      (fun _ _ => rfl) m.common) nofun rfl hinner (.of_none rfl) fun outer _ scope _ t kids ht =>
        ⟨.complexContent { mixed := m.mixed, common := { xmlId := m.common.xmlId } }, ?_,
          fun _ _ => rfl⟩)
  simp [Role.opening, boolAttribute?, ht, valueOf?_cons, valueOf?_nil, parse_boolText]

theorem delivers_contentModel {n : Option QName} {t : TypeDefinition} {c : ComplexType}
    {m : ContentModel} (hfixed : rewritten.contentModel m = m) (hshaped : m.content.Shaped)
    (h : ∀ ref ∈ m.parts, CopiesPart cx wcx inline ref) :
    Delivers (contentModel wcx inline n m) (Spelling.adds wcx.collection cx
      (.complexType t c {} none) (m.settled t c)).Holds := by
  cases m with
  | direct content =>
      refine delivers_content hkeep hwrites hinherits (fun direct => .complexType t c direct none)
        (fun p hp => ⟨?_, rfl⟩) (fun _ i => ⟨?_, rfl⟩) (fun _ _ => ⟨rfl, rfl⟩)
        (ContentModel.direct.inj hfixed) h
      · have hp := hshaped p hp
        cases p <;> first | rfl | exact absurd hp id
      · cases i <;> rfl
  | simple content =>
      exact Delivers.asNodes (q := .complexType t c {} none)
        (delivers_simpleContent hkeep hwrites hinherits (ContentModel.simple.inj hfixed)
          hshaped h) rfl
  | complex content =>
      exact Delivers.asNodes (q := .complexType t c {} none)
        (delivers_complexContent hkeep hwrites hinherits (ContentModel.complex.inj hfixed)
          hshaped h) rfl

theorem delivers_simpleType {named : Bool} {id : TypeId} {t : TypeDefinition} {s : SimpleType}
    {name : Option String} (ht : wcx.collection.get? id = some t) (hbody : t.body = .simple s)
    (hfixed : rewritten.typeDefinition t = t)
    (hname : (if named then name.map cx.qualify else none) = t.name)
    (h : ∀ ref ∈ s.parts, CopiesPart cx wcx inline ref) :
    Delivers (construct wcx "simpleType" [("name", name), ("final", derivations t.finalSet)]
      t.common (simpleBody wcx inline t.name s)) (Spelling.readAs wcx.collection cx .simpleType
        (.simpleType named) (.component ⟨.type, id⟩)).Holds := by
  have hfinal : t.finalSet.reread = t.finalSet := congrArg TypeDefinition.finalSet hfixed
  have hsimple : rewritten.simpleType s = s := by
    have hbodies : rewritten.typeBody t.body = t.body := congrArg TypeDefinition.body hfixed
    rw [hbody] at hbodies
    exact TypeBody.simple.inj hbodies
  have hwhole : ({ t with body := .simple s } : TypeDefinition) = t := by rw [← hbody]
  have hinner := delivers_simpleBody hkeep hwrites hinherits (n := t.name) (t := t) hsimple h
  rw [hwhole] at hinner
  refine .always (delivers_reading hkeep hwrites rfl (congrArg TypeDefinition.common hfixed)
    (Draft.dress_of (fun common => .simpleType { t with common, body := .simple .unspecified })
      (fun _ _ => rfl) (fun _ _ => rfl) t.common) nofun rfl hinner
    (.of_owned ht rfl fun cs hcs => ?_) fun outer _ scope _ tag kids hattribute =>
      ⟨.simpleType { t with
        common := { xmlId := t.common.xmlId }, body := .simple .unspecified }, ?_, fun _ _ => rfl⟩)
  · rw [← ComponentRef.eq_of_count hcs]
    rfl
  · unfold DerivationSet.reread at hfinal
    simp [Role.opening, derivationSet, hattribute, valueOf?_cons, valueOf?_nil, hname, hfinal]

theorem delivers_complexType {named : Bool} {id : TypeId} {t : TypeDefinition} {c : ComplexType}
    {name : Option String} (ht : wcx.collection.get? id = some t) (hbody : t.body = .complex c)
    (hbuiltin : c.builtin = false) (hfixed : rewritten.typeDefinition t = t)
    (hname : (if named then name.map cx.qualify else none) = t.name)
    (hshaped : c.content.content.Shaped)
    (h : ∀ ref ∈ c.content.parts, CopiesPart cx wcx inline ref) :
    Delivers (construct wcx "complexType" [("name", name), ("abstract", flag c.isAbstract),
        ("mixed", c.mixed.map boolText), ("block", derivations c.block),
        ("final", derivations t.finalSet)]
      t.common (contentModel wcx inline t.name c.content)) (Spelling.readAs wcx.collection cx
        .complexType (.complexType named) (.component ⟨.type, id⟩)).Holds := by
  have hfinal : t.finalSet.reread = t.finalSet := congrArg TypeDefinition.finalSet hfixed
  have hcomplex : rewritten.complexType c = c := by
    have hbodies : rewritten.typeBody t.body = t.body := congrArg TypeDefinition.body hfixed
    rw [hbody] at hbodies
    exact TypeBody.complex.inj hbodies
  have hblock : c.block.reread = c.block := congrArg ComplexType.block hcomplex
  have hinner := delivers_contentModel hkeep hwrites hinherits (n := t.name)
    (t := { t with body := .complex {} }) (c := c.begun) (congrArg ComplexType.content hcomplex)
    hshaped h
  have howned : (c.content.settled { t with body := .complex {} } c.begun).owned? =
      some ⟨.type, t⟩ := by
    have hwhole : ({ t with body := .complex c } : TypeDefinition) = t := by rw [← hbody]
    have hparts : ({ c.begun with content := c.content } : ComplexType) = c := by
      obtain ⟨isAbstract, mixed, block, content, builtin⟩ := c
      subst hbuiltin
      rfl
    rw [← hparts] at hwhole
    conv_rhs => rw [← hwhole]
    unfold ContentModel.settled
    cases c.content <;> rfl
  refine .always (delivers_reading hkeep hwrites rfl (congrArg TypeDefinition.common hfixed)
    (Draft.dress_of
      (fun common => .complexType { t with common, body := .complex {} } c.begun {} none)
      (fun _ _ => rfl) (fun _ _ => rfl) t.common) nofun rfl hinner
    (.of_owned ht howned fun cs hcs => ?_) fun outer _ scope _ tag kids hattribute =>
      ⟨.complexType { t with
        common := { xmlId := t.common.xmlId }, body := .complex {} } c.begun {} none, ?_,
          fun _ _ => rfl⟩)
  · rw [← ComponentRef.eq_of_count hcs]
    unfold ContentModel.settled
    cases c.content <;> rfl
  · unfold DerivationSet.reread at hfinal hblock
    simp [Role.opening, derivationSet, boolAttribute?, hattribute, valueOf?_cons, valueOf?_nil,
      hname, hfinal, hblock, parse_flag, parse_boolText, ComplexType.begun]

/-- A type that is defined in place goes without a name. -/
theorem delivers_typeDefinition {named : Bool} {id : TypeId} {t : TypeDefinition}
    (ht : wcx.collection.get? id = some t) (hfixed : rewritten.typeDefinition t = t)
    (hname : ∀ n, t.name = some n → named = true ∧ cx.Qualifies n) (hshaped : t.Shaped)
    (h : ∀ ref ∈ t.body.parts, CopiesPart cx wcx inline ref) :
    Delivers (typeDefinition wcx inline named id) (Spelling.readAs wcx.collection cx t.construct
      (t.role named) (.component ⟨.type, id⟩)).Holds := by
  unfold typeDefinition
  refine delivers_demand ht (delivers_guard fun hbuiltin => ?_)
  have hrest : ∀ name : Option String, (if named then name.map cx.qualify else none) = t.name →
      Delivers (construct wcx (if t.isSimple then "simpleType" else "complexType")
        (("name", name) :: complexAttributes t.body ++ [("final", derivations t.finalSet)])
        t.common (match t.body with
          | .simple s => simpleBody wcx inline t.name s
          | .complex c => contentModel wcx inline t.name c.content))
        (Spelling.readAs wcx.collection cx t.construct (t.role named)
          (.component ⟨.type, id⟩)).Holds := by
    intro name hname
    unfold TypeDefinition.Shaped at hshaped
    unfold TypeDefinition.isBuiltin at hbuiltin
    unfold TypeDefinition.construct TypeDefinition.role TypeDefinition.isSimple
    cases hbody : t.body with
    | simple s =>
        rw [hbody] at h
        exact delivers_simpleType hkeep hwrites hinherits ht hbody hfixed hname h
    | complex c =>
        rw [hbody] at h hshaped hbuiltin
        exact delivers_complexType hkeep hwrites hinherits ht hbody hbuiltin hfixed hname hshaped h
  cases named with
  | false =>
      refine hrest none ?_
      cases hn : t.name with
      | none => rfl
      | some n => exact absurd (hname n hn).1 Bool.false_ne_true
  | true =>
      refine delivers_demandName fun n hn => hrest (some n.localName) ?_
      rw [hn, if_pos rfl]
      exact congrArg some (hname n hn).2

theorem delivers_group {id : GroupId} {g : GroupDefinition}
    (hg : wcx.collection.get? id = some g) (hfixed : rewritten.group g = g)
    (hname : ∀ n, g.name = some n → cx.Qualifies n)
    (hshaped : ∀ p, g.particle = some p → ∃ o c common ps, p = .model o c common ps)
    (h : ∀ ref ∈ (g.particle.map Particle.parts).getD [], CopiesPart cx wcx inline ref) :
    Delivers (group wcx inline id) (Spelling.readAs wcx.collection cx .group .group
      (.component ⟨.group, id⟩)).Holds := by
  have hinner : Delivers (whenSome (particle wcx inline) g.particle) (Spelling.adds wcx.collection
      cx (.group { g with particle := none }) (.group g)).Holds := by
    refine delivers_whenSome (fun particle => .group { g with particle }) fun p hp =>
      (delivers_particle? hkeep hwrites hinherits (congrArg GroupDefinition.particle hfixed) h
        p hp).taken ?_ rfl
    obtain ⟨o, c, common, ps, rfl⟩ := hshaped p hp
    rfl
  refine delivers_demand hg (delivers_demandName fun n hn => .always (delivers_reading hkeep
    hwrites rfl (congrArg GroupDefinition.common hfixed)
    (Draft.dress_of (fun common => .group { name := g.name, common }) (fun _ _ => rfl)
      (fun _ _ => rfl) g.common) nofun rfl hinner (.of_owned hg rfl fun cs hcs => ?_)
    fun outer _ scope _ t kids ht =>
      ⟨.group { name := g.name, common := { xmlId := g.common.xmlId } }, ?_, fun _ _ => rfl⟩))
  · rw [← ComponentRef.eq_of_count hcs]
    rfl
  · have hcalled : cx.qualify n.localName = n := hname n hn
    simp [Role.opening, ht, valueOf?_cons, valueOf?_nil, hn, hcalled]

theorem delivers_attributeGroup {id : AttributeGroupId} {g : AttributeGroupDefinition}
    (hg : wcx.collection.get? id = some g) (hfixed : rewritten.attributeGroup g = g)
    (hname : ∀ n, g.name = some n → cx.Qualifies n)
    (h : ∀ ref ∈ attributeParts g.attributes, CopiesPart cx wcx inline ref) :
    Delivers (attributeGroup wcx inline id) (Spelling.readAs wcx.collection cx .attributeGroup
      .attributeGroup (.component ⟨.attributeGroup, id⟩)).Holds := by
  let whole : Content := { attributes := g.attributes, anyAttribute := g.anyAttribute }
  have hwhole : rewritten.content whole = whole :=
    congrArg (fun g : AttributeGroupDefinition =>
      ({ attributes := g.attributes, anyAttribute := g.anyAttribute } : Content)) hfixed
  have hinner : Delivers (content wcx inline whole) (Spelling.adds wcx.collection cx
      (.attributeGroup { name := g.name, common := g.common }) (.attributeGroup g)).Holds := by
    refine delivers_content hkeep hwrites hinherits (fun c => .attributeGroup { g with
      attributes := c.attributes, anyAttribute := c.anyAttribute })
      nofun (fun _ i => ⟨?_, rfl⟩) (fun _ _ => ⟨rfl, rfl⟩) hwhole h
    cases i <;> rfl
  refine delivers_demand hg (delivers_demandName fun n hn => .always (delivers_reading hkeep
    hwrites rfl (congrArg AttributeGroupDefinition.common hfixed)
    (Draft.dress_of (fun common => .attributeGroup { name := g.name, common }) (fun _ _ => rfl)
      (fun _ _ => rfl) g.common) nofun rfl hinner (.of_owned hg rfl fun cs hcs => ?_)
    fun outer _ scope _ t kids ht =>
      ⟨.attributeGroup { name := g.name, common := { xmlId := g.common.xmlId } }, ?_,
        fun _ _ => rfl⟩))
  · rw [← ComponentRef.eq_of_count hcs]
    rfl
  · have hcalled : cx.qualify n.localName = n := hname n hn
    simp [Role.opening, ht, valueOf?_cons, valueOf?_nil, hn, hcalled]

omit hinherits in
theorem delivers_notationDecl {id : NotationId} {x : NotationDecl}
    (hx : wcx.collection.get? id = some x) (hfixed : rewritten.notationDecl x = x)
    (hname : ∀ n, x.name = some n → cx.Qualifies n) :
    Delivers (notationDecl wcx id) (Spelling.readAs wcx.collection cx .notationDecl .notationDecl
      (.component ⟨.notationDecl, id⟩)).Holds := by
  refine delivers_demand hx (delivers_demandName fun n hn => .always (delivers_reading hkeep
    hwrites rfl (congrArg NotationDecl.common hfixed)
    (Draft.dress_of (fun common => .notationDecl { x with common }) (fun _ _ => rfl)
      (fun _ _ => rfl) x.common) nofun rfl (delivers_pure fun _ => adds_nil)
    (.of_owned hx rfl fun cs hcs => ?_) fun outer _ scope _ t kids ht =>
      ⟨.notationDecl { x with common := { xmlId := x.common.xmlId } }, ?_, fun _ _ => rfl⟩))
  · rw [← ComponentRef.eq_of_count hcs]
    rfl
  · have hcalled : cx.qualify n.localName = n := hname n hn
    simp [Role.opening, ht, valueOf?_cons, valueOf?_nil, hn, hcalled]

end Definitions

end Writer

namespace TypeDefinition

theorem ofTopLevel?_construct (t : TypeDefinition) :
    Role.ofTopLevel? t.construct = some (t.role true) := by
  unfold construct role
  cases t.isSimple <;> rfl

theorem ofRedefinition?_construct (t : TypeDefinition) :
    Role.ofRedefinition? t.construct = some (t.role true) := by
  unfold construct role
  cases t.isSimple <;> rfl

end TypeDefinition

namespace ComponentKind

/-- What a component is called can be said by its attributes, and its particles
stand where they can. -/
def Authored (cx : Context) : (kind : ComponentKind) → kind.Component → Prop
  | .element, e => cx.Calls e.topLevel (e.form.getD cx.elementForm) e.ref e.name ∧
      ∀ k ∈ e.constraints, cx.Qualifies k.name
  | .attribute, a => cx.Calls a.topLevel (a.form.getD cx.attributeForm) a.ref a.name
  | .type, t => (∀ n, t.name = some n → cx.Qualifies n) ∧ t.Shaped
  | .group, g => (∀ n, g.name = some n → cx.Qualifies n) ∧
      ∀ p, g.particle = some p → ∃ o c common ps, p = .model o c common ps
  | .attributeGroup, g => ∀ n, g.name = some n → cx.Qualifies n
  | .notationDecl, x => ∀ n, x.name = some n → cx.Qualifies n

/-- What is defined in place inside a component of some kind. -/
def Encloses (whole : ComponentKind) : (kind : ComponentKind) → kind.Component → Prop
  | .element, e => e.topLevel = false
  | .attribute, a => a.topLevel = false
  | .type, t => t.name = none ∧ (whole ≠ .element → t.isSimple = true)
  | _, _ => True

/-- What stands at the top level. -/
def TopLevel : (kind : ComponentKind) → kind.Component → Prop
  | .element, e => e.topLevel = true
  | .attribute, a => a.topLevel = true
  | _, _ => True

/-- The construct of a component. -/
def construct : (kind : ComponentKind) → kind.Component → Construct
  | .element, _ => .element
  | .attribute, _ => .attribute
  | .type, t => t.construct
  | .group, _ => .group
  | .attributeGroup, _ => .attributeGroup
  | .notationDecl, _ => .notationDecl

/-- The part that it plays at the top level. -/
def role : (kind : ComponentKind) → kind.Component → Role
  | .element, _ => .element true
  | .attribute, _ => .attribute true
  | .type, t => t.role true
  | .group, _ => .group
  | .attributeGroup, _ => .attributeGroup
  | .notationDecl, _ => .notationDecl

theorem ofTopLevel?_construct (kind : ComponentKind) (x : kind.Component) :
    Role.ofTopLevel? (kind.construct x) = some (kind.role x) := by
  cases kind with
  | type => exact TypeDefinition.ofTopLevel?_construct x
  | _ => rfl

end ComponentKind

/-- The components of a schema are what is left of them when they are written
and read again. -/
structure Collection.Reproducible (c : Collection) (cx : Context) (number : Nat) : Prop where
  fixed : ∀ {kind} {id : ComponentId kind} {x}, id.schema = number → c.get? id = some x →
    Transcription.rewritten.component kind x = kind.unresolved x
  authored : ∀ {kind} {id : ComponentId kind} {x}, id.schema = number → c.get? id = some x →
    kind.Authored cx x
  encloses : ∀ {kind} {id : ComponentId kind} {x}, id.schema = number → c.get? id = some x →
    ∀ part ∈ kind.parts x, part.id.schema = number ∧
      ∃ y, c.get? part.id = some y ∧ kind.Encloses part.kind y

/-- An item of such a schema. -/
def Collection.Reproduces (c : Collection) (number : Nat) : SchemaItem → Prop
  | .note a => Transcription.rewritten.annotation a = a
  | .external e => Transcription.rewritten.common e.common = e.common ∧
      ∀ ref ∈ e.redefined, e.kind = .redefinition ∧ ref.id.schema = number ∧
        ∃ x, c.get? ref.id = some x ∧ ref.kind.TopLevel x ∧
          Role.ofRedefinition? (ref.kind.construct x) = some (ref.kind.role x)
  | .component ref => ref.id.schema = number ∧
      ∃ x, c.get? ref.id = some x ∧ ref.kind.TopLevel x

namespace ExternalRef

/-- The attributes of a written reference. -/
def pairs (e : ExternalRef) : List (String × Option String) :=
  [("namespace", if e.kind = .importation then e.namespaceName else none),
    ("schemaLocation", e.location), ("id", e.common.xmlId)]

/-- A reference of which only the attributes are known. -/
def begun (e : ExternalRef) : ExternalRef :=
  { e with redefined := [], common := { xmlId := e.common.xmlId } }

end ExternalRef

namespace Spelling

open Xml

/-- A node is read as a copy of an item. -/
def itemReadAs (c : Collection) (cx : Context) : SchemaItem → Spelling Node
  | .note a => nodeReadAs c cx .note .note (.note a)
  | .external e =>
      { Holds := fun outer node => ∃ el, node = .ofElement el ∧
          (formed c cx (.external e.kind) e.pairs (.external e.begun) (.external e)).Holds outer el
        mono := fun hw ⟨el, hnode, hel⟩ => ⟨el, hnode, (formed c cx (.external e.kind) e.pairs
          (.external e.begun) (.external e)).mono hw hel⟩ }
  | .component ref =>
      { Holds := fun outer node => ∃ x, c.get? ref.id = some x ∧
          (nodeReadAs c cx (ref.kind.construct x) (ref.kind.role x) (.component ref)).Holds outer
            node
        mono := fun hw ⟨x, hx, hnode⟩ => ⟨x, hx, (nodeReadAs c cx (ref.kind.construct x)
          (ref.kind.role x) (.component ref)).mono hw hnode⟩ }

/-- Nodes are read as copies of items, one by one. -/
def itemsReadAs (c : Collection) (cx : Context) (items : List SchemaItem) :
    Spelling (List Node) where
  Holds outer nodes := List.Forall₂ (fun i node => (itemReadAs c cx i).Holds outer node) items nodes
  mono hw h := h.imp fun i _ hnode => (itemReadAs c cx i).mono hw hnode

/-- An element is the root of a document that is read as a copy of a schema. -/
def rooted (c : Collection) (cx : Context) (s : Schema) : Spelling Element where
  Holds outer e := e.tag.is schemaNamespace "schema" = true ∧
    (∀ name, e.tag.attribute? name = Writer.valueOf? (Writer.rootAttributes s) name) ∧
    (Reader.foreignAttributes e.tag).map ForeignContent.bare =
      ((ForeignContent.attributes s.foreign).map .ofAttribute).map ForeignContent.bare ∧
    ∃ (es : List Element) (nodes : List Node), e.children = es.map Node.ofElement ++ nodes ∧
      es.map Element.bare = (ForeignContent.elements s.foreign).map Element.bare ∧
      (itemsReadAs c cx (Writer.writtenItems s.items)).Holds outer nodes
  mono hw := fun ⟨hname, hattribute, hforeign, es, nodes, hchildren, hes, hnodes⟩ =>
    ⟨hname, hattribute, hforeign, es, nodes, hchildren, hes,
      (itemsReadAs c cx (Writer.writtenItems s.items)).mono hw hnodes⟩

end Spelling

theorem Draft.role?_external {e : ExternalRef} {construct : Construct} {role : Role}
    (hkind : e.kind = .redefinition) (h : Role.ofRedefinition? construct = some role) :
    (Draft.external e).role? construct = some role := by
  cases construct with
  | note => cases h
  | _ => exact (if_pos hkind).trans h

namespace Writer

open Xml Reader Transcription

variable {cx : Context} {wcx : WriterContext} {number : Nat}
  (hkeep : cx.policy = .keep) (hwrites : wcx.policy = .keep) (hinherits : cx.inherits = false)
  (h : wcx.collection.Reproducible cx number)
include hkeep hwrites hinherits h

/-- Types that are defined in place are read as copies. -/
def CopiesTypes (cx : Context) (wcx : WriterContext) (number : Nat)
    (inline : TypeId → Writer Element) : Prop :=
  ∀ (id : TypeId) t, id.schema = number → wcx.collection.get? id = some t → t.name = none →
    Delivers (inline id) (Spelling.readAs wcx.collection cx t.construct (t.role false)
      (.component ⟨.type, id⟩)).Holds

section Parts

variable {inline : TypeId → Writer Element} (htypes : CopiesTypes cx wcx number inline)
include htypes

omit hkeep hwrites hinherits in
theorem copiesPart_type {kind : ComponentKind} {id : ComponentId kind} {x : kind.Component}
    (hid : id.schema = number) (hx : wcx.collection.get? id = some x) (hkind : kind ≠ .element)
    {part : TypeId} (hpart : ⟨.type, part⟩ ∈ kind.parts x) :
    CopiesPart cx wcx inline ⟨.type, part⟩ := by
  obtain ⟨hschema, t, ht, hname, hsimple⟩ := h.encloses hid hx _ hpart
  have hcopies := htypes part t hschema ht hname
  unfold TypeDefinition.construct TypeDefinition.role at hcopies
  rw [hsimple hkind] at hcopies
  exact hcopies

theorem copies_element {id : ElementId} {e : ElementDecl} (hid : id.schema = number)
    (he : wcx.collection.get? id = some e) {o : Occurs} (ho : o.reread = o) :
    Delivers (element wcx inline e.topLevel id) fun outer el =>
      (Spelling.readAs wcx.collection cx .element (.element e.topLevel)
        (if e.topLevel then .component ⟨.element, id⟩
          else .particle (some (.element o id)))).Holds outer (withOccurs o el) := by
  obtain ⟨hcalls, hconstraints⟩ := h.authored hid he
  refine delivers_element hkeep hwrites hinherits he (h.fixed hid he) hcalls hconstraints
    (fun inner hinner => ?_) ho
  obtain ⟨hschema, t, ht, hname, -⟩ := h.encloses hid he ⟨.type, inner⟩
    (List.mem_map_of_mem hinner)
  exact ⟨t, ht, htypes inner t hschema ht hname⟩

theorem copies_attribute {id : AttributeId} {a : AttributeDecl} (hid : id.schema = number)
    (ha : wcx.collection.get? id = some a) :
    Delivers (attributeDecl wcx inline a.topLevel id) (Spelling.readAs wcx.collection cx
      .attribute (.attribute a.topLevel) (if a.topLevel then .component ⟨.attribute, id⟩
        else .attributeItem (.attribute id))).Holds := by
  refine delivers_attributeDecl hkeep hwrites hinherits ha (h.fixed hid ha) (h.authored hid ha)
    fun part hpart => ?_
  obtain ⟨inner, hinner, rfl⟩ := List.mem_map.1 hpart
  exact copiesPart_type h htypes hid ha nofun hpart

/-- The parts of a component are read as copies when the types are. -/
theorem copiesPart {kind : ComponentKind} {id : ComponentId kind} {x : kind.Component}
    (hid : id.schema = number) (hx : wcx.collection.get? id = some x) (hkind : kind ≠ .element) :
    ∀ part ∈ kind.parts x, CopiesPart cx wcx inline part := by
  intro part hpart
  obtain ⟨hschema, y, hy, hinside⟩ := h.encloses hid hx part hpart
  obtain ⟨partKind, partId⟩ := part
  cases partKind with
  | type => exact copiesPart_type h htypes hid hx hkind hpart
  | element =>
      intro o ho
      have hcopies := copies_element hkeep hwrites hinherits h htypes hschema hy ho
      rw [show y.topLevel = false from hinside] at hcopies
      exact hcopies
  | «attribute» =>
      have hcopies := copies_attribute hkeep hwrites hinherits h htypes hschema hy
      rw [show y.topLevel = false from hinside] at hcopies
      exact hcopies
  | _ => trivial

end Parts

/-- However deeply types may be written inside each other, those that are come
out as copies. -/
theorem copiesTypes (depth : Nat) : CopiesTypes cx wcx number (inlineTypeDefinition wcx depth) := by
  induction depth with
  | zero => exact fun _ _ _ _ _ => delivers_throw _
  | succ depth ih =>
      intro id t hid ht hname
      obtain ⟨-, hshaped⟩ := h.authored hid ht
      exact delivers_typeDefinition hkeep hwrites hinherits ht (h.fixed hid ht)
        (fun n hn => by rw [hname] at hn; cases hn) hshaped
        (copiesPart hkeep hwrites hinherits h ih hid ht nofun)

/-- A component at the top level is read as a copy of itself. -/
theorem copies_component {depth : Nat} {ref : ComponentRef} {x : ref.kind.Component}
    (hid : ref.id.schema = number) (hx : wcx.collection.get? ref.id = some x)
    (htop : ref.kind.TopLevel x) :
    Delivers (component wcx (inlineTypeDefinition wcx depth) ref) (Spelling.readAs wcx.collection
      cx (ref.kind.construct x) (ref.kind.role x) (.component ref)).Holds := by
  have htypes := copiesTypes hkeep hwrites hinherits h depth
  have hauthored := h.authored hid hx
  have hfixed := h.fixed hid hx
  have hparts := copiesPart hkeep hwrites hinherits h htypes hid hx
  obtain ⟨kind, id⟩ := ref
  cases kind with
  | element =>
      have hcopies := copies_element hkeep hwrites hinherits h htypes hid hx
        (o := {}) rfl
      rw [show x.topLevel = true from htop] at hcopies
      exact hcopies
  | «attribute» =>
      have hcopies := copies_attribute hkeep hwrites hinherits h htypes hid hx
      rw [show x.topLevel = true from htop] at hcopies
      exact hcopies
  | type =>
      exact delivers_typeDefinition hkeep hwrites hinherits hx hfixed
        (fun n hn => ⟨rfl, hauthored.1 n hn⟩) hauthored.2 (hparts nofun)
  | group =>
      exact delivers_group hkeep hwrites hinherits hx hfixed hauthored.1 hauthored.2 (hparts nofun)
  | attributeGroup =>
      exact delivers_attributeGroup hkeep hwrites hinherits hx hfixed hauthored (hparts nofun)
  | notationDecl => exact delivers_notationDecl hkeep hwrites hx hfixed hauthored

/-- The definitions of a redefinition are read as copies of themselves. -/
theorem delivers_external {depth : Nat} {e : ExternalRef}
    (he : wcx.collection.Reproduces number (.external e)) :
    Delivers (external wcx (inlineTypeDefinition wcx depth) e) (Spelling.formed wcx.collection cx
      (.external e.kind) e.pairs (.external e.begun) (.external e)).Holds := by
  obtain ⟨hcommon, hredefined⟩ := he
  have hname : Construct.ofLocalName? e.kind.localName = some (.external e.kind) := by
    cases e.kind <;> rfl
  have hinner : Delivers (each (componentNode wcx (inlineTypeDefinition wcx depth)) e.redefined)
      (Spelling.adds wcx.collection cx (.external { e with redefined := [] })
        (.external e)).Holds := by
    refine delivers_each (fun redefined => .external { e with redefined })
      (fun before ref href => ?_) []
    obtain ⟨hkind, hid, x, hx, htop, hrole⟩ := hredefined ref href
    exact (copies_component hkeep hwrites hinherits h hid hx htop).asNode.taken
      (Draft.role?_external hkind hrole) rfl
  exact delivers_construct hkeep hwrites hname hcommon
    (Draft.dress_of (fun common => .external { e with redefined := [], common })
      (fun _ _ => rfl) (fun _ _ => rfl) e.common) nofun rfl hinner

/-- An item is read as a copy of itself. -/
theorem delivers_item {depth : Nat} {i : SchemaItem} (hi : wcx.collection.Reproduces number i) :
    Delivers (item wcx (inlineTypeDefinition wcx depth) i)
      (Spelling.itemReadAs wcx.collection cx i).Holds := by
  cases i with
  | note a => exact delivers_annotationNode hkeep hwrites hi
  | external e =>
      exact Delivers.map ((delivers_external hkeep hwrites hinherits h hi).mono
        fun _ el he => ⟨el, rfl, he⟩)
  | component ref =>
      obtain ⟨hid, x, hx, htop⟩ := hi
      exact (copies_component hkeep hwrites hinherits h hid hx htop).asNode.mono
        fun _ _ hnode => ⟨x, hx, hnode⟩

theorem delivers_items {depth : Nat} {items : List SchemaItem}
    (hitems : ∀ i ∈ items, wcx.collection.Reproduces number i) :
    Delivers (each (item wcx (inlineTypeDefinition wcx depth)) items)
      (Spelling.itemsReadAs wcx.collection cx items).Holds := by
  induction items with
  | nil => exact delivers_pure fun _ => .nil
  | cons i rest ih =>
      obtain ⟨hi, hrest⟩ := List.forall_mem_cons.1 hitems
      exact (delivers_item hkeep hwrites hinherits h hi).bind fun node =>
        Delivers.map ((ih hrest).mono fun _ _ hnodes hnode => .cons hnode hnodes)

/-- The root of a document is written with the settings and the foreign content
of its schema, and then with its items. -/
theorem delivers_root (hforeign : ForeignContent.reread wcx.schema.foreign = wcx.schema.foreign)
    (hitems : ∀ i ∈ wcx.schema.items, wcx.collection.Reproduces number i) :
    Delivers (root wcx) (Spelling.rooted wcx.collection cx wcx.schema).Holds := by
  have hwritten : ∀ i ∈ writtenItems wcx.schema.items, wcx.collection.Reproduces number i := by
    intro i hi
    refine hitems i ?_
    rcases List.mem_append.1 hi with hi | hi <;> exact List.mem_of_mem_filter hi
  refine (delivers_tag _ _).bind fun t => (delivers_foreign hwrites hforeign).bind fun content =>
    Delivers.map ((delivers_items hkeep hwrites hinherits h hwritten).mono ?_)
  rintro outer items hnodes ⟨hattributes, es, hes, helements⟩ ⟨hname, hdeclared, hown⟩
  have hmore : ({ t with attributes := t.attributes ++ content.1 } : Tag).attributes =
      attributesOf (rootAttributes wcx.schema) ++ content.1 := by rw [hown]
  obtain ⟨hproper, hcontents⟩ := foreignAttributes_written hmore
    (fun a ha => ForeignContent.attributes_proper ha) hattributes
  exact ⟨hname, attribute?_attributesOf hmore hproper, hcontents, es, items, by rw [hes],
    helements, hnodes⟩

end Writer

end XmlSchema
