import XmlSchema.Proofs.Document.Facsimile
import XmlSchema.Proofs.Document.Grounding
import XmlSchema.Proofs.Document.Titling

/-!
# What is read from a document can be written

If the names that a document refers to have local parts without blanks and
colons, then whatever is read from it is what is left of it when it is written
and read again.  Its components bear names that attributes can say, its
particles stand where there is a place for them, and what is defined in place is
local and, if it is a type, nameless.
-/

namespace XmlSchema

open Attempt

namespace Xml.Tag

/-- The attributes that refer to one component. -/
def references : List String :=
  ["ref", "type", "base", "itemType", "substitutionGroup", "refer"]

/-- The names that a construct refers to can be told from their tokens. -/
structure Lexical (t : Tag) : Prop where
  reference : ∀ label ∈ references, ∀ token ∈ t.attribute? label,
    Text.Plain (splitPrefixed token).2
  member : ∀ token ∈ Text.words ((t.attribute? "memberTypes").getD ""),
    Text.Plain (splitPrefixed token).2 ∧ (splitPrefixed token).2 ≠ ""

instance (t : Tag) : Decidable t.Lexical :=
  decidable_of_iff ((∀ label ∈ references, ∀ token ∈ t.attribute? label,
      Text.Plain (splitPrefixed token).2) ∧
    ∀ token ∈ Text.words ((t.attribute? "memberTypes").getD ""),
      Text.Plain (splitPrefixed token).2 ∧ (splitPrefixed token).2 ≠ "")
    ⟨fun h => ⟨h.1, h.2⟩, fun h => ⟨h.reference, h.member⟩⟩

end Xml.Tag

namespace Xml.Node

variable {P Q : Xml.Tag → Prop}

mutual

theorem Every.and : ∀ {node : Node}, node.Every P → node.Every Q → node.Every fun t => P t ∧ Q t
  | .text _, _, _ => by
      unfold Every
      trivial
  | .comment _, _, _ => by
      unfold Every
      trivial
  | .element tag kids, hp, hq => by
      unfold Every at hp hq ⊢
      split
      · trivial
      · trivial
      · rename_i hc
        rw [hc] at hp hq
        exact ⟨hp, hq⟩
      · rename_i construct hremark hc
        rw [hc] at hp hq
        have hp : P tag ∧ EveryIn P kids := by
          cases construct <;> first | exact hp | exact absurd rfl (hremark _)
        have hq : Q tag ∧ EveryIn Q kids := by
          cases construct <;> first | exact hq | exact absurd rfl (hremark _)
        exact ⟨⟨hp.1, hq.1⟩, EveryIn.and hp.2 hq.2⟩

theorem EveryIn.and : ∀ {nodes : List Node}, EveryIn P nodes → EveryIn Q nodes →
    EveryIn (fun t => P t ∧ Q t) nodes
  | [], _, _ => by
      unfold EveryIn
      trivial
  | _ :: _, hp, hq => by
      unfold EveryIn at hp hq ⊢
      exact ⟨Every.and hp.1 hq.1, EveryIn.and hp.2 hq.2⟩

end

section Decidable

variable (P) [DecidablePred P]

mutual

/-- Whether every construct in a node has a property can be decided. -/
def decideEvery : (node : Node) → Decidable (Every P node)
  | .text _ => .isTrue trivial
  | .comment _ => .isTrue trivial
  | .element tag kids =>
      have := decideEveryIn kids
      by
        unfold Every
        split <;> infer_instance

/-- Whether every construct in some nodes has a property can be decided. -/
def decideEveryIn : (nodes : List Node) → Decidable (EveryIn P nodes)
  | [] => .isTrue trivial
  | node :: rest =>
      have := decideEvery node
      have := decideEveryIn rest
      inferInstanceAs (Decidable (Every P node ∧ EveryIn P rest))

end

instance (nodes : List Node) : Decidable (EveryIn P nodes) := decideEveryIn P nodes

end Decidable

end Xml.Node

/-- All constructs of a document refer to names that can be told from tokens. -/
structure Xml.Element.Lexical (e : Xml.Element) : Prop where
  tag : e.tag.Lexical
  children : Xml.Node.EveryIn Xml.Tag.Lexical e.children

instance (e : Xml.Element) : Decidable e.Lexical :=
  decidable_of_iff (e.tag.Lexical ∧ Xml.Node.EveryIn Xml.Tag.Lexical e.children)
    ⟨fun h => ⟨h.1, h.2⟩, fun h => ⟨h.tag, h.children⟩⟩

namespace Components

variable {cs later : Components} {P Q : (kind : ComponentKind) → kind.Component → Prop}
  {ref : ComponentRef}

/-- A component is there and has a property. -/
def Holds (cs : Components) (P : (kind : ComponentKind) → kind.Component → Prop)
    (ref : ComponentRef) : Prop :=
  ∃ x, cs.get? ref.id = some x ∧ P ref.kind x

theorem Holds.mono (h : cs.Holds P ref) (hPQ : ∀ kind x, P kind x → Q kind x) : cs.Holds Q ref := by
  obtain ⟨x, hx, hP⟩ := h
  exact ⟨x, hx, hPQ _ x hP⟩

theorem Holds.extend (h : cs.Holds P ref) (hcs : cs.Extends later)
    (hP : ∀ kind x y, kind.unresolved y = kind.unresolved x → P kind x → P kind y) :
    later.Holds P ref := by
  obtain ⟨x, hx, hPx⟩ := h
  obtain ⟨y, hy, hyx⟩ := hcs ref.kind ref.id.index x hx
  exact ⟨y, hy, hP _ x y hyx hPx⟩

end Components

/-- A part that only stands inside of something else than an element. -/
def Role.Inner : Role → Prop
  | .element topLevel => topLevel = false
  | .attribute topLevel => topLevel = false
  | .simpleType named => named = false
  | .complexType _ => False
  | _ => True

theorem Role.inner_of_ofContent? {construct : Construct} {inner : Role}
    (h : ofContent? construct = some inner) : inner.Inner := by
  cases construct <;> cases h <;> first | rfl | trivial

theorem TypeDefinition.named_of_role {named named' : Bool} (t : TypeDefinition)
    (h : Role.complexType named' = t.role named) : named = named' := by
  unfold role at h
  split at h <;> cases h
  rfl

namespace ComponentKind

/-- A component is what a construct in some part defines. -/
def Fills (role : Role) : (kind : ComponentKind) → kind.Component → Prop
  | .element, e => role = .element e.topLevel
  | .attribute, a => role = .attribute a.topLevel
  | .type, t => ∃ named, role = t.role named ∧ (named = false → t.name = none)
  | .group, _ => role = .group
  | .attributeGroup, _ => role = .attributeGroup
  | .notationDecl, _ => role = .notationDecl

/-- A component is what a redefinition can hold. -/
def Redefines (kind : ComponentKind) (x : kind.Component) : Prop :=
  kind.TopLevel x ∧ Role.ofRedefinition? (kind.construct x) = some (kind.role x)

variable {role : Role} {whole kind : ComponentKind} {x y : kind.Component}

theorem Fills.congr (h : kind.unresolved y = kind.unresolved x) (hx : kind.Fills role x) :
    kind.Fills role y := by
  cases kind with
  | element => exact hx.trans (congrArg Role.element (congrArg ElementDecl.topLevel h).symm)
  | «attribute» => exact hx.trans (congrArg Role.attribute (congrArg AttributeDecl.topLevel h).symm)
  | type =>
      cases (show y = x from h)
      exact hx
  | _ => exact hx

theorem Encloses.congr (h : kind.unresolved y = kind.unresolved x) (hx : whole.Encloses kind x) :
    whole.Encloses kind y := by
  cases kind with
  | element => exact (congrArg ElementDecl.topLevel h).trans hx
  | «attribute» => exact (congrArg AttributeDecl.topLevel h).trans hx
  | type =>
      cases (show y = x from h)
      exact hx
  | _ => exact hx

theorem Redefines.congr (h : kind.unresolved y = kind.unresolved x) (hx : kind.Redefines x) :
    kind.Redefines y := by
  cases kind with
  | element => cases hx.2
  | «attribute» => cases hx.2
  | type =>
      cases (show y = x from h)
      exact hx
  | _ => exact hx

/-- What plays a part inside of something else can be defined in place there. -/
theorem Fills.encloses (h : kind.Fills role x) (hrole : role.Inner) :
    Encloses .type kind x := by
  cases kind with
  | element | «attribute» =>
      cases h
      exact hrole
  | type =>
      obtain ⟨named, rfl, hname⟩ := h
      unfold TypeDefinition.role at hrole
      cases hsimple : x.isSimple with
      | false =>
          rw [hsimple] at hrole
          exact hrole.elim
      | true =>
          rw [hsimple] at hrole
          exact ⟨hname hrole, fun _ => hsimple⟩
  | _ => trivial

theorem Fills.redefines {construct : Construct}
    (hrole : Role.ofRedefinition? construct = some role) (h : kind.Fills role x) :
    kind.Redefines x := by
  cases kind with
  | element | «attribute» | notationDecl =>
      cases h
      cases construct <;> cases hrole
  | type => exact ⟨trivial, TypeDefinition.ofRedefinition?_construct x⟩
  | group | attributeGroup => exact ⟨trivial, rfl⟩

theorem not_fills_note : ¬ kind.Fills .note x := by
  intro h
  cases kind with
  | type =>
      obtain ⟨named, h, -⟩ := h
      unfold TypeDefinition.role at h
      split at h <;> cases h
  | _ => cases h

/-- What can be defined in place inside a type can be so inside anything. -/
theorem Encloses.of_type (h : Encloses .type kind x) (whole : ComponentKind) :
    whole.Encloses kind x := by
  cases kind with
  | type => exact ⟨h.1, fun _ => h.2 (by decide)⟩
  | _ => exact h

end ComponentKind

namespace Draft

/-- A draft plays a part. -/
def Plays (role : Role) : Draft → Prop
  | .external _ => False
  | .simpleType t => t.isSimple = true ∧
      ∃ named, role = .simpleType named ∧ (named = false → t.name = none)
  | .complexType t _ _ _ => ∃ named, role = .complexType named ∧ (named = false → t.name = none)
  | .compositor _ c _ _ => role = .compositor c
  | .groupRef _ _ => role = .groupRef
  | .any _ _ => role = .any
  | .element _ e => role = .element e.topLevel
  | .attribute a => role = .attribute a.topLevel
  | .group _ => role = .group
  | .attributeGroup _ => role = .attributeGroup
  | .notationDecl _ => role = .notationDecl
  | _ => True

/-- What a draft is called can be said by its attributes, and its particles
stand where they can. -/
def Authored (cx : Context) : Draft → Prop
  | .external e => e.Plain
  | .simpleType t => ∀ n, t.name = some n → cx.Qualifies n
  | .complexType t _ direct model => (∀ n, t.name = some n → cx.Qualifies n) ∧ direct.Shaped ∧
      ∀ m, model = some m → m.content.Shaped
  | .simpleContent c => (ContentModel.simple c).content.Shaped
  | .complexContent c => (ContentModel.complex c).content.Shaped
  | .derivation d => d.content.Shaped
  | .element _ e => ComponentKind.Authored cx .element e
  | .attribute a => ComponentKind.Authored cx .attribute a
  | .group g => ComponentKind.Authored cx .group g
  | .attributeGroup g => ComponentKind.Authored cx .attributeGroup g
  | .notationDecl n => ComponentKind.Authored cx .notationDecl n
  | .constraint c => cx.Qualifies c.name
  | _ => True

/-- What can be defined in place inside of a draft. -/
def Takes : Draft → (kind : ComponentKind) → kind.Component → Prop
  | .external e => fun kind x => e.kind = .redefinition ∧ kind.Redefines x
  | .element _ _ => ComponentKind.Encloses .element
  | _ => ComponentKind.Encloses .type

end Draft

/-- What a part is called can be said by attributes, and its particles stand
where they can. -/
def Part.Authored (cx : Context) (role : Role) : Part → Prop
  | .model m => m.content.Shaped
  | .derivation d => d.content.Shaped
  | .particle p => ∀ x, p = some x → x.role = role
  | .constraint c => cx.Qualifies c.name
  | _ => True

section Adoption

variable {cx : Context} {role inner : Role} {d : Draft} {p : Part} {construct : Construct}

theorem Draft.Plays.mapCommon (f : Common → Common) (h : d.Plays role) :
    (d.mapCommon f).Plays role := by
  cases d <;> exact h

theorem Draft.Plays.adopt (p : Part) (h : d.Plays role) : (d.adopt p).Plays role := by
  fun_cases Draft.adopt d p
  case case1 a => cases d <;> exact h
  case case4 t v => exact ⟨rfl, h.2⟩
  all_goals exact h

theorem Draft.Authored.mapCommon (f : Common → Common) (h : d.Authored cx) :
    (d.mapCommon f).Authored cx := by
  cases d with
  | external e => exact ⟨h.location, h.namespaceName⟩
  | _ => exact h

theorem Draft.takes_adopt (d : Draft) (p : Part) : (d.adopt p).Takes = d.Takes := by
  fun_cases Draft.adopt d p
  case case1 a => cases d <;> rfl
  all_goals rfl

theorem Draft.takes_mapCommon (f : Common → Common) (d : Draft) :
    (d.mapCommon f).Takes = d.Takes := by
  cases d <;> rfl

/-- A particle that a content takes can stand there. -/
theorem Content.Shaped.adopt {c : Content} (h : c.Shaped)
    (hp : ∀ x, p = .particle (some x) → x.Compound) : (c.adopt p).Shaped := by
  cases p with
  | particle p =>
      rintro x hx
      exact hp x (congrArg Part.particle hx)
  | _ => exact h

theorem Content.shaped_empty : ({} : Content).Shaped := by
  intro p hp
  cases hp

theorem Draft.Authored.adopt (h : d.Authored cx) (hrole : d.role? construct = some inner)
    (hp : p.Authored cx inner) : (d.adopt p).Authored cx := by
  -- a particle outside of compositors is a compositor or refers to a group
  have hcompound : ∀ x, p = .particle (some x) → inner ≠ .element false → inner ≠ .any →
      x.Compound := by
    rintro x rfl helement hany
    have hx : x.role = inner := hp x rfl
    cases x with
    | element => exact absurd hx.symm helement
    | any => exact absurd hx.symm hany
    | _ => trivial
  fun_cases Draft.adopt d p
  case case1 a =>
      cases d with
      | external e => exact ⟨h.location, h.namespaceName⟩
      | _ => exact h
  case case3 => exact ⟨h.location, h.namespaceName⟩
  case case5 => exact ⟨h.1, h.2.1, fun m hm => Option.some.inj hm ▸ hp⟩
  case case6 t c direct model _ _ =>
      refine ⟨h.1, h.2.1.adopt fun x hx => hcompound x hx ?_ ?_, h.2.2⟩ <;> rintro rfl <;>
        cases construct <;> cases hrole
  case case15 _ _ _ _ =>
      refine Content.Shaped.adopt h fun x hx => hcompound x hx ?_ ?_ <;> rintro rfl <;>
        cases construct <;> cases hrole
  case case11 | case12 => exact hp
  case case18 o e c =>
      refine ⟨h.1, fun k hk => ?_⟩
      rcases List.mem_append.1 hk with hk | hk
      · exact h.2 k hk
      · rw [List.mem_singleton.1 hk]
        exact hp
  case case20 g p =>
      refine ⟨h.1, ?_⟩
      rintro x rfl
      have hx : x.role = inner := hp x rfl
      cases construct <;> cases hrole <;> cases x <;> cases hx
      exact ⟨_, _, _, _, rfl⟩
  all_goals exact h

end Adoption

section Names

variable {cx : Context} {scope : Scope} {t : Xml.Tag} {token label : String} {name : QName}

theorem QName.reread_of_plain (h : Text.Plain name.localName) : name.reread = name := if_pos h

theorem Context.localName_of_resolve (h : cx.resolve scope token = .ok name)
    (htoken : Text.Plain (splitPrefixed token).2) : name.localName = (splitPrefixed token).2 := by
  have htrim : Text.trim (splitPrefixed token).2 = (splitPrefixed token).2 :=
    Text.trim_of_unblank fun c hc => (htoken c hc).1
  unfold Context.resolve at h
  generalize splitPrefixed token = parts at h htrim ⊢
  dsimp only at h
  split at h
  · cases h
  · cases h
    split
    · exact htrim
    · rfl

theorem Xml.Tag.Lexical.reread_of_resolve (ht : t.Lexical) (hlabel : label ∈ Xml.Tag.references)
    (htoken : t.attribute? label = some token) (h : cx.resolve scope token = .ok name) :
    name.reread = name := by
  have hplain := ht.reference label hlabel token htoken
  exact QName.reread_of_plain (Context.localName_of_resolve h hplain ▸ hplain)

/-- So is a name whose attribute may be missing. -/
theorem Xml.Tag.Lexical.reread_of_token (ht : t.Lexical) (hlabel : label ∈ Xml.Tag.references)
    (h : cx.resolve scope ((t.attribute? label).getD "") = .ok name) : name.reread = name := by
  cases htoken : t.attribute? label with
  | some token => exact ht.reread_of_resolve hlabel htoken (htoken ▸ h)
  | none =>
      rw [htoken] at h
      have hplain : Text.Plain (splitPrefixed "").2 := by decide
      exact QName.reread_of_plain (Context.localName_of_resolve h hplain ▸ hplain)

theorem Xml.Tag.Lexical.reread_of_resolve? (ht : t.Lexical) (hlabel : label ∈ Xml.Tag.references)
    {name : Option QName} (h : cx.resolve? scope (t.attribute? label) = .ok name) :
    name.map QName.reread = name := by
  cases htoken : t.attribute? label with
  | none =>
      rw [htoken] at h
      cases h
      rfl
  | some token =>
      rw [htoken] at h
      have h : (cx.resolve scope token).map some = .ok name := h
      cases hname : cx.resolve scope token with
      | error e =>
          rw [hname] at h
          cases h
      | ok n =>
          rw [hname] at h
          cases h
          exact congrArg some (ht.reread_of_resolve hlabel htoken hname)

theorem Context.rereadAll_of_resolveAll {tokens : List String} {names : List QName}
    (htokens : ∀ token ∈ tokens,
      Text.Plain (splitPrefixed token).2 ∧ (splitPrefixed token).2 ≠ "")
    (h : cx.resolveAll scope tokens = .ok names) : QName.rereadAll names = names := by
  refine List.filter_eq_self.2 ?_
  induction tokens generalizing names with
  | nil =>
      cases h
      exact nofun
  | cons token rest ih =>
      obtain ⟨n, hn, h⟩ := bind_eq_ok_iff.1 h
      obtain ⟨more, hmore, h⟩ := bind_eq_ok_iff.1 h
      cases h
      obtain ⟨hfirst, hrest⟩ := List.forall_mem_cons.1 htokens
      refine List.forall_mem_cons.2 ⟨?_, ih hrest hmore⟩
      rw [decide_eq_true_eq, Context.localName_of_resolve hn hfirst.1]
      exact hfirst

theorem Context.qualifies_qualify (cx : Context) (localName : String) :
    cx.Qualifies (cx.qualify localName) := by
  show (⟨_, Text.trim (Text.trim localName)⟩ : QName) = _
  rw [Text.trim_trim]
  rfl

theorem Context.qualifies_of_map {text : Option String} :
    ∀ n, text.map cx.qualify = some n → cx.Qualifies n := by
  intro n hn
  obtain ⟨localName, -, rfl⟩ := Option.map_eq_some_iff.1 hn
  exact cx.qualifies_qualify localName

/-- The attributes of a declaration say how it is called. -/
theorem Xml.Tag.Lexical.calls (ht : t.Lexical) {topLevel : Bool} {form : Form}
    {naming : Option QName × Option QName}
    (h : Role.declaredName cx scope t topLevel form = .ok naming) :
    cx.Calls topLevel form naming.2 naming.1 ∧ naming.2.map QName.reread = naming.2 := by
  unfold Role.declaredName at h
  cases topLevel with
  | true =>
      cases h
      exact ⟨⟨rfl, Context.qualifies_of_map⟩, rfl⟩
  | false =>
      cases htoken : t.attribute? "ref" with
      | some token =>
          rw [htoken] at h
          obtain ⟨target, htarget, h⟩ := bind_eq_ok_iff.1 h
          cases h
          exact ⟨⟨fun _ => rfl, nofun⟩, congrArg some
            (ht.reread_of_resolve (by decide) htoken htarget)⟩
      | none =>
          rw [htoken] at h
          cases h
          refine ⟨⟨nofun, fun n hn => ?_⟩, rfl⟩
          obtain ⟨localName, -, rfl⟩ := Option.map_eq_some_iff.1 hn
          cases form with
          | qualified => exact cx.qualifies_qualify localName
          | unqualified =>
              show QName.ofLocal (Text.trim (Text.trim localName)) = _
              rw [Text.trim_trim]
              rfl

theorem Xml.Tag.Lexical.slot (ht : t.Lexical) {slot : TypeSlot}
    (h : Role.declaredType cx scope t = .ok slot) : Transcription.rewritten.slot slot = slot := by
  unfold Role.declaredType at h
  cases htoken : t.attribute? "type" with
  | none =>
      rw [htoken] at h
      cases h
      rfl
  | some token =>
      rw [htoken] at h
      obtain ⟨n, hn, h⟩ := bind_eq_ok_iff.1 h
      cases h
      exact congrArg (TypeSlot.named · none) (ht.reread_of_resolve (by decide) htoken hn)

theorem Xml.Tag.Lexical.constraintKind (ht : t.Lexical) {construct : Construct}
    {kind : ConstraintKind} (h : Role.constraintKind cx scope t construct = .ok kind) :
    Transcription.rewritten.constraintKind kind = kind := by
  unfold Role.constraintKind at h
  split at h
  · obtain ⟨refer, hrefer, h⟩ := bind_eq_ok_iff.1 h
    cases h
    exact congrArg ConstraintKind.keyref (ht.reread_of_token (by decide) hrefer)
  · cases h
    rfl
  · cases h
    rfl

end Names

namespace Reader

open Transcription

variable {cx : Context} {scope : Scope} {t : Xml.Tag} {kids : List Xml.Node} {role : Role}
  {d : Draft}

theorem reread_derivationSet (t : Xml.Tag) (name : String) :
    (derivationSet t name).reread = derivationSet t name :=
  (Control.normal_derivationSet t name).reread_eq

theorem qualifies_of_named {named : Bool} {text : Option String} {n : QName}
    (h : (if named then text.map cx.qualify else none) = some n) : cx.Qualifies n := by
  cases named with
  | false => cases h
  | true => exact Context.qualifies_of_map n h

/-- A draft without foreign content that is what is left of it when it is
written and read again. -/
structure Fresh (d : Draft) : Prop where
  fixed : rewritten.draft d = d
  foreignless : d.mapCommon (fun common => { common with foreign := [] }) = d

theorem openElement_fresh (ht : t.Lexical) {topLevel : Bool} {e : ElementDecl}
    (h : Role.openElement cx scope t topLevel = .ok e) :
    rewritten.elementDecl e = e ∧ { e with common := { e.common with foreign := [] } } = e ∧
      ComponentKind.Authored cx .element e ∧ topLevel = e.topLevel := by
  obtain ⟨group, hgroup, h⟩ := bind_eq_ok_iff.1 h
  obtain ⟨naming, hnaming, h⟩ := bind_eq_ok_iff.1 h
  obtain ⟨slot, hslot, h⟩ := bind_eq_ok_iff.1 h
  cases h
  have hgroup := ht.reread_of_resolve? (by decide) hgroup
  obtain ⟨hcalls, href⟩ := ht.calls hnaming
  have hslot := ht.slot hslot
  refine ⟨?_, rfl, ⟨hcalls, fun _ hk => by cases hk⟩, rfl⟩
  unfold rewritten at hslot ⊢
  simp only [elementDecl, hgroup, href, hslot, reread_derivationSet]
  rfl

theorem openAttribute_fresh (ht : t.Lexical) {topLevel : Bool} {a : AttributeDecl}
    (h : Role.openAttribute cx scope t topLevel = .ok a) :
    rewritten.attributeDecl a = a ∧ { a with common := { a.common with foreign := [] } } = a ∧
      ComponentKind.Authored cx .attribute a ∧ topLevel = a.topLevel := by
  obtain ⟨naming, hnaming, h⟩ := bind_eq_ok_iff.1 h
  obtain ⟨slot, hslot, h⟩ := bind_eq_ok_iff.1 h
  cases h
  obtain ⟨hcalls, href⟩ := ht.calls hnaming
  have hslot := ht.slot hslot
  refine ⟨?_, rfl, hcalls, rfl⟩
  unfold rewritten at hslot ⊢
  simp only [attributeDecl, href, hslot]
  rfl

theorem opening_fresh (ht : t.Lexical) (h : role.opening cx scope t kids = .ok (.draft d)) :
    Fresh d ∧ d.Authored cx ∧ d.Plays role := by
  cases role with
  | note | simpleContent | complexContent | selector | field | facet | anyAttribute =>
      cases h
      exact ⟨⟨rfl, rfl⟩, by first | trivial | exact Content.shaped_empty, trivial⟩
  | compositor | any =>
      cases h
      exact ⟨⟨by simp only [draft, rewritten, Occurs.reread_parse]; rfl, rfl⟩, trivial, rfl⟩
  | remark audience => cases audience <;> cases h
  | simpleType named =>
      cases h
      refine ⟨⟨?_, rfl⟩, fun n hn => qualifies_of_named hn, rfl, named, rfl, ?_⟩
      · simp only [draft, typeDefinition, rewritten, reread_derivationSet]
        rfl
      · rintro rfl
        rfl
  | complexType named =>
      cases h
      refine ⟨⟨?_, rfl⟩, ⟨fun n hn => qualifies_of_named hn, Content.shaped_empty,
        fun _ hm => by cases hm⟩, named, rfl, ?_⟩
      · simp only [draft, typeDefinition, complexType, rewritten, reread_derivationSet]
        rfl
      · rintro rfl
        rfl
  | restriction =>
      obtain ⟨base, hbase, h⟩ := bind_eq_ok_iff.1 h
      cases h
      have hbase := ht.reread_of_resolve? (by decide) hbase
      refine ⟨⟨?_, rfl⟩, trivial, trivial⟩
      simp only [draft, restriction, rewritten, hbase]
      rfl
  | list =>
      obtain ⟨itemType, hitem, h⟩ := bind_eq_ok_iff.1 h
      cases h
      have hitem := ht.reread_of_resolve? (by decide) hitem
      refine ⟨⟨?_, rfl⟩, trivial, trivial⟩
      simp only [draft, list, rewritten, hitem]
      rfl
  | union =>
      obtain ⟨names, hnames, h⟩ := bind_eq_ok_iff.1 h
      cases h
      have hnames := Context.rereadAll_of_resolveAll ht.member hnames
      refine ⟨⟨?_, rfl⟩, trivial, trivial⟩
      simp only [draft, union, rewritten, hnames]
      rfl
  | derivation step =>
      obtain ⟨base, hbase, h⟩ := bind_eq_ok_iff.1 h
      cases h
      have hbase := ht.reread_of_resolve? (by decide) hbase
      refine ⟨⟨?_, rfl⟩, Content.shaped_empty, trivial⟩
      simp only [draft, derivation, rewritten, hbase]
      rfl
  | groupRef =>
      simp only [Role.opening] at h
      split at h
      · cases h
      · rename_i token htoken
        obtain ⟨target, htarget, h⟩ := bind_eq_ok_iff.1 h
        cases h
        have htarget := ht.reread_of_resolve (by decide) htoken htarget
        refine ⟨⟨?_, rfl⟩, trivial, rfl⟩
        simp only [draft, groupRef, rewritten, htarget, Occurs.reread_parse]
        rfl
  | attributeGroupRef =>
      simp only [Role.opening] at h
      split at h
      · cases h
      · rename_i token htoken
        obtain ⟨target, htarget, h⟩ := bind_eq_ok_iff.1 h
        cases h
        have htarget := ht.reread_of_resolve (by decide) htoken htarget
        refine ⟨⟨?_, rfl⟩, trivial, trivial⟩
        simp only [draft, attributeGroupRef, rewritten, htarget]
        rfl
  | element topLevel =>
      obtain ⟨e, he, h⟩ := bind_eq_ok_iff.1 h
      cases h
      obtain ⟨hfixed, hforeign, hauthored, rfl⟩ := openElement_fresh ht he
      refine ⟨⟨?_, congrArg (Draft.element _) hforeign⟩, hauthored, rfl⟩
      simp only [draft, hfixed]
      rw [show rewritten.occurs _ = _ from Occurs.reread_parse _ _]
  | «attribute» topLevel =>
      obtain ⟨a, ha, h⟩ := bind_eq_ok_iff.1 h
      cases h
      obtain ⟨hfixed, hforeign, hauthored, rfl⟩ := openAttribute_fresh ht ha
      exact ⟨⟨congrArg Draft.attribute hfixed, congrArg Draft.attribute hforeign⟩, hauthored, rfl⟩
  | group =>
      cases h
      exact ⟨⟨rfl, rfl⟩, ⟨Context.qualifies_of_map, fun _ hp => by cases hp⟩, rfl⟩
  | attributeGroup | notationDecl =>
      cases h
      exact ⟨⟨rfl, rfl⟩, Context.qualifies_of_map, rfl⟩
  | constraint construct =>
      obtain ⟨kind, hkind, h⟩ := bind_eq_ok_iff.1 h
      cases h
      have hkind := ht.constraintKind hkind
      refine ⟨⟨?_, rfl⟩, cx.qualifies_qualify _, trivial⟩
      simp only [draft, constraint, hkind]
      rfl

end Reader

namespace Draft

variable {cx : Context} {role inner : Role} {d : Draft} {construct : Construct}
  {kind : ComponentKind} {x y : kind.Component}

theorem Takes.congr (h : kind.unresolved y = kind.unresolved x) (hx : d.Takes kind x) :
    d.Takes kind y := by
  cases d with
  | external e => exact ⟨hx.1, hx.2.congr h⟩
  | _ => exact ComponentKind.Encloses.congr h hx

/-- Nothing but a redefinition demands more of what it holds than a type does of
what is defined in place in it. -/
theorem takes_of_encloses (hexternal : ∀ e, d ≠ .external e)
    (h : ComponentKind.Encloses .type kind x) : d.Takes kind x := by
  cases d with
  | external e => exact absurd rfl (hexternal e)
  | element => exact h.of_type .element
  | _ => exact h

theorem inner_of_role? (hexternal : ∀ e, d ≠ .external e) (helement : ∀ o e, d ≠ .element o e)
    (h : d.role? construct = some inner) : inner.Inner := by
  unfold Draft.role? at h
  split at h
  case h_2 => exact absurd rfl (hexternal _)
  all_goals try split at h
  all_goals
    first
    | exact Role.inner_of_ofContent? h
    | cases h <;> first | rfl | trivial | exact absurd rfl (helement _ _)

/-- A component that plays a part in a draft can be defined in place there. -/
theorem takes_of_fills (hrole : d.role? construct = some inner) (h : kind.Fills inner x) :
    d.Takes kind x := by
  cases d with
  | external e =>
      by_cases hnote : construct = .note
      · subst hnote
        cases hrole
        exact absurd h ComponentKind.not_fills_note
      · simp [Draft.role?] at hrole
        exact ⟨hrole.1, h.redefines hrole.2⟩
  | element o e =>
      by_cases htype : construct = .complexType
      · subst htype
        cases hrole
        cases kind with
        | element | «attribute» => cases h
        | type =>
            obtain ⟨named, hnamed, hname⟩ := h
            exact ⟨hname (x.named_of_role hnamed), fun hne => absurd rfl hne⟩
        | _ => trivial
      · refine (h.encloses ?_).of_type .element
        cases construct <;> cases hrole <;> first | rfl | trivial
  | _ => exact h.encloses (inner_of_role? (fun _ h => by cases h) (fun _ _ h => by cases h) hrole)

end Draft

/-- A draft before its children are read: it carries foreign attributes at most. -/
structure Draft.Begun (cx : Context) (role : Option Role) (d : Draft) : Prop where
  dressed : ∃ (bare : Draft) (as : List Xml.Attribute), Reader.Fresh bare ∧
    (∀ a ∈ as, a.name.namespaceName ≠ "") ∧
    d = bare.mapCommon fun common => { common with foreign := as.map .ofAttribute }
  authored : d.Authored cx
  plays : ∀ r, role = some r → d.Plays r
  parts : d.parts = []

/-- A draft that is what is left of it when it is written and read again. -/
structure Draft.Kept (cx : Context) (cs : Components) (role : Option Role) (d : Draft) : Prop where
  fixed : Transcription.rewritten.draft d = d
  authored : d.Authored cx
  plays : ∀ r, role = some r → d.Plays r
  parts : ∀ ref ∈ d.parts, cs.Holds d.Takes ref

/-- A part that is what is left of it when it is written and read again. -/
structure Part.Kept (cx : Context) (cs : Components) (role : Role) (p : Part) : Prop where
  fixed : Transcription.rewritten.part p = p
  authored : p.Authored cx role
  component : ∀ ref, p = .component ref → cs.Holds (ComponentKind.Fills role) ref
  parts : (∀ ref, p ≠ .component ref) → ∀ ref ∈ p.parts,
    cs.Holds (ComponentKind.Encloses .type) ref

/-- A component that is what is left of it when it is written and read again. -/
structure ComponentKind.Kept (cx : Context) (cs : Components) (kind : ComponentKind)
    (x : kind.Component) : Prop where
  fixed : Transcription.rewritten.component kind x = x
  authored : kind.Authored cx x
  parts : ∀ part ∈ kind.parts x, cs.Holds kind.Encloses part

section Keeping

open Transcription

variable {cx : Context} {cs later : Components} {role inner : Role} {named : Option Role}
  {d : Draft} {p : Part} {construct : Construct}

theorem Draft.fixed_of_dressed {bare : Draft} {as : List Xml.Attribute} (h : Reader.Fresh bare)
    (has : ∀ a ∈ as, a.name.namespaceName ≠ "") (hd : d = bare.mapCommon fun common =>
      { common with foreign := as.map .ofAttribute }) : rewritten.draft d = d := by
  rw [hd]
  conv_rhs => rw [← h.fixed]
  refine draft_mapCommon (fun c => ?_) bare
  exact congrArg (Common.mk c.xmlId (c.note.map rewritten.annotation))
    (ForeignContent.reread_map_ofAttribute has)

theorem Draft.Begun.kept (h : d.Begun cx named) : d.Kept cx cs named := by
  obtain ⟨bare, as, hfresh, has, hd⟩ := h.dressed
  refine ⟨fixed_of_dressed hfresh has hd, h.authored, h.plays, ?_⟩
  rw [h.parts]
  exact fun ref href => absurd href List.not_mem_nil

theorem Draft.Begun.addForeign {a : Xml.Attribute} (h : d.Begun cx named)
    (ha : a.name.namespaceName ≠ "") : (d.addForeign (.ofAttribute a)).Begun cx named where
  dressed := by
    obtain ⟨bare, as, hfresh, has, rfl⟩ := h.dressed
    refine ⟨bare, as ++ [a], hfresh, fun b hb => ?_, ?_⟩
    · rcases List.mem_append.1 hb with hb | hb
      · exact has b hb
      · exact List.mem_singleton.1 hb ▸ ha
    · rw [List.map_append]
      cases bare <;> rfl
  authored := h.authored.mapCommon _
  plays r hr := (h.plays r hr).mapCommon _
  parts := (d.parts_addForeign _).trans h.parts

theorem Draft.Kept.extend (h : d.Kept cx cs named) (hcs : cs.Extends later) :
    d.Kept cx later named :=
  ⟨h.fixed, h.authored, h.plays, fun ref href =>
    (h.parts ref href).extend hcs fun _ _ _ => Draft.Takes.congr⟩

theorem Part.Kept.extend (h : p.Kept cx cs role) (hcs : cs.Extends later) :
    p.Kept cx later role :=
  ⟨h.fixed, h.authored,
    fun ref href => (h.component ref href).extend hcs fun _ _ _ => ComponentKind.Fills.congr,
    fun hp ref href => (h.parts hp ref href).extend hcs fun _ _ _ => ComponentKind.Encloses.congr⟩

theorem Draft.Kept.addForeign {e : Xml.Element} (h : d.Kept cx cs named)
    (he : ChildClass.of e.tag.name = .foreign) :
    (d.addForeign (.ofElement e)).Kept cx cs named where
  fixed := by
    conv_rhs => rw [← h.fixed]
    refine draft_mapCommon (fun c => ?_) d
    exact congrArg (Common.mk c.xmlId (c.note.map rewritten.annotation))
      (ForeignContent.reread_append_ofElement he)
  authored := h.authored.mapCommon _
  plays r hr := (h.plays r hr).mapCommon _
  parts := by
    rw [Draft.parts_addForeign, Draft.addForeign, Draft.takes_mapCommon]
    exact h.parts

theorem Draft.Kept.adopt (h : d.Kept cx cs named) (hrole : d.role? construct = some inner)
    (hp : p.Kept cx cs inner) : (d.adopt p).Kept cx cs named where
  fixed := by rw [draft_adopt, h.fixed, hp.fixed]
  authored := h.authored.adopt hrole hp.authored
  plays r hr := (h.plays r hr).adopt p
  parts := by
    rw [Draft.takes_adopt]
    -- a component is itself what is added, and any other part adds what it is made of
    by_cases hcomponent : ∃ ref, p = .component ref
    · obtain ⟨ref, rfl⟩ := hcomponent
      intro part hpart
      rcases List.mem_append.1 (d.parts_adopt_subset _ hpart) with hpart | hpart
      · exact h.parts part hpart
      · rw [List.mem_singleton.1 hpart]
        exact (hp.component ref rfl).mono fun _ _ => Draft.takes_of_fills hrole
    · have hnone : ∀ ref, p ≠ .component ref := fun ref href => hcomponent ⟨ref, href⟩
      cases d with
      | external e =>
          intro part hpart
          refine h.parts part ?_
          cases p with
          | component ref => exact absurd rfl (hnone ref)
          | _ => exact hpart
      | _ =>
          intro part hpart
          rcases List.mem_append.1 (Draft.parts_adopt_subset _ _ hpart) with hpart | hpart
          · exact h.parts part hpart
          · exact (hp.parts hnone part hpart).mono fun _ _ =>
              Draft.takes_of_encloses fun _ he => by cases he

theorem Draft.Kept.fixed_owned {x : (kind : ComponentKind) × kind.Component}
    (h : d.Kept cx cs named) (hx : d.owned? = some x) : rewritten.component x.1 x.2 = x.2 := by
  have howned := owned?_draft (τ := rewritten) d
  rw [h.fixed, hx] at howned
  exact (eq_of_heq (Sigma.mk.inj (Option.some.inj howned)).2).symm

theorem TypeDefinition.shaped_of_isSimple {t : TypeDefinition} (h : t.isSimple = true) :
    t.Shaped := by
  unfold TypeDefinition.isSimple at h
  unfold TypeDefinition.Shaped
  cases hbody : t.body with
  | simple s => trivial
  | complex c =>
      rw [hbody] at h
      cases h

/-- What a draft becomes is called as the draft is. -/
theorem Draft.Authored.owned {x : (kind : ComponentKind) × kind.Component} (h : d.Authored cx)
    (hplays : d.Plays role) (hx : d.owned? = some x) : x.1.Authored cx x.2 := by
  cases d with
  | simpleType t =>
      cases hx
      exact ⟨h, TypeDefinition.shaped_of_isSimple hplays.1⟩
  | complexType t c direct model =>
      cases hx
      refine ⟨h.1, ?_⟩
      cases model with
      | none => exact h.2.1
      | some m => exact h.2.2 m rfl
  | element | «attribute» | group | attributeGroup | notationDecl =>
      cases hx
      exact h
  | _ => cases hx

theorem Draft.Kept.owned {x : (kind : ComponentKind) × kind.Component}
    (h : d.Kept cx cs (some role)) (hx : d.owned? = some x) : x.1.Kept cx cs x.2 where
  fixed := h.fixed_owned hx
  authored := h.authored.owned (h.plays role rfl) hx
  parts := by
    have hparts := h.parts
    intro part hpart
    cases d with
    | complexType t c direct model =>
        cases hx
        refine (hparts part ?_).mono fun _ _ h => h
        cases model with
        | none => exact List.mem_append_left _ hpart
        | some m => exact List.mem_append_right _ hpart
    | simpleType | element =>
        cases hx
        exact hparts part hpart
    | «attribute» | group | attributeGroup | notationDecl =>
        cases hx
        exact (hparts part hpart).mono fun _ _ h => h.of_type _
    | _ => cases hx

theorem Draft.Plays.fills {x : (kind : ComponentKind) × kind.Component} (h : d.Plays role)
    (hx : d.owned? = some x) : x.1.Fills role x.2 := by
  cases d with
  | simpleType t =>
      cases hx
      obtain ⟨hsimple, named, rfl, hname⟩ := h
      refine ⟨named, ?_, hname⟩
      unfold TypeDefinition.role
      rw [hsimple]
      rfl
  | complexType t c direct model =>
      cases hx
      exact h
  | element | «attribute» | group | attributeGroup | notationDecl =>
      cases hx
      exact h
  | _ => cases hx

theorem Draft.Kept.authored_toPart {schema : Nat} (h : d.Kept cx cs (some role)) :
    (d.toPart schema cs).Authored cx role := by
  have hauthored := h.authored
  have hplays := h.plays role rfl
  cases d with
  | external e => exact hplays.elim
  | simpleContent | complexContent | derivation | constraint => exact hauthored
  | compositor o c common particles =>
      rintro x hx
      cases hx
      exact hplays.symm
  | groupRef o r | any o w =>
      rintro x hx
      cases hx
      exact hplays.symm
  | element o e =>
      cases he : e.topLevel with
      | true => simp [Draft.toPart, he, Part.Authored]
      | false =>
          simp only [Draft.toPart, he]
          rintro x hx
          cases hx
          exact (hplays.trans (congrArg Role.element he)).symm
  | «attribute» a =>
      cases ha : a.topLevel <;> simp [Draft.toPart, ha, Part.Authored]
  | _ => trivial

theorem Draft.Kept.toPart (h : d.Kept cx cs (some role)) :
    (d.toPart cx.schema cs).Kept cx (d.closed cs) role where
  fixed := by
    rw [part_toPart d fun _ _ => rfl, h.fixed]
  authored := h.authored_toPart
  component ref href := by
    obtain ⟨x, hx, rfl⟩ := Draft.owned?_of_toPart href
    rw [Draft.closed, hx]
    exact ⟨x.2, Components.getElem?_push_count cs x.1 x.2, (h.plays role rfl).fills hx⟩
  parts hnone := by
    rw [Reader.toPart_parts, Draft.closed]
    cases hx : d.owned? with
    | none =>
        intro part hpart
        refine (h.parts part hpart).mono fun _ _ htakes => ?_
        cases d with
        | external e => exact (h.plays role rfl).elim
        | element => cases hx
        | _ => exact htakes
    | some x =>
        intro part hpart
        rw [List.mem_singleton.1 hpart]
        refine ⟨x.2, Components.getElem?_push_count cs x.1 x.2, ?_⟩
        cases d with
        | element o e =>
            cases hx
            cases he : e.topLevel with
            | true => exact absurd (if_pos he) (hnone _)
            | false => exact he
        | «attribute» a =>
            cases hx
            cases ha : a.topLevel with
            | true => exact absurd (if_pos ha) (hnone _)
            | false => exact ha
        | simpleType | complexType | group | attributeGroup | notationDecl =>
            exact absurd rfl (hnone _)
        | _ => cases hx

end Keeping

namespace Reader

variable {cx : Context} {scope : Scope} {t : Xml.Tag} {kids : List Xml.Node} {role : Role}
  {cs : Components} {p : Part}

theorem opening_begun {d : Draft} (ht : t.Lexical)
    (h : role.opening cx scope t kids = .ok (.draft d)) : d.Begun cx (some role) := by
  obtain ⟨hfresh, hauthored, hplays⟩ := opening_fresh ht h
  exact ⟨⟨d, [], hfresh, fun _ ha => absurd ha List.not_mem_nil, hfresh.foreignless.symm⟩,
    hauthored, fun r hr => Option.some.inj hr ▸ hplays, (opening_supplied h).1⟩

/-- What is read at once is kept. -/
theorem opening_part_kept (h : role.opening cx scope t kids = .ok (.part p)) :
    p.Kept cx cs role := by
  have hparts := (opening_part_supplied h).1
  have hrest : Transcription.rewritten.part p = p ∧ p.Authored cx role ∧
      ∀ ref, p ≠ .component ref := by
    match role, h with
    | .remark audience, h =>
        cases audience <;>
          · cases h
            exact ⟨rfl, trivial, fun _ hp => by cases hp⟩
    | .restriction, h | .list, h | .union, h | .derivation _, h | .constraint _, h
    | .element _, h | .attribute _, h =>
        obtain ⟨name, -, h⟩ := bind_eq_ok_iff.1 h
        cases h
    | .groupRef, h =>
        simp only [Role.opening] at h
        split at h
        · cases h
          exact ⟨rfl, fun _ hx => (by cases hx), fun _ hp => by cases hp⟩
        · obtain ⟨name, -, h⟩ := bind_eq_ok_iff.1 h
          cases h
    | .attributeGroupRef, h =>
        simp only [Role.opening] at h
        split at h
        · cases h
          exact ⟨rfl, trivial, fun _ hp => by cases hp⟩
        · obtain ⟨name, -, h⟩ := bind_eq_ok_iff.1 h
          cases h
  refine ⟨hrest.1, hrest.2.1, fun ref href => absurd href (hrest.2.2 ref), fun _ => ?_⟩
  rw [hparts]
  exact fun _ href => absurd href List.not_mem_nil

/-- What is read from a document whose references are lexical is kept when the
document is written and read again. -/
def authoring (cx : Context) : Discipline cx where
  tag t := t.Proper ∧ t.Lexical
  component cs kind x := kind.Kept cx cs x
  opened role d := d.Begun cx role
  draft cs role d := d.Kept cx cs role
  part cs role p := p.Kept cx cs role
  draft_of_opened h := h.kept
  draft_extends hcs h := h.extend hcs
  part_extends hcs h := h.extend hcs
  opening_draft ht h := opening_begun ht.2 h
  opening_part _ h := opening_part_kept h
  foreign_attribute := by
    intro t role d content ht hcontent hd _
    obtain ⟨a, ha, rfl⟩ := List.mem_map.1 hcontent
    obtain ⟨hmem, huri⟩ := List.mem_filter.1 ha
    exact hd.addForeign ((ht.1 a hmem).namespaceName_ne huri)
  foreign_element hname hd _ := hd.addForeign (e := ⟨_, _⟩) hname
  adopt hd hrole hp := hd.adopt hrole hp
  close_component hd hx := hd.owned hx
  close_part hd := hd.toPart

/-- A discipline that is kept to under a condition. -/
def Discipline.when (D : Discipline cx) (condition : Prop) : Discipline cx where
  tag t := condition → D.tag t
  component cs kind x := condition → D.component cs kind x
  opened role d := condition → D.opened role d
  draft cs role d := condition → D.draft cs role d
  part cs role p := condition → D.part cs role p
  draft_of_opened h hc := D.draft_of_opened (h hc)
  draft_extends hcs h hc := D.draft_extends hcs (h hc)
  part_extends hcs h hc := D.part_extends hcs (h hc)
  opening_draft ht h hc := D.opening_draft (ht hc) h
  opening_part ht h hc := D.opening_part (ht hc) h
  foreign_attribute ht hcontent hd htakes hc := D.foreign_attribute (ht hc) hcontent (hd hc) htakes
  foreign_element hname hd htakes hc := D.foreign_element hname (hd hc) htakes
  adopt hd hrole hp hc := D.adopt (hd hc) hrole (hp hc)
  close_component hd hx hc := D.close_component (hd hc) hx
  close_part hd hc := D.close_part (hd hc)

end Reader

namespace ComponentKind

variable {cx : Context} {kind : ComponentKind} {x y : kind.Component}

/-- What a component is called does not depend on which types have been found. -/
theorem Authored.congr (h : kind.unresolved y = kind.unresolved x) (hx : kind.Authored cx x) :
    kind.Authored cx y := by
  have hauthored : ∀ z : kind.Component,
      kind.Authored cx (kind.unresolved z) = kind.Authored cx z := by
    intro z
    cases kind <;> rfl
  rw [← hauthored y, h, hauthored]
  exact hx

theorem Fills.topLevel {construct : Construct} {role : Role}
    (hrole : Role.ofTopLevel? construct = some role) (h : kind.Fills role x) : kind.TopLevel x := by
  cases kind with
  | element =>
      cases h
      cases he : x.topLevel with
      | true => exact he
      | false =>
          rw [he] at hrole
          cases construct <;> cases hrole
  | «attribute» =>
      cases h
      cases ha : x.topLevel with
      | true => exact ha
      | false =>
          rw [ha] at hrole
          cases construct <;> cases hrole
  | _ => trivial

end ComponentKind

end XmlSchema
