import XmlSchema.Document.Writer
import XmlSchema.Proofs.Attempt
import XmlSchema.Proofs.Document.Prefixes

/-!
# How the names of a document are spelled

Whatever is written, each name in it is spelled with a prefix that the markup
around it or the root binds to its namespace.  The constructs of the schema
language declare nothing themselves, so that only copied markup can come
between a name and the root.
-/

namespace XmlSchema

open Attempt Xml

/-- A property of what is written that is not lost when the root binds more. -/
structure Spelling (α : Type) where
  Holds : Meaning → α → Prop
  mono : ∀ {outer outer' : Meaning} {a : α}, outer.Within outer' → Holds outer a → Holds outer' a

namespace Spelling

/-- Nothing is asked for. -/
def any {α : Type} : Spelling α := ⟨fun _ _ => True, fun _ h => h⟩

/-- A prefix is bound to a namespace. -/
def pfx (uri : String) : Spelling String where
  Holds outer pfx := pfx ≠ "" ∧ outer pfx = some uri
  mono h hpfx := ⟨hpfx.1, h _ _ hpfx.2⟩

/-- A name is spelled well with a prefix, or without one. -/
def prefixed (inner : Meaning) (isAttribute : Bool) (name : Name) : Spelling (Option String) where
  Holds outer pfx := { name with pfx }.Spelled outer inner isAttribute
  mono h hname := hname.mono h

/-- An attribute is spelled well. -/
def oneAttribute (inner : Meaning) : Spelling Attribute where
  Holds outer a := a.name.Spelled outer inner true
  mono h ha := ha.mono h

/-- Attributes are spelled well. -/
def attributes (inner : Meaning) : Spelling (List Attribute) where
  Holds outer attributes := ∀ a ∈ attributes, a.name.Spelled outer inner true
  mono h hattributes a ha := (hattributes a ha).mono h

/-- The names of a tag are spelled well. -/
def tag (inner : Meaning) (declared : Bindings) : Spelling Tag where
  Holds outer t := t.declared = declared ∧ t.EveryName (Name.Spelled outer) inner
  mono h ht := ⟨ht.1, ht.2.1.mono h, fun a ha => (ht.2.2 a ha).mono h⟩

/-- The names of a node are spelled well. -/
def node (inner : Meaning) : Spelling Node where
  Holds outer node := node.EveryName (Name.Spelled outer) inner
  mono h hnode := hnode.mono fun _ _ _ hname => hname.mono h

/-- The names of some nodes are spelled well. -/
def nodes (inner : Meaning) : Spelling (List Node) where
  Holds outer nodes := Node.EveryNameIn (Name.Spelled outer) inner nodes
  mono h hnodes := hnodes.mono fun _ _ _ hname => hname.mono h

/-- The names of an element that declares nothing are spelled well. -/
def element : Spelling Element where
  Holds outer e := (tag Meaning.nothing {}).Holds outer e.tag ∧
    (nodes Meaning.nothing).Holds outer e.children
  mono h he := ⟨(tag _ _).mono h he.1, (nodes _).mono h he.2⟩

/-- The attributes and the elements of foreign content are spelled well. -/
def handed : Spelling (List Attribute × List Node) where
  Holds outer content := (attributes Meaning.nothing).Holds outer content.1 ∧
    (nodes Meaning.nothing).Holds outer content.2
  mono h hcontent := ⟨(attributes _).mono h hcontent.1, (nodes _).mono h hcontent.2⟩

variable {outer inner : Meaning}

theorem attributes_append {left right : List Attribute}
    (hleft : (attributes inner).Holds outer left) (hright : (attributes inner).Holds outer right) :
    (attributes inner).Holds outer (left ++ right) :=
  fun a ha => (List.mem_append.1 ha).elim (hleft a) (hright a)

/-- Attributes that have no namespace and no prefix. -/
theorem attributes_attributesOf (pairs : List (String × Option String)) :
    (attributes inner).Holds outer (Writer.attributesOf pairs) := by
  intro a ha
  obtain ⟨⟨name, value⟩, -, hvalue⟩ := List.mem_filterMap.1 ha
  obtain ⟨text, -, rfl⟩ := Option.map_eq_some_iff.1 hvalue
  exact (rfl : ({ localName := name } : Name).namespaceName = "")

theorem tag_more {t : Tag} {more : List Attribute} {declared : Bindings}
    (ht : (tag inner declared).Holds outer t) (hmore : (attributes inner).Holds outer more) :
    (tag inner declared).Holds outer { t with attributes := t.attributes ++ more } :=
  ⟨ht.1, ht.2.1, attributes_append ht.2.2 hmore⟩

theorem node_text {content : String} : (node inner).Holds outer (.text content) := by
  unfold node
  dsimp only
  unfold Node.EveryName
  trivial

theorem node_comment {content : String} : (node inner).Holds outer (.comment content) := by
  unfold node
  dsimp only
  unfold Node.EveryName
  trivial

theorem nodes_append {left right : List Node} (hleft : (nodes inner).Holds outer left)
    (hright : (nodes inner).Holds outer right) : (nodes inner).Holds outer (left ++ right) :=
  Node.everyNameIn_append.2 ⟨hleft, hright⟩

theorem nodes_nil : (nodes inner).Holds outer [] := by
  unfold nodes
  dsimp only
  unfold Node.EveryNameIn
  trivial

theorem nodes_cons {first : Node} {rest : List Node} (hfirst : (node inner).Holds outer first)
    (hrest : (nodes inner).Holds outer rest) : (nodes inner).Holds outer (first :: rest) := by
  show Node.EveryNameIn _ _ _
  unfold Node.EveryNameIn
  exact ⟨hfirst, hrest⟩

theorem handed_nil : handed.Holds outer ([], []) := ⟨nofun, nodes_nil⟩

theorem node_element {t : Tag} {kids : List Node} {declared : Bindings}
    (ht : (tag (inner.enter declared) declared).Holds outer t)
    (hkids : (nodes (inner.enter declared)).Holds outer kids) :
    (node inner).Holds outer (.element t kids) := by
  obtain ⟨hdeclared, hnames⟩ := ht
  show Node.EveryName _ _ _
  unfold Node.EveryName
  rw [hdeclared]
  exact ⟨hnames, hkids⟩

theorem node_ofElement {e : Element} (he : element.Holds outer e) :
    (node Meaning.nothing).Holds outer (Node.ofElement e) :=
  have htag : (tag (Meaning.nothing.enter {}) {}).Holds outer e.tag := he.1
  node_element htag he.2

theorem node_plain {t : Tag} {kids : List Node} (ht : (tag Meaning.nothing {}).Holds outer t)
    (hkids : (nodes Meaning.nothing).Holds outer kids) :
    (node Meaning.nothing).Holds outer (.element t kids) :=
  node_ofElement (e := ⟨t, kids⟩) ⟨ht, hkids⟩

theorem attributes_putAttribute {given : List Attribute} (localName value : String)
    (h : (attributes inner).Holds outer given) :
    (attributes inner).Holds outer (Tag.putAttribute localName value given) := by
  induction given with
  | nil =>
      intro a ha
      rw [List.mem_singleton.1 ha]
      exact (rfl : ({ localName } : Name).namespaceName = "")
  | cons first rest ih =>
      obtain ⟨hfirst, hrest⟩ := List.forall_mem_cons.1 h
      unfold Tag.putAttribute
      split
      · exact List.forall_mem_cons.2 ⟨hfirst, hrest⟩
      · exact List.forall_mem_cons.2 ⟨hfirst, ih hrest⟩

theorem element_setAttribute {e : Element} (localName value : String)
    (he : element.Holds outer e) : element.Holds outer (e.setAttribute localName value) := by
  obtain ⟨⟨hdeclared, hname, hattributes⟩, hkids⟩ := he
  exact ⟨⟨hdeclared, hname, attributes_putAttribute localName value hattributes⟩, hkids⟩

theorem element_withOccurs {e : Element} (o : Occurs) (he : element.Holds outer e) :
    element.Holds outer (Writer.withOccurs o e) := by
  have hset : ∀ (value : Option String) (localName : String) {e : Element}, element.Holds outer e →
      element.Holds outer ((value.map (e.setAttribute localName)).getD e) := by
    intro value localName e he
    cases value with
    | none => exact he
    | some value => exact element_setAttribute localName value he
  exact hset _ "maxOccurs" (hset _ "minOccurs" he)

end Spelling

namespace Writer

variable {α β : Type} {Q R : Meaning → α → Prop}

/-- Writing binds each prefix once and takes none back, and what comes of it
has a property at the prefixes that it leaves behind. -/
def Writes (m : Writer α) (Q : Meaning → α → Prop) : Prop :=
  ∀ s : WriterState, s.prefixes.Sound →
    Ends m s (fun a s' => s'.prefixes.Sound ∧
      s.prefixes.Extends s'.prefixes ∧ Q s'.prefixes.meaning a) fun _ _ => True

theorem writes_pure {a : α} (h : ∀ t : PrefixTable, t.Sound → Q t.meaning a) :
    Writes (pure a) Q := fun s hsound => ⟨hsound, .refl _, h s.prefixes hsound⟩

theorem writes_throw (e : SchemaError) : Writes (throw e) Q := fun _ _ => trivial

/-- What has been written stays well spelled while more is written. -/
theorem Writes.bind {m : Writer β} {f : β → Writer α} {P : Spelling β} (h : Writes m P.Holds)
    (hf : ∀ b, Writes (f b) fun outer a => P.Holds outer b → Q outer a) :
    Writes (m >>= f) Q := by
  intro s hsound
  refine (h s hsound).bind fun b t ⟨ht, hextends, hb⟩ => ?_
  refine (hf b t ht).mono ?_ fun _ _ h => h
  intro a u ⟨hu, hextends', ha⟩
  exact ⟨hu, hextends.trans hextends', ha (P.mono hextends'.meaning hb)⟩

theorem Writes.map {m : Writer β} {f : β → α} {P : Spelling β} (h : Writes m P.Holds)
    (hf : ∀ t : PrefixTable, t.Sound → ∀ b, P.Holds t.meaning b → Q t.meaning (f b)) :
    Writes (m >>= fun b => pure (f b)) Q :=
  h.bind fun b => writes_pure fun t ht => hf t ht b

theorem Writes.mono {m : Writer α} (h : Writes m Q) (hQ : ∀ outer a, Q outer a → R outer a) :
    Writes m R :=
  fun s hs => (h s hs).mono (fun _ _ ⟨ht, hextends, ha⟩ => ⟨ht, hextends, hQ _ _ ha⟩)
    fun _ _ h => h

/-- What comes of a step does not matter to what is written afterwards. -/
theorem Writes.after {m : Writer β} {f : β → Writer α} (h : Writes m Spelling.any.Holds)
    (hf : ∀ b, Writes (f b) Q) : Writes (m >>= f) Q :=
  h.bind fun b => (hf b).mono fun _ _ ha _ => ha

section Names

theorem writes_declare (uri : String) : Writes (declare uri) (Spelling.pfx uri).Holds := by
  intro s hs
  have hdeclares := PrefixTable.declare_declares hs uri
  exact ⟨hdeclares.sound, hdeclares.onward, hdeclares.ne_empty, hdeclares.meaning⟩

theorem writes_token (name : QName) : Writes (token name) Spelling.any.Holds := by
  intro s hs
  obtain ⟨hsound, hextends⟩ := PrefixTable.token_extends hs name
  exact ⟨hsound, hextends, trivial⟩

theorem writes_token? (name : Option QName) : Writes (token? name) Spelling.any.Holds := by
  cases name with
  | none => exact writes_pure fun _ _ => trivial
  | some name => exact (writes_token name).map fun _ _ _ _ => trivial

theorem writes_tokens (names : List QName) : Writes (tokens names) Spelling.any.Holds := by
  induction names with
  | nil => exact writes_pure fun _ _ => trivial
  | cons name rest ih => exact (writes_token name).bind fun _ => ih.map fun _ _ _ _ _ => trivial

theorem writes_markupPrefix (scope : Scope) (isAttribute : Bool) (name : Name) :
    Writes (markupPrefix scope isAttribute name)
      (Spelling.prefixed scope.lookup? isAttribute name).Holds := by
  unfold markupPrefix
  cases huri : name.uri with
  | none =>
      refine writes_pure fun t _ => ?_
      have hnamespace : name.namespaceName = "" := by
        unfold Name.namespaceName
        rw [huri]
        rfl
      cases isAttribute with
      | true => exact hnamespace
      | false => exact .inr hnamespace
  | some uri =>
      have hnamespace : name.namespaceName = uri := by
        unfold Name.namespaceName
        rw [huri]
        rfl
      have hchoice : ∀ kept : Bool,
          (kept = true → ∀ outer, name.Spelled outer scope.lookup? isAttribute) →
          Writes (if kept then pure name.pfx else do return some (← declare uri) :
              Writer (Option String))
            (Spelling.prefixed scope.lookup? isAttribute name).Holds := by
        intro kept hkept
        cases kept with
        | true => exact writes_pure fun t _ => hkept rfl t.meaning
        | false =>
            refine (writes_declare uri).map fun t _ pfx hpfx => .inr ?_
            show t.meaning pfx = some name.namespaceName
            rw [hnamespace]
            exact hpfx.2
      refine hchoice _ fun hkept outer => ?_
      -- the markup itself binds the prefix
      unfold Name.Spelled
      cases hpfx : name.pfx with
      | some pfx =>
          rw [hpfx] at hkept
          rw [hnamespace]
          exact .inl (eq_of_beq hkept)
      | none =>
          rw [hpfx, Bool.and_eq_true] at hkept
          cases isAttribute with
          | true => cases hkept.1
          | false =>
              rw [hnamespace]
              exact .inl (eq_of_beq hkept.2)

end Names

section Markup

theorem writes_adoptAttributes (scope : Scope) (given : List Attribute) :
    Writes (adoptAttributes scope given) (Spelling.attributes scope.lookup?).Holds := by
  induction given with
  | nil => exact writes_pure fun _ _ => nofun
  | cons a rest ih =>
      have hone : Writes (adoptAttribute scope a) (Spelling.oneAttribute scope.lookup?).Holds :=
        (writes_markupPrefix scope true a.name).map fun _ _ _ hpfx => hpfx
      exact hone.bind fun a => ih.map fun _ _ more hmore ha => List.forall_mem_cons.2 ⟨ha, hmore⟩

theorem writes_adoptTag (scope : Scope) (t : Tag) :
    Writes (adoptTag scope t) (Spelling.tag scope.lookup? t.declared).Holds :=
  (writes_markupPrefix scope false t.name).bind fun _ =>
    (writes_adoptAttributes scope t.attributes).map fun _ _ _ hattributes hname =>
      ⟨rfl, hname, hattributes⟩

mutual

theorem writes_adopt : ∀ (scope : Scope) (node : Node),
    Writes (adopt scope node) (Spelling.node scope.lookup?).Holds
  | _, .text _ => by
      unfold adopt
      exact writes_pure fun _ _ => Spelling.node_text
  | _, .comment _ => by
      unfold adopt
      exact writes_pure fun _ _ => Spelling.node_comment
  | scope, .element t kids => by
      unfold adopt
      have htag := writes_adoptTag (scope.enter t.declared) t
      have hkids := writes_adoptAll (scope.enter t.declared) kids
      rw [Meaning.scope_enter] at htag hkids
      exact htag.bind fun _ => hkids.map fun _ _ _ hkids htag => Spelling.node_element htag hkids

theorem writes_adoptAll : ∀ (scope : Scope) (nodes : List Node),
    Writes (adoptAll scope nodes) (Spelling.nodes scope.lookup?).Holds
  | _, [] => by
      unfold adoptAll
      exact writes_pure fun _ _ => Spelling.nodes_nil
  | scope, node :: rest => by
      unfold adoptAll
      exact (writes_adopt scope node).bind fun _ =>
        (writes_adoptAll scope rest).map fun _ _ _ hrest hnode => Spelling.nodes_cons hnode hrest

end

end Markup

section Constructs

variable {cx : WriterContext}

theorem writes_foreign (content : List ForeignContent) :
    Writes (foreign cx content) Spelling.handed.Holds := by
  unfold foreign
  split
  · exact writes_pure fun _ _ => Spelling.handed_nil
  · have hrecord : Writes (modify fun s => { s with handed := s.handed ++ [content.length] })
        Spelling.any.Holds := fun _ hs => ⟨hs, .refl _, trivial⟩
    refine hrecord.after fun _ => ?_
    cases cx.policy with
    | drop => exact writes_pure fun _ _ => Spelling.handed_nil
    | keep =>
        have hattributes := writes_adoptAttributes outside (foreignAttributes content)
        have helements := writes_adoptAll outside (foreignElements content)
        exact hattributes.bind fun _ => helements.map fun _ _ _ helements hattributes =>
          ⟨hattributes, helements⟩

theorem writes_tag (localName : String) {given : List Attribute}
    (h : ∀ outer, (Spelling.attributes Meaning.nothing).Holds outer given) :
    Writes (tag localName given) (Spelling.tag Meaning.nothing {}).Holds := by
  refine (writes_declare schemaNamespace).map fun t _ pfx hpfx => ⟨rfl, ?_, h _⟩
  have hname : (Name.make (some schemaNamespace) localName).withPrefix pfx =
      { uri := some schemaNamespace, localName, pfx := some pfx } := by
    unfold Name.withPrefix
    rw [if_neg (by simpa using hpfx.1)]
    rfl
  show Name.Spelled _ _ _ ((Name.make (some schemaNamespace) localName).withPrefix pfx)
  rw [hname]
  exact .inr hpfx.2

theorem writes_remark (r : Remark) : Writes (remark r) (Spelling.node Meaning.nothing).Holds := by
  have htag := writes_tag r.audience.localName fun outer =>
    Spelling.attributes_attributesOf [("source", r.source)]
  have hmarkup := writes_adoptAll outside r.markup
  refine htag.bind fun t => hmarkup.map fun table htable markup hmarkup ht =>
    Spelling.node_plain (Spelling.tag_more ht ?_) hmarkup
  cases r.lang with
  | none => exact nofun
  | some value =>
      -- the prefix `xml` needs no declaration
      intro a ha
      rw [List.mem_singleton.1 ha]
      exact .inr htable.meaning_xml

theorem writes_remarks (rs : List Remark) :
    Writes (remarks rs) (Spelling.nodes Meaning.nothing).Holds := by
  induction rs with
  | nil => exact writes_pure fun _ _ => Spelling.nodes_nil
  | cons r rest ih =>
      exact (writes_remark r).bind fun _ => ih.map fun _ _ _ hrest hnode =>
        Spelling.nodes_cons hnode hrest

theorem writes_annotationNode (a : Annotation) :
    Writes (annotationNode cx a) (Spelling.node Meaning.nothing).Holds := by
  have htag := writes_tag "annotation" fun outer =>
    Spelling.attributes_attributesOf [("id", a.xmlId)]
  refine htag.bind fun t => (writes_foreign a.foreign).bind fun content =>
    (writes_remarks a.remarks).map fun _ _ entries hentries hcontent ht => ?_
  exact Spelling.node_plain (Spelling.tag_more ht hcontent.1)
    (Spelling.nodes_append hcontent.2 hentries)

theorem writes_leadingNote (note : Option Annotation) :
    Writes (leadingNote cx note) (Spelling.nodes Meaning.nothing).Holds := by
  cases note with
  | none => exact writes_pure fun _ _ => Spelling.nodes_nil
  | some a =>
      exact (writes_annotationNode a).map fun _ _ _ hnode =>
        Spelling.nodes_cons hnode Spelling.nodes_nil

/-- A construct is spelled well if its children are. -/
theorem writes_construct (localName : String) (pairs : List (String × Option String))
    (common : Common) {children : Writer (List Node)}
    (h : Writes children (Spelling.nodes Meaning.nothing).Holds) :
    Writes (construct cx localName pairs common children) Spelling.element.Holds := by
  have htag := writes_tag localName fun outer =>
    Spelling.attributes_attributesOf (pairs ++ [("id", common.xmlId)])
  refine htag.bind fun t => (writes_leadingNote common.note).bind fun note =>
    (writes_foreign common.foreign).bind fun content =>
      h.map fun _ _ inner hinner hcontent hnote ht => ?_
  exact ⟨Spelling.tag_more ht hcontent.1,
    Spelling.nodes_append (Spelling.nodes_append hnote hcontent.2) hinner⟩

theorem writes_nothing : Writes (pure []) (Spelling.nodes Meaning.nothing).Holds :=
  writes_pure fun _ _ => Spelling.nodes_nil

/-- An element as a node. -/
theorem Writes.asNode {m : Writer Element} (h : Writes m Spelling.element.Holds) :
    Writes (m >>= fun e => pure (Node.ofElement e)) (Spelling.node Meaning.nothing).Holds :=
  h.map fun _ _ _ => Spelling.node_ofElement

/-- An element as the only node. -/
theorem Writes.asNodes {m : Writer Element} (h : Writes m Spelling.element.Holds) :
    Writes (m >>= fun e => pure [Node.ofElement e]) (Spelling.nodes Meaning.nothing).Holds :=
  h.map fun _ _ _ he => Spelling.nodes_cons (Spelling.node_ofElement he) Spelling.nodes_nil

/-- Nodes after nodes. -/
theorem Writes.followed {m m' : Writer (List Node)}
    (h : Writes m (Spelling.nodes Meaning.nothing).Holds)
    (h' : Writes m' (Spelling.nodes Meaning.nothing).Holds) :
    Writes (m >>= fun left => m' >>= fun right => pure (left ++ right))
      (Spelling.nodes Meaning.nothing).Holds :=
  h.bind fun _ => h'.map fun _ _ _ hright hleft => Spelling.nodes_append hleft hright

theorem writes_each {write : β → Writer Node}
    (h : ∀ x, Writes (write x) (Spelling.node Meaning.nothing).Holds) (xs : List β) :
    Writes (each write xs) (Spelling.nodes Meaning.nothing).Holds := by
  induction xs with
  | nil => exact writes_nothing
  | cons x rest ih =>
      exact (h x).bind fun _ => ih.map fun _ _ _ hrest hnode => Spelling.nodes_cons hnode hrest

theorem writes_whenSome {write : β → Writer Node}
    (h : ∀ x, Writes (write x) (Spelling.node Meaning.nothing).Holds) (x : Option β) :
    Writes (whenSome write x) (Spelling.nodes Meaning.nothing).Holds := by
  cases x with
  | none => exact writes_nothing
  | some x => exact (h x).map fun _ _ _ hnode => Spelling.nodes_cons hnode Spelling.nodes_nil

theorem writes_facet (f : Facet) :
    Writes (facet cx f) (Spelling.node Meaning.nothing).Holds :=
  (writes_construct _ _ _ writes_nothing).asNode

theorem writes_wildcard (localName : String) (w : Wildcard) :
    Writes (wildcard cx localName w) Spelling.element.Holds :=
  writes_construct _ _ _ writes_nothing

theorem writes_path (localName : String) (p : PathExpression) :
    Writes (path cx localName p) (Spelling.node Meaning.nothing).Holds :=
  (writes_construct _ _ _ writes_nothing).asNode

theorem writes_constraint (c : IdentityConstraint) :
    Writes (constraint cx c) (Spelling.node Meaning.nothing).Holds := by
  have hchildren : Writes (do
      let selector ← whenSome (path cx "selector") c.selector
      let fields ← each (path cx "field") c.fields
      return selector ++ fields) (Spelling.nodes Meaning.nothing).Holds :=
    (writes_whenSome (writes_path "selector") c.selector).followed
      (writes_each (writes_path "field") c.fields)
  unfold constraint
  cases c.kind with
  | keyref name =>
      exact (writes_token name).after fun _ => (writes_construct _ _ _ hchildren).asNode
  | _ => exact (writes_construct _ _ _ hchildren).asNode

theorem writes_demand {kind : ComponentKind} (id : ComponentId kind) :
    Writes (demand cx id) Spelling.any.Holds := by
  unfold demand
  split
  · exact writes_pure fun _ _ => trivial
  · exact writes_throw _

theorem writes_demandName (kind : ComponentKind) (name : Option QName) :
    Writes (demandName cx kind name) Spelling.any.Holds := by
  cases name with
  | none => exact writes_throw _
  | some name => exact writes_pure fun _ _ => trivial

theorem writes_guard {b : Bool} (name : Option QName) {cause : Inconsistency} {m : Writer α}
    (h : Writes m Q) : Writes (do
      if b then inconsistent cx name cause
      m) Q := by
  cases b with
  | true => exact writes_throw _
  | false => exact h

theorem writes_declaredAs (kind : ComponentKind) (topLevel : Bool) (ref name : Option QName) :
    Writes (declaredAs cx kind topLevel ref name) Spelling.any.Holds := by
  unfold declaredAs
  split
  · exact (writes_token _).map fun _ _ _ _ => trivial
  · exact writes_pure fun _ _ => trivial
  · exact writes_throw _
  · exact writes_pure fun _ _ => trivial

end Constructs

section Components

variable {cx : WriterContext} {inline : TypeId → Writer Element}

/-- An element with its bounds as a node. -/
theorem Writes.asParticle {m : Writer Element} (h : Writes m Spelling.element.Holds) (o : Occurs) :
    Writes (m >>= fun e => pure (Node.ofElement (withOccurs o e)))
      (Spelling.node Meaning.nothing).Holds :=
  h.map fun _ _ _ he => Spelling.node_ofElement (Spelling.element_withOccurs o he)

-- what is written for the types that are defined in place is spelled well
variable (hinline : ∀ id, Writes (inline id) Spelling.element.Holds)

include hinline

theorem writes_inlineType (slot : TypeSlot) :
    Writes (inlineType inline slot) (Spelling.nodes Meaning.nothing).Holds := by
  cases slot with
  | anonymous id => exact (hinline id).asNodes
  | _ => exact writes_nothing

theorem writes_element (topLevel : Bool) (id : ElementId) :
    Writes (element cx inline topLevel id) Spelling.element.Holds := by
  have hchildren : ∀ e : ElementDecl, Writes (do
      let type ← inlineType inline e.type
      let constraints ← each (constraint cx) e.constraints
      return type ++ constraints) (Spelling.nodes Meaning.nothing).Holds := fun e =>
    (writes_inlineType hinline e.type).followed (writes_each writes_constraint e.constraints)
  exact (writes_demand id).after fun e =>
    (writes_declaredAs .element topLevel e.ref e.name).after fun _ =>
      (writes_token? e.type.typeName?).after fun _ => (writes_token? e.substitutionGroup).after
        fun _ => writes_construct _ _ _ (hchildren e)

theorem writes_attributeDecl (topLevel : Bool) (id : AttributeId) :
    Writes (attributeDecl cx inline topLevel id) Spelling.element.Holds :=
  (writes_demand id).after fun a =>
    (writes_declaredAs .attribute topLevel a.ref a.name).after fun _ =>
      (writes_token? a.type.typeName?).after fun _ =>
        writes_construct _ _ _ (writes_inlineType hinline a.type)

theorem writes_attributeItem (i : AttributeItem) :
    Writes (attributeItem cx inline i) (Spelling.node Meaning.nothing).Holds := by
  cases i with
  | «attribute» id => exact (writes_attributeDecl hinline false id).asNode
  | group ref =>
      exact (writes_token ref.target).after fun _ =>
        (writes_construct _ _ _ writes_nothing).asNode

omit hinline

mutual

theorem writes_particle (hinline : ∀ id, Writes (inline id) Spelling.element.Holds) :
    ∀ p : Particle, Writes (particle cx inline p) (Spelling.node Meaning.nothing).Holds
  | .model o c common particles => by
      unfold particle
      exact (writes_construct _ _ _ (writes_particleList hinline particles)).asParticle o
  | .element o id => by
      unfold particle
      exact (writes_element hinline false id).asParticle o
  | .any o w => by
      unfold particle
      exact (writes_wildcard "any" w).asParticle o
  | .group o ref => by
      unfold particle
      exact (writes_token ref.target).after fun _ =>
        (writes_construct _ _ _ writes_nothing).asParticle o

theorem writes_particleList (hinline : ∀ id, Writes (inline id) Spelling.element.Holds) :
    ∀ ps : List Particle,
      Writes (particleList cx inline ps) (Spelling.nodes Meaning.nothing).Holds
  | [] => by
      unfold particleList
      exact writes_nothing
  | p :: rest => by
      unfold particleList
      exact (writes_particle hinline p).bind fun _ =>
        (writes_particleList hinline rest).map fun _ _ _ hrest hnode =>
          Spelling.nodes_cons hnode hrest

end

include hinline

theorem writes_content (c : Content) :
    Writes (content cx inline c) (Spelling.nodes Meaning.nothing).Holds := by
  have hwildcard : ∀ w, Writes (anyAttribute cx w) (Spelling.node Meaning.nothing).Holds :=
    fun w => (writes_wildcard "anyAttribute" w).asNode
  refine (writes_whenSome (writes_particle hinline) c.particle).bind fun particles =>
    (writes_each (writes_attributeItem hinline) c.attributes).bind fun attributes =>
      (writes_whenSome hwildcard c.anyAttribute).map
        fun _ _ wildcards hwildcards hattributes hparticles => ?_
  exact Spelling.nodes_append (Spelling.nodes_append hparticles hattributes) hwildcards

theorem writes_inlineNode (id : TypeId) :
    Writes (inlineNode inline id) (Spelling.node Meaning.nothing).Holds :=
  (hinline id).asNode

theorem writes_simpleBody (name : Option QName) (s : SimpleType) :
    Writes (simpleBody cx inline name s) (Spelling.nodes Meaning.nothing).Holds := by
  cases s with
  | builtin base => exact writes_throw _
  | unspecified => exact writes_nothing
  | restriction r =>
      have hchildren : Writes (do
          let inner ← whenSome (inlineNode inline) r.baseType
          let facets ← each (facet cx) r.facets
          return inner ++ facets) (Spelling.nodes Meaning.nothing).Holds :=
        (writes_whenSome (writes_inlineNode hinline) r.baseType).followed
          (writes_each writes_facet r.facets)
      exact writes_guard name ((writes_token? r.base).after fun base =>
        (writes_construct _ _ _ hchildren).asNodes)
  | list l =>
      have hchildren := writes_whenSome (writes_inlineNode hinline) l.itemType
      exact writes_guard name ((writes_token? l.itemTypeName).after fun itemType =>
        (writes_construct _ _ _ hchildren).asNodes)
  | union u =>
      have hchildren := writes_each (writes_inlineNode hinline) u.memberTypes
      exact (writes_tokens u.memberNames).after fun members =>
        (writes_construct _ _ _ hchildren).asNodes

theorem writes_derivation (name : Option QName) (d : Derivation) :
    Writes (derivation cx inline name d) (Spelling.node Meaning.nothing).Holds := by
  refine writes_guard name ((writes_token? d.base).after fun base => ?_)
  refine (writes_construct _ _ _ ?_).asNode
  refine (writes_whenSome (writes_inlineNode hinline) d.simpleType).bind fun inner =>
    (writes_each writes_facet d.facets).bind fun facets =>
      (writes_content hinline d.content).map fun _ _ rest hrest hfacets hinner => ?_
  exact Spelling.nodes_append (Spelling.nodes_append hinner hfacets) hrest

theorem writes_contentModel (name : Option QName) (m : ContentModel) :
    Writes (contentModel cx inline name m) (Spelling.nodes Meaning.nothing).Holds := by
  cases m with
  | direct c => exact writes_content hinline c
  | simple c =>
      have hderivation : ∀ d, Writes (simpleDerivation cx inline name d)
          (Spelling.node Meaning.nothing).Holds := fun d =>
        writes_guard name (writes_guard name (writes_derivation hinline name d))
      exact (writes_construct _ _ _ (writes_whenSome hderivation c.derivation)).asNodes
  | complex c =>
      have hderivation : ∀ d, Writes (complexDerivation cx inline name d)
          (Spelling.node Meaning.nothing).Holds := fun d =>
        writes_guard name (writes_derivation hinline name d)
      exact (writes_construct _ _ _ (writes_whenSome hderivation c.derivation)).asNodes

theorem writes_typeDefinition (named : Bool) (id : TypeId) :
    Writes (typeDefinition cx inline named id) Spelling.element.Holds := by
  refine (writes_demand id).after fun t => writes_guard t.name ?_
  have hname : ∀ n : QName, Writes (pure (some n.localName)) Spelling.any.Holds := fun n =>
    writes_pure fun _ _ => trivial
  cases t.body with
  | simple s =>
      have hbody : Writes (simpleBody cx inline t.name s) (Spelling.nodes Meaning.nothing).Holds :=
        writes_simpleBody hinline t.name s
      cases named with
      | false => exact writes_construct _ _ _ hbody
      | true =>
          exact (writes_demandName .type t.name).after fun n => (hname n).after fun name =>
            writes_construct _ _ _ hbody
  | complex c =>
      have hbody : Writes (contentModel cx inline t.name c.content)
          (Spelling.nodes Meaning.nothing).Holds :=
        writes_contentModel hinline t.name c.content
      cases named with
      | false => exact writes_construct _ _ _ hbody
      | true =>
          exact (writes_demandName .type t.name).after fun n => (hname n).after fun name =>
            writes_construct _ _ _ hbody

theorem writes_component (ref : ComponentRef) :
    Writes (component cx inline ref) Spelling.element.Holds := by
  obtain ⟨kind, id⟩ := ref
  cases kind with
  | type => exact writes_typeDefinition hinline true id
  | element => exact writes_element hinline true id
  | «attribute» => exact writes_attributeDecl hinline true id
  | group =>
      exact (writes_demand id).after fun g => (writes_demandName .group g.name).after fun _ =>
        writes_construct _ _ _ (writes_whenSome (writes_particle hinline) g.particle)
  | attributeGroup =>
      exact (writes_demand id).after fun g =>
        (writes_demandName .attributeGroup g.name).after fun _ =>
          writes_construct _ _ _ (writes_content hinline _)
  | notationDecl =>
      exact (writes_demand id).after fun n =>
        (writes_demandName .notationDecl n.name).after fun _ =>
          writes_construct _ _ _ writes_nothing

theorem writes_item (i : SchemaItem) :
    Writes (item cx inline i) (Spelling.node Meaning.nothing).Holds := by
  have hcomponent : ∀ ref, Writes (componentNode cx inline ref)
      (Spelling.node Meaning.nothing).Holds := fun ref => (writes_component hinline ref).asNode
  cases i with
  | note a => exact writes_annotationNode a
  | external e => exact (writes_construct _ _ _ (writes_each hcomponent e.redefined)).asNode
  | component ref => exact hcomponent ref

omit hinline

/-- Types that are defined in place are spelled well at every depth. -/
theorem writes_inlineTypeDefinition (depth : Nat) : ∀ id,
    Writes (inlineTypeDefinition cx depth id) Spelling.element.Holds := by
  induction depth with
  | zero => exact fun id => writes_throw _
  | succ depth ih => exact fun id => writes_typeDefinition ih false id

variable (cx)

theorem writes_root : Writes (root cx) Spelling.element.Holds := by
  have htag := writes_tag "schema" fun outer =>
    Spelling.attributes_attributesOf (rootAttributes cx.schema)
  have hitem : ∀ i, Writes (item cx (inlineTypeDefinition cx (cx.collection.typeCount + 1)) i)
      (Spelling.node Meaning.nothing).Holds := writes_item (writes_inlineTypeDefinition _)
  have hitems := writes_each hitem (writtenItems cx.schema.items)
  refine htag.bind fun t => (writes_foreign cx.schema.foreign).bind fun content =>
    hitems.map fun _ _ items hitems hcontent ht => ?_
  exact ⟨Spelling.tag_more ht hcontent.1, Spelling.nodes_append hcontent.2 hitems⟩

/-- The root of a document declares a table of prefixes, chosen with a view to
those that the source document recorded, and all names are spelled with these
or with what copied markup declares. -/
theorem document_spelled {e : Element} (h : (document cx).1 = .ok e) :
    ∃ t : PrefixTable, t.Sound ∧ e.tag.declared = t.declared ∧ t.recorded = cx.schema.bindings ∧
      e.tag.EveryName (Name.Spelled t.meaning) Meaning.nothing ∧
      Node.EveryNameIn (Name.Spelled t.meaning) Meaning.nothing e.children := by
  let start : WriterState := { prefixes := PrefixTable.ofSchema cx.schema }
  have hroot := writes_root cx start (PrefixTable.sound_ofSchema cx.schema)
  have hdocument : (document cx).1 = (exec (root cx) start).1.map fun e =>
      { e with tag := { e.tag with declared := (exec (root cx) start).2.prefixes.declared } } := rfl
  rw [hdocument] at h
  cases hexec : (exec (root cx) start).1 with
  | error err =>
      rw [hexec] at h
      cases h
  | ok written =>
      rw [hexec] at h
      cases h
      obtain ⟨hsound, hextends, ⟨-, htag⟩, hchildren⟩ := hroot.of_ok (Prod.ext hexec rfl)
      exact ⟨_, hsound, rfl, hextends.recorded, htag, hchildren⟩

end Components

end Writer

end XmlSchema
