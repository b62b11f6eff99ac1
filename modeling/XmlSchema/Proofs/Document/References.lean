import XmlSchema.Document.Writer
import XmlSchema.Proofs.Resolution.Drawing
import XmlSchema.Proofs.Text.Trimming

/-!
# What written documents refer to

A written document has the target namespace of its schema and the same
references to other documents in the same order, and nothing else in it is
taken for a reference.
-/

namespace XmlSchema

open Attempt Compose

/-- A reference that the construct of a document can be: a location without
blanks around it, and a namespace on an import alone. -/
structure ExternalRef.Plain (e : ExternalRef) : Prop where
  location : ∀ l, e.location = some l → Text.trim l = l ∧ l.isEmpty = false
  namespaceName : e.kind ≠ .importation → e.namespaceName = none

/-- The reference to another document that a node is. -/
def Xml.Node.reference? (node : Xml.Node) : Option ExternalRef :=
  node.element?.bind Compose.reference?

namespace Compose

variable {e : Xml.Element} {r : ExternalRef}

theorem references_eq (document : Xml.Element) :
    (skeletonOf document).references = document.children.filterMap Xml.Node.reference? :=
  List.filterMap_filterMap

theorem plain_reference (kind : ExternalKind) (t : Xml.Tag) : (reference kind t).Plain where
  location := by
    intro l hl
    obtain ⟨hl, hempty⟩ := Option.filter_eq_some_iff.1 hl
    obtain ⟨text, -, rfl⟩ := Option.map_eq_some_iff.1 hl
    exact ⟨Text.trim_trim text, by simpa using hempty⟩
  namespaceName := fun hkind => if_neg hkind

theorem plain_of_reference? (h : reference? e = some r) : r.Plain := by
  unfold reference? at h
  split at h
  · rename_i kind _
    have hplain := plain_reference kind e.tag
    cases h
    exact ⟨hplain.location, hplain.namespaceName⟩
  · cases h

/-- A reference leads nowhere at first. -/
theorem untargeted_of_reference? (h : reference? e = some r) : r.untargeted = r := by
  unfold reference? at h
  split at h
  · cases h
    rfl
  · cases h

/-- A tag with the attributes of a reference refers to the same. -/
theorem reference_of_attributes {e : ExternalRef} {t : Xml.Tag} (hplain : e.Plain)
    (hlocation : t.attribute? "schemaLocation" = e.location)
    (hnamespace : e.kind = .importation → t.attribute? "namespace" = e.namespaceName) :
    reference e.kind t =
      { e.bare.untargeted with common := { xmlId := t.attribute? "id" } } := by
  have hlocation : locationOf? t = e.location := by
    unfold locationOf?
    rw [hlocation]
    cases hl : e.location with
    | none => rfl
    | some l =>
        obtain ⟨htrim, hempty⟩ := hplain.location l hl
        rw [Option.map_some, htrim]
        exact Option.filter_eq_some_iff.2 ⟨rfl, by rw [hempty]; rfl⟩
  have hnamespace : (if e.kind = .importation then t.attribute? "namespace" else none) =
      e.namespaceName := by
    split
    · rename_i hkind
      exact hnamespace hkind
    · rename_i hkind
      exact (hplain.namespaceName hkind).symm
  unfold reference ExternalRef.bare ExternalRef.untargeted
  rw [hlocation, hnamespace]

theorem reference?_foreign (h : ChildClass.of e.tag.name = .foreign) : reference? e = none := by
  unfold reference?
  rw [h]

/-- A construct of the schema language is taken for what its name says. -/
theorem childClass_of_is {localName : String} {construct : Construct}
    (he : e.tag.is schemaNamespace localName = true)
    (hconstruct : Construct.ofLocalName? localName = some construct) :
    ChildClass.of e.tag.name = .known construct := by
  unfold Xml.Tag.is at he
  rw [Bool.and_eq_true, beq_iff_eq, beq_iff_eq] at he
  unfold ChildClass.of
  rw [if_neg (not_not_intro he.1), he.2, hconstruct]

end Compose

namespace Writer

variable {α β : Type} {Q : α → Prop} {cx : WriterContext} {inline : TypeId → Writer Xml.Element}

/-- What comes of a step of writing, if it succeeds, has a property. -/
def Gives (m : Writer α) (Q : α → Prop) : Prop :=
  ∀ s : WriterState, Ends m s (fun a _ => Q a) fun _ _ => True

theorem gives_pure {a : α} (h : Q a) : Gives (pure a) Q := fun _ => h

theorem gives_any (m : Writer α) : Gives m fun _ => True := by
  intro s
  unfold Ends
  split <;> trivial

theorem Gives.bind {P : β → Prop} {m : Writer β} {f : β → Writer α} (h : Gives m P)
    (hf : ∀ b, P b → Gives (f b) Q) : Gives (m >>= f) Q :=
  fun s => Ends.bind (h s) fun b t hb => hf b hb t

theorem Gives.mono {P : α → Prop} {m : Writer α} (h : Gives m P) (hQ : ∀ a, P a → Q a) :
    Gives m Q :=
  fun s => (h s).mono (fun a _ ha => hQ a ha) fun _ _ h => h

/-- What comes of a step does not matter to what is written afterwards. -/
theorem Gives.after {m : Writer β} {f : β → Writer α} (hf : ∀ b, Gives (f b) Q) :
    Gives (m >>= f) Q :=
  (gives_any m).bind fun b _ => hf b

/-- Nor does a check that comes before. -/
theorem Gives.guarded {b : Bool} {name : Option QName} {cause : Inconsistency} {m : Writer α}
    (h : Gives m Q) :
    Gives (do
      if b then inconsistent cx name cause
      m) Q := by
  split
  · exact .after fun _ => h
  · exact h

/-- Names that differ in their prefixes at the most. -/
def SameName (name written : Xml.Name) : Prop :=
  written.uri = name.uri ∧ written.localName = name.localName

theorem childClass_congr {name written : Xml.Name} (h : SameName name written) :
    ChildClass.of written = ChildClass.of name := by
  unfold ChildClass.of Xml.Name.namespaceName
  rw [h.1, h.2]

theorem gives_adoptAttributes (scope : Scope) (given : List Xml.Attribute)
    (h : ∀ a ∈ given, a.name.namespaceName ≠ "") :
    Gives (adoptAttributes scope given) fun as => ∀ a ∈ as, a.name.namespaceName ≠ "" := by
  induction given with
  | nil => exact gives_pure nofun
  | cons a rest ih =>
      have hfirst : Gives (adoptAttribute scope a) fun a' => a'.name.namespaceName ≠ "" :=
        .after fun pfx => gives_pure (h a List.mem_cons_self)
      refine hfirst.bind fun a' ha' =>
        (ih fun b hb => h b (List.mem_cons_of_mem a hb)).bind fun more hmore => gives_pure ?_
      exact fun b hb => (List.mem_cons.1 hb).elim (fun heq => heq ▸ ha') (hmore b)

theorem gives_adopt (scope : Scope) {node : Xml.Node} (h : ∀ e, node.element? = some e →
    ChildClass.of e.tag.name = .foreign) :
    Gives (adopt scope node) fun written => written.reference? = none := by
  cases node with
  | text content =>
      unfold adopt
      exact gives_pure rfl
  | comment content =>
      unfold adopt
      exact gives_pure rfl
  | element tag kids =>
      unfold adopt
      have htag : Gives (adoptTag (scope.enter tag.declared) tag) fun t =>
          SameName tag.name t.name :=
        .after fun pfx => .after fun as => gives_pure ⟨rfl, rfl⟩
      refine htag.bind fun t ht => .after fun kids => gives_pure (reference?_foreign ?_)
      rw [childClass_congr ht]
      exact h _ rfl

theorem gives_adoptAll (scope : Scope) (nodes : List Xml.Node)
    (h : ∀ node ∈ nodes, ∀ e, node.element? = some e → ChildClass.of e.tag.name = .foreign) :
    Gives (adoptAll scope nodes) fun written => written.filterMap Xml.Node.reference? = [] := by
  induction nodes with
  | nil =>
      unfold adoptAll
      exact gives_pure rfl
  | cons node rest ih =>
      unfold adoptAll
      refine (gives_adopt scope (h node List.mem_cons_self)).bind fun node' hnode =>
        (ih fun n hn => h n (List.mem_cons_of_mem node hn)).bind fun more hmore => gives_pure ?_
      rw [List.filterMap_cons, hnode]
      exact hmore

/-- Written foreign content is taken neither for attributes of a construct nor
for references to documents. -/
theorem gives_foreign {contents : List ForeignContent}
    (h : ∀ content ∈ contents, content.Outside) :
    Gives (foreign cx contents) fun written =>
      (∀ a ∈ written.1, a.name.namespaceName ≠ "") ∧
        written.2.filterMap Xml.Node.reference? = [] := by
  unfold foreign
  split
  · exact gives_pure ⟨nofun, rfl⟩
  · refine .after fun _ => ?_
    cases cx.policy with
    | drop => exact gives_pure ⟨nofun, rfl⟩
    | keep =>
        refine (gives_adoptAttributes outside (foreignAttributes contents) ?_).bind fun as has =>
          (gives_adoptAll outside (foreignElements contents) ?_).bind fun nodes hnodes =>
            gives_pure ⟨has, hnodes⟩
        · intro a ha
          obtain ⟨content, hcontent, heq⟩ := List.mem_filterMap.1 ha
          have houtside := h content hcontent
          unfold ForeignContent.Outside at houtside
          split at heq
          · rename_i hpayload
            cases heq
            rw [hpayload] at houtside
            exact houtside
          · cases heq
        · intro node hnode e he
          obtain ⟨content, hcontent, heq⟩ := List.mem_filterMap.1 hnode
          have houtside := h content hcontent
          unfold ForeignContent.Outside at houtside
          split at heq
          · cases heq
          · rename_i hpayload
            cases heq
            cases he
            rw [hpayload] at houtside
            exact houtside

/-- The first value among optional ones with some name. -/
def valueOf? (pairs : List (String × Option String)) (localName : String) : Option String :=
  pairs.findSome? fun p => if p.1 = localName then p.2 else none

theorem attribute?_attributesOf {t : Xml.Tag} {pairs : List (String × Option String)}
    {more : List Xml.Attribute} (ht : t.attributes = attributesOf pairs ++ more)
    (hmore : ∀ a ∈ more, a.name.namespaceName ≠ "") (localName : String) :
    t.attribute? localName = valueOf? pairs localName := by
  unfold Xml.Tag.attribute? Xml.Tag.attributeNs? valueOf?
  rw [ht]
  clear ht
  induction pairs with
  | nil =>
      have hnone : more.find? (fun a => a.name.namespaceName == "" &&
          a.name.localName == localName) = none :=
        List.find?_eq_none.2 fun a ha => by simp [hmore a ha]
      simp [attributesOf, hnone]
  | cons p rest ih =>
      obtain ⟨name, value⟩ := p
      cases value with
      | none =>
          rw [List.findSome?_cons, ite_self]
          exact ih
      | some value =>
          by_cases hname : name = localName
          · simp [attributesOf, hname, Xml.Name.namespaceName]
          · simp only [List.findSome?_cons, if_neg hname]
            rw [← ih]
            simp [attributesOf, hname, Xml.Name.namespaceName]

theorem gives_tag (localName : String) (attributes : List Xml.Attribute) :
    Gives (tag localName attributes) fun t =>
      t.is schemaNamespace localName = true ∧ t.attributes = attributes := by
  refine .after fun _ => gives_pure ⟨?_, rfl⟩
  unfold Xml.Tag.is
  rw [Bool.and_eq_true, beq_iff_eq, beq_iff_eq]
  exact ⟨rfl, rfl⟩

theorem gives_construct (localName : String) (pairs : List (String × Option String))
    (common : Common) (children : Writer (List Xml.Node)) :
    Gives (construct cx localName pairs common children) fun e =>
      e.tag.is schemaNamespace localName = true :=
  (gives_tag localName _).bind fun _ ht => .after fun _ => .after fun _ => .after fun _ =>
    gives_pure ht.1

/-- The attributes that a construct is written with are its own. -/
theorem gives_attributes (localName : String) (pairs : List (String × Option String))
    {common : Common} (h : ∀ content ∈ common.foreign, content.Outside)
    (children : Writer (List Xml.Node)) :
    Gives (construct cx localName pairs common children) fun e =>
      e.tag.is schemaNamespace localName = true ∧
        ∀ name, e.tag.attribute? name = valueOf? (pairs ++ [("id", common.xmlId)]) name := by
  refine (gives_tag localName _).bind fun t ⟨ht, hattributes⟩ => .after fun note =>
    (gives_foreign h).bind fun content hcontent => .after fun inner => gives_pure ⟨ht, ?_⟩
  exact attribute?_attributesOf (by rw [hattributes]) hcontent.1

/-- A construct that is no reference to a document is not taken for one. -/
theorem gives_other {localName : String} (construct : Construct)
    (hconstruct : Construct.ofLocalName? localName = some construct)
    (hother : ∀ kind, construct ≠ .external kind) {pairs : List (String × Option String)}
    {common : Common} {children : Writer (List Xml.Node)} :
    Gives (Writer.construct cx localName pairs common children) fun e => reference? e = none := by
  refine (gives_construct localName pairs common children).mono fun e he => ?_
  refine reference?_other fun kind => ?_
  rw [childClass_of_is he hconstruct]
  exact fun heq => hother kind (ChildClass.known.inj heq)

theorem gives_component (ref : ComponentRef) :
    Gives (component cx inline ref) fun e => reference? e = none := by
  obtain ⟨kind, id⟩ := ref
  cases kind with
  | type =>
      refine .after fun t => .guarded (.after fun name => ?_)
      cases t.isSimple with
      | true => exact gives_other .simpleType rfl nofun
      | false => exact gives_other .complexType rfl nofun
  | element =>
      exact .after fun e => .after fun naming => .after fun type => .after fun group =>
        gives_other .element rfl nofun
  | «attribute» =>
      exact .after fun a => .after fun naming => .after fun type =>
        gives_other .attribute rfl nofun
  | group =>
      exact .after fun g => .after fun name => gives_other .group rfl nofun
  | attributeGroup =>
      exact .after fun g => .after fun name => gives_other .attributeGroup rfl nofun
  | notationDecl =>
      exact .after fun n => .after fun name => gives_other .notationDecl rfl nofun

theorem gives_external {e : ExternalRef} (hsecluded : e.Secluded) (hplain : e.Plain) :
    Gives (external cx inline e) fun written =>
      reference? written = some e.bare.untargeted := by
  refine (gives_attributes _ _ hsecluded _).mono fun written ⟨his, hattribute⟩ => ?_
  have hclass : ChildClass.of written.tag.name = .known (.external e.kind) := by
    refine childClass_of_is his ?_
    cases e.kind <;> rfl
  have hlocation : written.tag.attribute? "schemaLocation" = e.location := by
    rw [hattribute]
    cases e.location <;> simp [valueOf?]
  have hnamespace (hkind : e.kind = .importation) :
      written.tag.attribute? "namespace" = e.namespaceName := by
    rw [hattribute, if_pos hkind]
    cases e.namespaceName <;> simp [valueOf?]
  rw [reference?_external hclass, reference_of_attributes hplain hlocation hnamespace]
  rfl

theorem gives_item {i : SchemaItem} (h : ∀ e, i = .external e → e.Secluded ∧ e.Plain) :
    Gives (item cx inline i) fun node =>
      node.reference? = i.external?.map fun e => e.bare.untargeted := by
  cases i with
  | note a =>
      refine (gives_tag "annotation" _).bind fun t ht => .after fun content => .after fun entries =>
        gives_pure (reference?_other fun kind => ?_)
      have hnote : Construct.ofLocalName? "annotation" = some .note := rfl
      rw [childClass_of_is ht.1 hnote]
      exact nofun
  | external e =>
      obtain ⟨hsecluded, hplain⟩ := h e rfl
      exact (gives_external hsecluded hplain).bind fun written hwritten => gives_pure hwritten
  | component ref => exact (gives_component ref).bind fun written hwritten => gives_pure hwritten

theorem gives_each {write : α → Writer Xml.Node} {f : α → Option ExternalRef} {xs : List α}
    (h : ∀ x ∈ xs, Gives (write x) fun node => node.reference? = f x) :
    Gives (each write xs) fun nodes => nodes.filterMap Xml.Node.reference? = xs.filterMap f := by
  induction xs with
  | nil => exact gives_pure rfl
  | cons x rest ih =>
      refine (h x List.mem_cons_self).bind fun node hnode =>
        (ih fun y hy => h y (List.mem_cons_of_mem x hy)).bind fun nodes hnodes => gives_pure ?_
      rw [List.filterMap_cons, List.filterMap_cons, hnode, hnodes]

/-- References to documents are written first, and in their order. -/
theorem filterMap_writtenItems (s : Schema) (f : ExternalRef → ExternalRef) :
    (writtenItems s.items).filterMap (fun i => i.external?.map f) = s.externals.map f := by
  have hsome : ∀ items : List SchemaItem,
      (items.filter fun i => i.external?.isSome).filterMap (fun i => i.external?.map f) =
        items.filterMap fun i => i.external?.map f := by
    intro items
    rw [List.filterMap_filter]
    refine List.filterMap_congr fun i _ => ?_
    cases i.external? <;> rfl
  have hnone : ∀ items : List SchemaItem,
      (items.filter fun i => i.external?.isNone).filterMap (fun i => i.external?.map f) = [] := by
    intro items
    rw [List.filterMap_filter]
    refine List.filterMap_eq_nil_iff.2 fun i _ => ?_
    cases i.external? <;> rfl
  unfold writtenItems Schema.externals
  rw [List.filterMap_append, hsome, hnone, List.append_nil, List.map_filterMap]

theorem gives_root (hsecluded : cx.schema.Secluded) (hplain : ∀ e ∈ cx.schema.externals, e.Plain)
    (htarget : cx.schema.targetNamespace ≠ some "") :
    Gives (root cx) fun e => skeletonOf e =
      ⟨true, cx.schema.targetNamespace, cx.schema.externals.map fun e => e.bare.untargeted⟩ := by
  refine (gives_tag "schema" _).bind fun t ⟨ht, hattributes⟩ =>
    (gives_foreign hsecluded.own).bind fun content ⟨hmore, hcontent⟩ =>
      (gives_each (f := fun i => i.external?.map fun e => e.bare.untargeted) fun i hi =>
        gives_item ?_).bind fun items hitems => gives_pure ?_
  · rintro e rfl
    have hmem : e ∈ cx.schema.externals := by
      refine List.mem_filterMap.2 ⟨.external e, ?_, rfl⟩
      rcases List.mem_append.1 hi with hi | hi <;> exact (List.mem_filter.1 hi).1
    exact ⟨hsecluded.references e hmem, hplain e hmem⟩
  · let written : Xml.Element :=
      ⟨{ t with attributes := t.attributes ++ content.1 }, content.2 ++ items⟩
    have hdeclared : declaredTarget? written = cx.schema.targetNamespace := by
      have hvalue : written.attribute? "targetNamespace" =
          valueOf? (rootAttributes cx.schema) "targetNamespace" :=
        attribute?_attributesOf (congrArg (· ++ content.1) hattributes) hmore _
      unfold declaredTarget?
      rw [hvalue]
      cases hs : cx.schema.targetNamespace with
      | none => simp [valueOf?, rootAttributes, hs]
      | some target =>
          rw [hs] at htarget
          simpa [valueOf?, rootAttributes, hs, Option.filter_eq_some_iff] using htarget
    have hreferences : (skeletonOf written).references =
        cx.schema.externals.map fun e => e.bare.untargeted := by
      rw [references_eq, List.filterMap_append, hcontent, hitems, filterMap_writtenItems]
      rfl
    have hschema : (skeletonOf written).isSchema = true := ht
    show skeletonOf written = _
    rw [← hdeclared, ← hreferences, ← hschema]
    rfl

/-- The document of a schema is its written root with the bindings that the
writing has led to. -/
theorem exists_of_document {P : Xml.Element → Prop} (hroot : Gives (root cx) P) {d : Xml.Element}
    (h : (document cx).1 = .ok d) :
    ∃ written declared, P written ∧
      d = { written with tag := { written.tag with declared } } := by
  let start : WriterState := { prefixes := PrefixTable.ofSchema cx.schema }
  have hdocument : (document cx).1 = (exec (root cx) start).1.map fun e =>
      { e with tag := { e.tag with declared := (exec (root cx) start).2.prefixes.declared } } := rfl
  rw [hdocument] at h
  cases hexec : (exec (root cx) start).1 with
  | error err =>
      rw [hexec] at h
      cases h
  | ok written =>
      rw [hexec] at h
      cases h
      exact ⟨written, _, (hroot start).of_ok (Prod.ext hexec rfl), rfl⟩

/-- The skeleton of the document that a schema is written as. -/
theorem skeletonOf_document {c : Collection} {policy : ForeignPolicy} {s : Schema}
    {d : Xml.Element} (h : (document { collection := c, schema := s, policy }).1 = .ok d)
    (hsecluded : s.Secluded) (hplain : ∀ e ∈ s.externals, e.Plain)
    (htarget : s.targetNamespace ≠ some "") :
    skeletonOf d = ⟨true, s.targetNamespace, s.externals.map fun e => e.bare.untargeted⟩ := by
  let cx : WriterContext := { collection := c, schema := s, policy }
  have hroot : Gives (root cx) fun e => skeletonOf e =
      ⟨true, s.targetNamespace, s.externals.map fun e => e.bare.untargeted⟩ :=
    gives_root hsecluded hplain htarget
  obtain ⟨written, declared, hskeleton, rfl⟩ := exists_of_document hroot h
  exact hskeleton

/-- What is written of an entry stands among what is written of the list. -/
theorem gives_each_mem {write : α → Writer Xml.Node} {P : Xml.Node → Prop} {x : α} {xs : List α}
    (hx : x ∈ xs) (h : Gives (write x) P) :
    Gives (each write xs) fun nodes => ∃ node ∈ nodes, P node := by
  induction xs with
  | nil => cases hx
  | cons y rest ih =>
      rcases List.mem_cons.1 hx with rfl | hx
      · exact h.bind fun node hnode => .after fun more =>
          gives_pure ⟨node, List.mem_cons_self, hnode⟩
      · exact .after fun node => (ih hx).bind fun nodes ⟨found, hfound, hP⟩ =>
          gives_pure ⟨found, List.mem_cons_of_mem node hfound, hP⟩

/-- A value that is there is written, whatever attributes follow. -/
theorem attribute?_of_valueOf? {t : Xml.Tag} {pairs : List (String × Option String)}
    {more : List Xml.Attribute} (ht : t.attributes = attributesOf pairs ++ more)
    {localName value : String} (h : valueOf? pairs localName = some value) :
    t.attribute? localName = some value := by
  have hown : ({ t with attributes := attributesOf pairs } : Xml.Tag).attribute? localName =
      some value :=
    (attribute?_attributesOf (List.append_nil _).symm (List.forall_mem_nil _) localName).trans h
  obtain ⟨a, ha, hvalue⟩ := Option.map_eq_some_iff.1 hown
  unfold Xml.Tag.attribute? Xml.Tag.attributeNs?
  rw [ht, List.find?_append, ha, Option.some_or, Option.map_some, hvalue]

/-- A reference to a document stands in a tree as an element with its location. -/
def Cites (d : Xml.Element) (e : ExternalRef) (location : String) : Prop :=
  ∃ written ∈ d.childElements, written.tag.is schemaNamespace e.kind.localName = true ∧
    written.tag.attribute? "schemaLocation" = some location

theorem gives_location {e : ExternalRef} {location : String} (h : e.location = some location) :
    Gives (external cx inline e) fun written =>
      written.tag.is schemaNamespace e.kind.localName = true ∧
        written.tag.attribute? "schemaLocation" = some location := by
  refine (gives_tag _ _).bind fun t ⟨ht, hattributes⟩ => .after fun note => .after fun content =>
    .after fun inner => gives_pure ⟨ht, ?_⟩
  refine attribute?_of_valueOf? (by rw [hattributes]) ?_
  simp [valueOf?, h]

/-- Every reference of a schema stands in its document with the same location. -/
theorem cites_of_document {c : Collection} {policy : ForeignPolicy} {s : Schema}
    {d : Xml.Element} (h : (document { collection := c, schema := s, policy }).1 = .ok d)
    {e : ExternalRef} (he : e ∈ s.externals) {location : String}
    (hlocation : e.location = some location) : Cites d e location := by
  have hmem : .external e ∈ writtenItems s.items := by
    obtain ⟨i, hi, hexternal⟩ := List.mem_filterMap.1 he
    cases i with
    | external e' =>
        cases hexternal
        exact List.mem_append_left _ (List.mem_filter.2 ⟨hi, rfl⟩)
    | note a => cases hexternal
    | component ref => cases hexternal
  have hitem : ∀ cx inline, Gives (item cx inline (.external e)) fun node =>
      ∃ written, node.element? = some written ∧
        written.tag.is schemaNamespace e.kind.localName = true ∧
        written.tag.attribute? "schemaLocation" = some location := fun cx inline =>
    (gives_location hlocation).bind fun written hwritten => gives_pure ⟨written, rfl, hwritten⟩
  have hroot : Gives (root { collection := c, schema := s, policy }) fun written =>
      Cites written e location := by
    refine .after fun t => .after fun content => (gives_each_mem hmem (hitem _ _)).bind fun nodes
      ⟨node, hnode, written, hwritten, hcites⟩ => gives_pure ⟨written, ?_, hcites⟩
    exact List.mem_filterMap.2 ⟨node, List.mem_append_right _ hnode, hwritten⟩
  obtain ⟨written, declared, hcites, rfl⟩ := exists_of_document hroot h
  exact hcites

end Writer

end XmlSchema
