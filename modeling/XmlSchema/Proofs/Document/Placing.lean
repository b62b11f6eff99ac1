import XmlSchema.Proofs.Document.Recording

/-!
# Reading records what stands in a document

Every component that is read from a document is given a site there, at which it
reads as it is recorded.  Reading fails only where a token has a prefix that
means nothing.
-/

namespace XmlSchema

open Attempt

/-- The attributes of a construct that refer by name; a global declaration does
not refer to another one. -/
def Construct.labels (isGlobal : Bool) : Construct → List String
  | .element => "substitutionGroup" :: (if isGlobal then [] else ["ref"]) ++ ["type"]
  | .attribute => (if isGlobal then [] else ["ref"]) ++ ["type"]
  | .group => ["ref"]
  | .attributeGroup => ["ref"]
  | .derivation _ => ["base"]
  | .list => ["itemType"]
  | .union => ["memberTypes"]
  | .keyref => ["refer"]
  | _ => []

/-- The attributes by which a construct refers in the part that it plays. -/
def Role.labels : Role → List String
  | .element topLevel => "substitutionGroup" :: (if topLevel then [] else ["ref"]) ++ ["type"]
  | .attribute topLevel => (if topLevel then [] else ["ref"]) ++ ["type"]
  | .groupRef => ["ref"]
  | .attributeGroupRef => ["ref"]
  | .restriction => ["base"]
  | .derivation _ => ["base"]
  | .list => ["itemType"]
  | .union => ["memberTypes"]
  | .constraint .keyref => ["refer"]
  | _ => []

theorem Role.labels_ofTopLevel? {construct : Construct} {role : Role}
    (h : Role.ofTopLevel? construct = some role) : role.labels ⊆ construct.labels true := by
  cases construct <;> cases h <;> simp [labels, Construct.labels]

theorem Draft.labels_role? {d : Draft} {construct : Construct} {role : Role}
    (h : d.role? construct = some role) : role.labels ⊆ construct.labels false := by
  unfold Draft.role? Role.ofRedefinition? Role.ofContent? at h
  split at h
  all_goals try split at h
  all_goals try split at h
  all_goals cases h <;> simp [Role.labels, Construct.labels]

/-- The kind of component that a construct becomes in the part that it plays. -/
def Role.kind? : Role → Option ComponentKind
  | .simpleType _ => some .type
  | .complexType _ => some .type
  | .element _ => some .element
  | .attribute _ => some .attribute
  | .group => some .group
  | .attributeGroup => some .attributeGroup
  | .notationDecl => some .notationDecl
  | _ => none

theorem Role.kind?_ofTopLevel? {construct : Construct} {role : Role} {kind : ComponentKind}
    (h : Role.ofTopLevel? construct = some role) (hkind : role.kind? = some kind) :
    construct ∈ kind.constructs := by
  cases construct <;> cases h <;> cases hkind <;> simp [ComponentKind.constructs]

theorem Draft.kind?_role? {d : Draft} {construct : Construct} {role : Role} {kind : ComponentKind}
    (h : d.role? construct = some role) (hkind : role.kind? = some kind) :
    construct ∈ kind.constructs := by
  unfold Draft.role? Role.ofRedefinition? Role.ofContent? at h
  split at h
  all_goals try split at h
  all_goals try split at h
  all_goals cases h <;> cases hkind <;> simp [ComponentKind.constructs]

/-- An outcome is good or bad in a given way. -/
inductive Yields {α : Type} (Q : α → Prop) (E : SchemaError → Prop) : Except SchemaError α → Prop
  | ok {a : α} (h : Q a) : Yields Q E (.ok a)
  | error {e : SchemaError} (h : E e) : Yields Q E (.error e)

theorem Yields.bind {α β : Type} {Q : α → Prop} {R : β → Prop} {E : SchemaError → Prop}
    {x : Except SchemaError α} {f : α → Except SchemaError β} (hx : Yields Q E x)
    (hf : ∀ a, Q a → Yields R E (f a)) : Yields R E (x >>= f) := by
  cases hx with
  | ok h => exact hf _ h
  | error h => exact .error h

theorem Yields.mono {α : Type} {Q Q' : α → Prop} {E : SchemaError → Prop}
    {x : Except SchemaError α} (hx : Yields Q E x) (hQ : ∀ a, Q a → Q' a) : Yields Q' E x := by
  cases hx with
  | ok h => exact .ok (hQ _ h)
  | error h => exact .error h

theorem Yields.map {α β : Type} {Q : β → Prop} {E : SchemaError → Prop}
    {x : Except SchemaError α} {f : α → β} (hx : Yields (fun a => Q (f a)) E x) :
    Yields Q E (x.map f) := by
  cases hx with
  | ok h => exact .ok h
  | error h => exact .error h

variable {cx : Context} {st : Setting} {π : Site} {scope : Scope} {labels : List String}
  {label : String}

section Opening

variable (hst : cx.Sets st) (hscope : π.Scoped st scope)
include hst hscope

theorem resolve_yields (hlabel : label ∈ labels) {token : String}
    (htoken : token ∈ π.tokens label) :
    Yields (fun name => π.denotes? st token = some name) (π.Stumbles st cx.key labels)
      (cx.resolve scope token) := by
  rw [Context.resolve_eq hst hscope]
  cases hname : π.denotes? st token with
  | some name => exact .ok rfl
  | none => exact .error ⟨label, hlabel, token, htoken, Option.map_eq_none_iff.1 hname, rfl⟩

theorem resolveAll_yields (hlabel : label ∈ labels) {tokens : List String}
    (htokens : tokens ⊆ π.tokens label) :
    Yields (List.Forall₂ (fun token name => π.denotes? st token = some name) tokens)
      (π.Stumbles st cx.key labels) (cx.resolveAll scope tokens) := by
  induction tokens with
  | nil => exact .ok .nil
  | cons token rest ih =>
      obtain ⟨htoken, hrest⟩ := List.cons_subset.1 htokens
      unfold Context.resolveAll
      refine (resolve_yields hst hscope hlabel htoken).bind fun name hname => ?_
      exact (ih hrest).bind fun names hnames => .ok (.cons hname hnames)

/-- The name that a required token stands for. -/
theorem says_resolve (hlabel : label ∈ labels) {token : String}
    (htokens : π.tokens label = [token]) :
    Yields (fun name => π.Says st label [name]) (π.Stumbles st cx.key labels)
      (cx.resolve scope token) := by
  have htoken : token ∈ π.tokens label := htokens ▸ List.mem_singleton_self token
  refine (resolve_yields hst hscope hlabel htoken).mono fun name h => ?_
  unfold Site.Says
  rw [htokens]
  exact .cons h .nil

/-- The name that an optional token stands for. -/
theorem says_resolve? (hlabel : label ∈ labels) {token : Option String}
    (htokens : π.tokens label = token.toList) :
    Yields (fun name => π.Says st label name.toList) (π.Stumbles st cx.key labels)
      (cx.resolve? scope token) := by
  cases token with
  | none =>
      refine .ok ?_
      unfold Site.Says
      rw [htokens]
      exact .nil
  | some token =>
      unfold Context.resolve?
      exact Yields.map (Q := fun name : Option QName => π.Says st label name.toList)
        (says_resolve hst hscope hlabel htokens)

omit hst hscope in
/-- The local part of a name is that of the attribute that gives it. -/
theorem localName_map {text : Option String} {f : String → QName}
    (hf : ∀ t, (f t).localName = Text.trim t) {n : QName} (h : text.map f = some n) :
    text.map Text.trim = some n.localName := by
  obtain ⟨t, rfl, rfl⟩ := Option.map_eq_some_iff.1 h
  rw [Option.map_some, hf]

omit hst hscope in
theorem localName_qualify {text : Option String} {n : QName} (h : text.map cx.qualify = some n) :
    text.map Text.trim = some n.localName :=
  localName_map (f := cx.qualify) (fun _ => rfl) h

omit hst hscope in
theorem localName_localName (form : Form) {text : Option String} {n : QName}
    (h : text.map (fun t => cx.localName t form) = some n) :
    text.map Text.trim = some n.localName :=
  localName_map (f := fun t => cx.localName t form) (fun _ => by cases form <;> rfl) h

/-- What a declaration is called, and what it refers to. -/
theorem declaredName_yields (topLevel : Bool) (form : Form)
    (hlabel : topLevel = false → "ref" ∈ labels) :
    Yields (fun naming => (topLevel = false → π.Says st "ref" naming.2.toList) ∧
        ∀ n, naming.1 = some n → (π.tag.attribute? "name").map Text.trim = some n.localName)
      (π.Stumbles st cx.key labels) (Role.declaredName cx scope π.tag topLevel form) := by
  unfold Role.declaredName
  cases topLevel with
  | true => exact .ok ⟨nofun, fun _ => localName_qualify⟩
  | false =>
      have htokens : π.tokens "ref" = (π.tag.attribute? "ref").toList := rfl
      rw [if_neg nofun]
      split
      · rename_i token hattribute
        rw [hattribute] at htokens
        exact (says_resolve hst hscope (hlabel rfl) htokens).bind fun name h =>
          .ok ⟨fun _ => h, nofun⟩
      · rename_i hattribute
        rw [hattribute] at htokens
        refine .ok ⟨fun _ => ?_, fun _ => localName_localName form⟩
        unfold Site.Says
        rw [htokens]
        exact .nil

theorem declaredType_yields (hlabel : "type" ∈ labels) :
    Yields (fun slot => (∀ entry ∈ slot.references, π.Says st entry.1 entry.2) ∧ slot.inline = [])
      (π.Stumbles st cx.key labels) (Role.declaredType cx scope π.tag) := by
  unfold Role.declaredType
  have htokens : π.tokens "type" = (π.tag.attribute? "type").toList := rfl
  split
  · rename_i hattribute
    rw [hattribute] at htokens
    refine .ok ⟨List.forall_mem_singleton.2 ?_, rfl⟩
    unfold Site.Says
    rw [htokens]
    exact .nil
  · rename_i token hattribute
    rw [hattribute] at htokens
    exact (says_resolve hst hscope hlabel htokens).bind fun name h =>
      .ok ⟨List.forall_mem_singleton.2 h, rfl⟩

omit hst hscope in
theorem says_declared {topLevel : Bool} {ref : Option QName} {slot : TypeSlot}
    (href : topLevel = false → π.Says st "ref" ref.toList)
    (hslot : ∀ entry ∈ slot.references, π.Says st entry.1 entry.2) :
    ∀ entry ∈ declaredReferences topLevel ref slot, π.Says st entry.1 entry.2 := by
  intro entry hentry
  rcases List.mem_append.1 hentry with hentry | hentry
  · cases topLevel with
    | true => cases hentry
    | false => exact List.mem_singleton.1 hentry ▸ href rfl
  · exact hslot entry hentry

theorem constraintKind_yields (construct : Construct)
    (hlabels : (Role.constraint construct).labels ⊆ labels) :
    Yields (fun kind : ConstraintKind => ∀ entry ∈ kind.references, π.Says st entry.1 entry.2)
      (π.Stumbles st cx.key labels) (Role.constraintKind cx scope π.tag construct) := by
  cases construct with
  | keyref =>
      have hrefer : "refer" ∈ labels := hlabels List.mem_cons_self
      exact (says_resolve hst hscope hrefer rfl).bind fun refer h =>
        .ok (List.forall_mem_singleton.2 h)
  | _ => exact .ok nofun

theorem openElement_yields (topLevel : Bool) (hlabels : (Role.element topLevel).labels ⊆ labels) :
    Yields (fun e : ElementDecl =>
        (∀ entry ∈ ComponentKind.element.references e, π.Says st entry.1 entry.2) ∧
          ComponentKind.element.held e = [] ∧
          ∀ n, e.name = some n → (π.tag.attribute? "name").map Text.trim = some n.localName)
      (π.Stumbles st cx.key labels) (Role.openElement cx scope π.tag topLevel) := by
  unfold Role.openElement
  have hgroup : "substitutionGroup" ∈ labels := hlabels List.mem_cons_self
  have htype : "type" ∈ labels := hlabels (by simp [Role.labels])
  have href : topLevel = false → "ref" ∈ labels := fun h => hlabels (by simp [Role.labels, h])
  refine (says_resolve? hst hscope hgroup rfl).bind fun group hgroup => ?_
  refine (declaredName_yields hst hscope topLevel _ href).bind fun naming hnaming => ?_
  refine (declaredType_yields hst hscope htype).bind fun slot hslot => .ok ?_
  refine ⟨List.forall_mem_cons.2 ⟨hgroup, says_declared hnaming.1 hslot.1⟩, ?_, hnaming.2⟩
  simp [ComponentKind.held, hslot.2, typeRefs]

theorem openAttribute_yields (topLevel : Bool)
    (hlabels : (Role.attribute topLevel).labels ⊆ labels) :
    Yields (fun a : AttributeDecl =>
        (∀ entry ∈ ComponentKind.attribute.references a, π.Says st entry.1 entry.2) ∧
          ComponentKind.attribute.held a = [] ∧
          ∀ n, a.name = some n → (π.tag.attribute? "name").map Text.trim = some n.localName)
      (π.Stumbles st cx.key labels) (Role.openAttribute cx scope π.tag topLevel) := by
  unfold Role.openAttribute
  have htype : "type" ∈ labels := hlabels (by simp [Role.labels])
  have href : topLevel = false → "ref" ∈ labels := fun h => hlabels (by simp [Role.labels, h])
  refine (declaredName_yields hst hscope topLevel _ href).bind fun naming hnaming => ?_
  refine (declaredType_yields hst hscope htype).bind fun slot hslot => .ok ?_
  refine ⟨says_declared hnaming.1 hslot.1, ?_, hnaming.2⟩
  simp [ComponentKind.held, hslot.2, typeRefs]

omit hst hscope in
theorem Site.Frames.of_none {d : Draft} (hd : d.becomes? = none) : π.Frames d := by
  intro kind name h
  rw [hd] at h
  cases h

omit hst hscope in
theorem Site.Frames.of_named {kind : ComponentKind} {name : Option QName} {d : Draft}
    (hconstruct : ∃ construct ∈ kind.constructs, ChildClass.of π.tag.name = .known construct)
    (hname : ∀ n, name = some n → (π.tag.attribute? "name").map Text.trim = some n.localName)
    (hd : d.becomes? = some (kind, name) := by rfl) : π.Frames d := by
  intro kind' name' h
  cases Option.some.inj (hd.symm.trans h)
  exact ⟨hconstruct, hname⟩

/-- What the beginning of a construct has recorded. -/
def Opened (st : Setting) (places : Placement) (π : Site) : Opening → Prop
  | .draft d => Drafted st places π d
  | .part p => Stands st places π p ∧ p.Whole

theorem opening_yields {places : Placement} {kids : List Xml.Node} {role : Role}
    (hlabels : role.labels ⊆ labels)
    (hkind : ∀ kind, role.kind? = some kind →
      ∃ construct ∈ kind.constructs, ChildClass.of π.tag.name = .known construct) :
    Yields (Opened st places π) (π.Stumbles st cx.key labels)
      (role.opening cx scope π.tag kids) := by
  match role with
  | .restriction | .derivation _ =>
      have hbase : "base" ∈ labels := hlabels List.mem_cons_self
      refine (says_resolve? hst hscope hbase rfl).bind fun base h => ?_
      exact .ok (Drafted.of_empty (List.forall_mem_singleton.2 h) rfl (.of_none rfl))
  | .list =>
      have hitem : "itemType" ∈ labels := hlabels List.mem_cons_self
      refine (says_resolve? hst hscope hitem rfl).bind fun item h => ?_
      exact .ok (Drafted.of_empty (List.forall_mem_singleton.2 h) rfl (.of_none rfl))
  | .union =>
      have hmembers : "memberTypes" ∈ labels := hlabels List.mem_cons_self
      refine (resolveAll_yields hst hscope hmembers (List.Subset.refl _)).bind fun members h => ?_
      exact .ok (Drafted.of_empty (List.forall_mem_singleton.2 h) rfl (.of_none rfl))
  | .groupRef | .attributeGroupRef =>
      have href : "ref" ∈ labels := hlabels List.mem_cons_self
      have htokens : π.tokens "ref" = (π.tag.attribute? "ref").toList := rfl
      simp only [Role.opening]
      split
      · exact .ok ⟨.of_nothing rfl rfl rfl, nofun⟩
      · rename_i token hattribute
        rw [hattribute] at htokens
        refine (says_resolve hst hscope href htokens).bind fun target h => ?_
        exact .ok (Drafted.of_empty (List.forall_mem_singleton.2 h) rfl (.of_none rfl))
  | .element topLevel =>
      refine (openElement_yields hst hscope topLevel hlabels).bind fun e h => ?_
      exact .ok (Drafted.of_empty h.1 h.2.1 (.of_named (hkind _ rfl) h.2.2))
  | .attribute topLevel =>
      refine (openAttribute_yields hst hscope topLevel hlabels).bind fun a h => ?_
      exact .ok (Drafted.of_empty h.1 h.2.1 (.of_named (hkind _ rfl) h.2.2))
  | .constraint construct =>
      exact (constraintKind_yields hst hscope construct hlabels).bind fun kind h =>
        .ok (Drafted.of_empty h rfl (.of_none rfl))
  | .simpleType named | .complexType named =>
      refine .ok (Drafted.of_empty (List.forall_mem_nil _) rfl
        (.of_named (hkind _ rfl) fun n hn => ?_))
      cases named with
      | true => exact localName_qualify hn
      | false => cases hn
  | .group | .attributeGroup | .notationDecl =>
      exact .ok (Drafted.of_empty (List.forall_mem_nil _) rfl
        (.of_named (hkind _ rfl) fun _ => localName_qualify))
  | .remark .applications | .remark .readers => exact .ok ⟨.of_nothing rfl rfl rfl, nofun⟩
  | .note | .simpleContent | .complexContent | .compositor _ | .any | .anyAttribute | .selector
  | .field | .facet _ =>
      exact .ok (Drafted.of_empty (List.forall_mem_nil _) rfl (.of_none rfl))

end Opening

/-- An error tells of a token without a meaning somewhere in a document. -/
def Site.Fails (root : Site) (st : Setting) (key : SchemaKey) (e : SchemaError) : Prop :=
  ∃ π construct, root.Within π ∧ ChildClass.of π.tag.name = .known construct ∧
    π.Stumbles st key (construct.labels (π.outer.length == 1)) e

/-- The components of a table have been given sites of a document, at which
they read as they are recorded. -/
structure Laid (st : Setting) (root : Site) (places : Placement) (cs : Components) : Prop where
  length_eq : ∀ kind, (places.sites kind).length = cs.count kind
  reads : ∀ (kind : ComponentKind) (i : Nat) (x : kind.Component) (π : Site),
    (cs.ofKind kind)[i]? = some x → (places.sites kind)[i]? = some π →
      root.Within π ∧ π.Bears kind (kind.nameOf x) ∧
        Reads st places π (kind.references x) (kind.held x)

namespace Laid

variable {root : Site} {places : Placement} {cs later : Components}

theorem empty (st : Setting) (root : Site) (schema : Nat) :
    Laid st root ⟨schema, fun _ => []⟩ {} where
  length_eq kind := by cases kind <;> rfl
  reads _ _ _ _ _ hπ := by cases hπ

/-- Finding types moves nothing. -/
theorem extend (h : Laid st root places cs) (hcs : cs.Extends later)
    (hcount : ∀ kind, later.count kind = cs.count kind) : Laid st root places later where
  length_eq kind := (h.length_eq kind).trans (hcount kind).symm
  reads kind i y π hy hπ := by
    obtain ⟨x, hx, hyx⟩ := hcs.exists_earlier (hcount kind) hy
    rw [ComponentKind.nameOf_congr hyx, ComponentKind.references_congr hyx,
      ComponentKind.held_congr hyx]
    exact h.reads kind i x π hx hπ

/-- A new component is given the site at which it has been read. -/
theorem own (h : Laid st root places cs) (hπ : root.Within π) {kind : ComponentKind}
    {x : kind.Component} (hbears : π.Bears kind (kind.nameOf x))
    (hx : Reads st places π (kind.references x) (kind.held x)) :
    Laid st root (places.push kind π) (cs.push kind x) := by
  have hext := places.extends_push kind π
  refine ⟨fun other => ?_, fun other i y ρ hy hρ => ?_⟩
  · unfold Placement.push
    dsimp only
    by_cases hother : other = kind
    · subst hother
      rw [if_pos rfl, List.length_append, h.length_eq, Components.count_push]
      rfl
    · rw [if_neg hother, h.length_eq, Components.count_push_of_ne cs x hother]
  · unfold Placement.push at hρ
    dsimp only at hρ
    by_cases hother : other = kind
    · subst hother
      have hlength := h.length_eq other
      unfold Components.count at hlength
      rw [Components.ofKind_push, Array.getElem?_push] at hy
      rw [if_pos rfl, List.getElem?_append] at hρ
      by_cases hi : i = (cs.ofKind other).size
      · rw [if_pos hi, Option.some.injEq] at hy
        subst hy
        rw [if_neg (by omega), hlength, hi, Nat.sub_self] at hρ
        cases hρ
        exact ⟨hπ, hbears, hx.extend hext⟩
      · rw [if_neg hi] at hy
        have hlt : i < (cs.ofKind other).size := (Array.getElem?_eq_some_iff.1 hy).1
        rw [if_pos (by omega)] at hρ
        obtain ⟨hwithin, hborne, hreads⟩ := h.reads other i y ρ hy hρ
        exact ⟨hwithin, hborne, hreads.extend hext⟩
    · rw [Components.ofKind_push_of_ne cs x hother] at hy
      rw [if_neg hother] at hρ
      obtain ⟨hwithin, hborne, hreads⟩ := h.reads other i y ρ hy hρ
      exact ⟨hwithin, hborne, hreads.extend hext⟩

end Laid

namespace Reader

variable {root : Site} {places middle later : Placement} {w : Workbench}

/-- A placement of what has been read since some components were placed. -/
structure Onward (st : Setting) (root : Site) (places : Placement) (cs : Components)
    (later : Placement) (cs' : Components) : Prop where
  keeps : places.Extends later
  components : cs.Extends cs'
  laid : Laid st root later cs'

theorem Onward.refl {cs : Components} (h : Laid st root places cs) :
    Onward st root places cs places cs :=
  ⟨.refl places, .refl cs, h⟩

theorem Onward.of_eq {cs cs' : Components} (hcs : cs' = cs) (h : Laid st root places cs) :
    Onward st root places cs places cs' := by
  subst hcs
  exact .refl h

theorem Onward.trans {cs cs' cs'' : Components} (h : Onward st root places cs middle cs')
    (h' : Onward st root middle cs' later cs'') : Onward st root places cs later cs'' :=
  ⟨h.keeps.trans h'.keeps, h.components.trans h'.components, h'.laid⟩

/-- Reading leaves a placement of what it has read, and what it leads to stands
there in a given way. -/
def Places (st : Setting) (root : Site) (places : Placement) (w : Workbench) {α : Type}
    (Q : Placement → α → Prop) (a : α) (w' : Workbench) : Prop :=
  ∃ later, Onward st root places w.components later w'.components ∧ Q later a

/-- Reading leaves a placement of what it has read before it failed. -/
def Halts (cx : Context) (st : Setting) (root : Site) (places : Placement) (w : Workbench)
    (e : SchemaError) (w' : Workbench) : Prop :=
  (∃ later, Onward st root places w.components later w'.components) ∧ root.Fails st cx.key e

theorem Places.after {α : Type} {Q : Placement → α → Prop} {a : α} {w₁ w₂ w₃ : Workbench}
    (h : Onward st root places w₁.components middle w₂.components)
    (h' : Places st root middle w₂ Q a w₃) : Places st root places w₁ Q a w₃ := by
  obtain ⟨later, hlater, ha⟩ := h'
  exact ⟨later, h.trans hlater, ha⟩

theorem Halts.after {e : SchemaError} {w₁ w₂ w₃ : Workbench}
    (h : Onward st root places w₁.components middle w₂.components)
    (h' : Halts cx st root middle w₂ e w₃) : Halts cx st root places w₁ e w₃ := by
  obtain ⟨⟨later, hlater⟩, he⟩ := h'
  exact ⟨⟨later, h.trans hlater⟩, he⟩

/-- Foreign content is no matter of names. -/
theorem meet_ends (cx : Context) (content : ForeignContent) (d : Draft) (w : Workbench) :
    Ends (meet cx content d) w (fun d' w' => w'.components = w.components ∧ d.SameRecord d')
      (fun _ _ => False) := by
  unfold meet
  rw [ends_bind, ends_modify, ends_pure]
  refine ⟨rfl, ?_⟩
  cases cx.policy with
  | keep => exact .mapCommon _ d
  | drop => exact .refl d

theorem meetAll_ends (cx : Context) (contents : List ForeignContent) (d : Draft) (w : Workbench) :
    Ends (meetAll cx contents d) w (fun d' w' => w'.components = w.components ∧ d.SameRecord d')
      (fun _ _ => False) := by
  induction contents generalizing d w with
  | nil => exact ⟨rfl, .refl d⟩
  | cons content rest ih =>
      refine Ends.bind (meet_ends cx content d w) ?_
      rintro d₁ w₁ ⟨hcs₁, hd₁⟩
      refine (ih d₁ w₁).mono ?_ fun _ _ h => h
      rintro d₂ w₂ ⟨hcs₂, hd₂⟩
      exact ⟨hcs₂.trans hcs₁, hd₁.trans hd₂⟩

/-- Beginning a construct at its site. -/
theorem begin_ends (hst : cx.Sets st) (hscope : π.Scoped st scope) {role : Role}
    (hlabels : role.labels ⊆ labels)
    (hkind : ∀ kind, role.kind? = some kind →
      ∃ construct ∈ kind.constructs, ChildClass.of π.tag.name = .known construct)
    (places : Placement) (kids : List Xml.Node) (w : Workbench) :
    Ends (begin cx scope π.tag kids role) w
      (fun o w' => w'.components = w.components ∧ Opened st places π o)
      (fun e w' => w' = w ∧ π.Stumbles st cx.key labels e) := by
  have hopening : Yields (Opened st places π) (π.Stumbles st cx.key labels)
      (role.opening cx scope π.tag kids) :=
    opening_yields hst hscope hlabels hkind
  unfold begin
  rw [ends_bind, ends_lift]
  generalize role.opening cx scope π.tag kids = opening at hopening
  cases hopening with
  | error he => exact ⟨rfl, he⟩
  | @ok o ho =>
      cases o with
      | part p => exact ⟨rfl, ho⟩
      | draft d =>
          dsimp only
          split
          · rw [ends_bind]
            refine (meetAll_ends cx _ d w).mono ?_ fun _ _ h => h.elim
            rintro d' w' ⟨hcs, hd⟩
            exact ⟨hcs, Drafted.congr ho hd⟩
          · exact ⟨rfl, ho⟩

/-- A draft that reads at a site amounts to a part that stands there. -/
theorem close_ends (hschema : places.schema = cx.schema) (hlaid : Laid st root places w.components)
    (hπ : root.Within π) {d : Draft} (hd : Drafted st places π d) :
    Ends (Reader.close cx d) w
      (Places st root places w fun later p => Stands st later π p ∧ p.Whole)
      (fun _ _ => False) := by
  unfold Ends
  rw [exec_close]
  dsimp only
  unfold Places
  rw [components_afterClose]
  have hwhole := d.whole_toPart cx.schema w.components
  have hpart := hd.reads.mono (d.references_toPart cx.schema w.components)
    (d.held_toPart cx.schema w.components)
  have hcomponent := d.component?_toPart cx.schema w.components
  unfold Draft.closed
  cases howned : d.owned? with
  | none =>
      rw [howned] at hcomponent
      refine ⟨places, .refl hlaid, hpart.stands fun ref href => ?_, hwhole⟩
      rw [hcomponent] at href
      cases href
  | some x =>
      rw [howned] at hcomponent
      have hx : Reads st places π (x.1.references x.2) (x.1.held x.2) := by
        have hreads := hd.reads
        unfold Draft.references Draft.held at hreads
        rw [howned] at hreads
        exact hreads
      have hbears : π.Bears x.1 (x.1.nameOf x.2) := by
        refine hd.frames _ _ ?_
        unfold Draft.becomes?
        rw [howned]
        rfl
      have hext := places.extends_push x.1 π
      refine ⟨places.push x.1 π, ⟨hext, .push _ x.1 x.2, hlaid.own hπ hbears hx⟩, ?_, hwhole⟩
      refine (hpart.extend hext).stands fun ref href => ?_
      rw [hcomponent] at href
      cases href
      have hlength := hlaid.length_eq x.1
      simp [Placement.site?, Placement.push, hschema, ← hlength]

/-- A site below another one that is not the root. -/
theorem labels_below {d : Draft} {construct : Construct} {role : Role}
    (hr : d.role? construct = some role) (hdeep : π.outer ≠ []) (tag : Xml.Tag)
    (kids : List Xml.Node) :
    role.labels ⊆ construct.labels ((π.below tag kids).outer.length == 1) := by
  have hglobal : ((π.below tag kids).outer.length == 1) = false := by
    have hlength := List.length_pos_of_ne_nil hdeep
    simp only [Site.below, List.length_cons, beq_eq_false_iff_ne]
    omega
  rw [hglobal]
  exact Draft.labels_role? hr

mutual

/-- Reading a child of a construct at its site. -/
theorem child_ends {π : Site} {scope : Scope} {places : Placement} {w : Workbench} {d : Draft}
    (hst : cx.Sets st) (hschema : places.schema = cx.schema) (hπ : root.Within π)
    (hscope : π.Scoped st scope) (hdeep : π.outer ≠ [])
    (hlaid : Laid st root places w.components) (hd : Drafted st places π d) :
    ∀ {node : Xml.Node}, node ∈ π.kids →
      Ends (child cx scope d node) w
        (Places st root places w fun later d' => Drafted st later π d')
        (Halts cx st root places w)
  | .text _, _ => by
      unfold child
      exact ⟨places, .refl hlaid, hd⟩
  | .comment _, _ => by
      unfold child
      exact ⟨places, .refl hlaid, hd⟩
  | .element tag kids, hnode => by
      unfold child
      cases hc : ChildClass.of tag.name with
      | unknown => exact ⟨places, .refl hlaid, hd⟩
      | foreign =>
          dsimp only
          split
          · refine (meet_ends cx _ d w).mono ?_ fun _ _ h => h.elim
            rintro d' w' ⟨hcs, hd'⟩
            exact ⟨places, .of_eq hcs hlaid, hd.congr hd'⟩
          · exact ⟨places, .refl hlaid, hd⟩
      | known construct =>
          dsimp only
          cases hr : d.role? construct with
          | none => exact ⟨places, .refl hlaid, hd⟩
          | some role =>
              have hinner : π.Holds construct (π.below tag kids) := ⟨tag, kids, hnode, hc, rfl⟩
              have hwithin : root.Within (π.below tag kids) := hπ.child hinner
              have hinside : (π.below tag kids).Scoped st (scope.enter tag.declared) :=
                hscope.enter tag kids
              refine Ends.bind ((begin_ends hst hinside (labels_below hr hdeep tag kids)
                (fun _ hkind => ⟨construct, Draft.kind?_role? hr hkind, hc⟩) places kids w).mono
                  (fun _ _ h => h) ?_) ?_
              · rintro e w' ⟨rfl, he⟩
                exact ⟨⟨places, .refl hlaid⟩, _, construct, hwithin, hc, he⟩
              rintro o w₁ ⟨hcs, ho⟩
              have honward₁ : Onward st root places w.components places w₁.components :=
                .of_eq hcs hlaid
              cases o with
              | part p => exact ⟨places, honward₁, hd.adopt hinner ho.1 ho.2⟩
              | draft nested =>
                  have hdeeper : (π.below tag kids).outer ≠ [] := List.cons_ne_nil _ _
                  have hkids : Ends (children cx (scope.enter tag.declared) nested kids) w₁
                      (Places st root places w₁ fun later d' =>
                        Drafted st later (π.below tag kids) d')
                      (Halts cx st root places w₁) :=
                    children_ends hst hschema hwithin hinside hdeeper honward₁.laid ho
                      (List.Subset.refl _)
                  refine Ends.bind (hkids.mono (fun _ _ h => Places.after honward₁ h)
                    fun _ _ h => Halts.after honward₁ h) ?_
                  rintro nested' w₂ ⟨middle, hmiddle, hnested'⟩
                  refine Ends.bind ((close_ends (hmiddle.keeps.schema_eq.trans hschema)
                    hmiddle.laid hwithin hnested').mono (fun _ _ h => h) fun _ _ h => h.elim) ?_
                  rintro p w₃ ⟨later, hlater, hp, hwhole⟩
                  have hall := hmiddle.trans hlater
                  exact ⟨later, hall, (hd.extend hall.keeps).adopt hinner hp hwhole⟩

/-- Reading children of a construct at its site. -/
theorem children_ends {π : Site} {scope : Scope} {places : Placement} {w : Workbench} {d : Draft}
    (hst : cx.Sets st) (hschema : places.schema = cx.schema) (hπ : root.Within π)
    (hscope : π.Scoped st scope) (hdeep : π.outer ≠ [])
    (hlaid : Laid st root places w.components) (hd : Drafted st places π d) :
    ∀ {nodes : List Xml.Node}, nodes ⊆ π.kids →
      Ends (children cx scope d nodes) w
        (Places st root places w fun later d' => Drafted st later π d')
        (Halts cx st root places w)
  | [], _ => by
      unfold children
      exact ⟨places, .refl hlaid, hd⟩
  | node :: rest, hnodes => by
      obtain ⟨hnode, hrest⟩ := List.cons_subset.1 hnodes
      unfold children
      refine Ends.bind (child_ends hst hschema hπ hscope hdeep hlaid hd hnode) ?_
      rintro d₁ w₁ ⟨middle, hmiddle, hd₁⟩
      refine (children_ends hst (hmiddle.keeps.schema_eq.trans hschema) hπ hscope hdeep
        hmiddle.laid hd₁ hrest).mono ?_ ?_
      · exact fun d₂ w₂ h => .after hmiddle h
      · exact fun e w₂ h => .after hmiddle h

end

/-- Reading a construct at the top level of a document. -/
theorem construct_ends (hst : cx.Sets st) (hschema : places.schema = cx.schema)
    (hroot : root.outer = []) (hscope : root.Scoped st scope) (hlaid : Laid st root places w.components) {e : Xml.Element}
    (he : .element e.tag e.children ∈ root.kids) {construct : Construct}
    (hc : ChildClass.of e.tag.name = .known construct) {role : Role}
    (hrole : Role.ofTopLevel? construct = some role) :
    Ends (Reader.construct cx scope role e) w
      (Places st root places w fun _ _ => True) (Halts cx st root places w) := by
  have hinner : root.Holds construct (root.below e.tag e.children) :=
    ⟨e.tag, e.children, he, hc, rfl⟩
  have hwithin := (Site.Within.refl root).child hinner
  have hinside := hscope.enter e.tag e.children
  have hglobal : ((root.below e.tag e.children).outer.length == 1) = true := by
    simp [Site.below, hroot]
  have hlabels : role.labels ⊆
      construct.labels ((root.below e.tag e.children).outer.length == 1) := by
    rw [hglobal]
    exact Role.labels_ofTopLevel? hrole
  unfold Reader.construct
  refine Ends.bind ((begin_ends hst hinside hlabels
    (fun _ hkind => ⟨construct, Role.kind?_ofTopLevel? hrole hkind, hc⟩) places e.children w).mono
      (fun _ _ h => h) ?_) ?_
  · rintro e' w' ⟨rfl, he'⟩
    exact ⟨⟨places, .refl hlaid⟩, _, construct, hwithin, hc, he'⟩
  rintro o w₁ ⟨hcs, ho⟩
  have honward₁ : Onward st root places w.components places w₁.components := .of_eq hcs hlaid
  cases o with
  | part p => exact ⟨places, honward₁, trivial⟩
  | draft d =>
      refine Ends.bind ((children_ends hst hschema hwithin hinside (List.cons_ne_nil _ _)
        honward₁.laid ho (List.Subset.refl _)).mono (fun _ _ h => Places.after honward₁ h)
          fun _ _ h => Halts.after honward₁ h) ?_
      rintro d' w₂ ⟨middle, hmiddle, hd'⟩
      refine (close_ends (hmiddle.keeps.schema_eq.trans hschema) hmiddle.laid hwithin hd').mono ?_
        fun _ _ h => h.elim
      rintro p w₃ ⟨later, hlater, -⟩
      exact ⟨later, hmiddle.trans hlater, trivial⟩

end Reader

end XmlSchema
