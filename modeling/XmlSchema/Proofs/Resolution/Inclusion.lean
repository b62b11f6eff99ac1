import XmlSchema.Proofs.Collection.Slots
import XmlSchema.Proofs.Document.Chameleon
import XmlSchema.Proofs.Document.Titling
import XmlSchema.Proofs.Resolution.Walk

/-!
# Including a document without a target namespace

A document without a target namespace is included under the namespace of the
document that includes it.  When it can be built on its own, it can be built
under that namespace, and the schema is the one built on its own with the
namespace substituted.
-/

namespace XmlSchema

open Attempt

/-- A table of components before any type was found. -/
def Components.unresolved (cs : Components) : Components where
  elements := cs.elements.map (ComponentKind.unresolved .element)
  attributes := cs.attributes.map (ComponentKind.unresolved .attribute)
  types := cs.types
  groups := cs.groups
  attributeGroups := cs.attributeGroups
  notations := cs.notations

/-- A schema before any type was found. -/
def Schema.unresolved (s : Schema) : Schema := { s with components := s.components.unresolved }

namespace Substitution

variable (σ : Substitution)

/-- A table of components under the substitution. -/
def components (cs : Components) : Components where
  elements := cs.elements.map σ.elementDecl
  attributes := cs.attributes.map σ.attributeDecl
  types := cs.types.map σ.typeDefinition
  groups := cs.groups.map σ.group
  attributeGroups := cs.attributeGroups.map σ.attributeGroup
  notations := cs.notations.map σ.notationDecl

/-- The schema of a document under the substitution: what it is known by and
where it comes from are its own, its items, components and names those of the
schema built without the namespace. -/
def schema (locator : String) (parent : Option SchemaKey) (source : Option Source)
    (s : Schema) : Schema :=
  { s with
    number := σ.number
    key := ⟨σ.namespaceName, locator⟩
    parent
    source
    items := s.items.map σ.item
    components := σ.components s.components
    names := s.names.map σ.registration }

variable {σ}

theorem Matches.unresolved_eq {cs₀ cs : Components} (h : σ.Matches cs₀ cs) :
    cs.unresolved = σ.components cs₀ := by
  have htypes : cs.types.map id = cs₀.types.map σ.typeDefinition := h .type
  have hgroups : cs.groups.map id = cs₀.groups.map σ.group := h .group
  have hattributeGroups : cs.attributeGroups.map id = cs₀.attributeGroups.map σ.attributeGroup :=
    h .attributeGroup
  have hnotations : cs.notations.map id = cs₀.notations.map σ.notationDecl := h .notationDecl
  rw [Array.map_id] at htypes hgroups hattributeGroups hnotations
  unfold Components.unresolved components
  rw [htypes, hgroups, hattributeGroups, hnotations]
  exact congrArg₂ (fun es as => Components.mk es as _ _ _ _) (h .element) (h .attribute)

theorem Matches.empty : σ.Matches {} {} := by
  intro kind
  cases kind <;> simp [Components.ofKind]

theorem Matches.get? {cs₀ cs : Components} (h : σ.Matches cs₀ cs) {kind : ComponentKind}
    {id : ComponentId kind} {x : kind.Component} (hx : cs₀.get? id = some x) :
    ∃ y, (cs.ofKind kind)[id.index]? = some y ∧ kind.unresolved y = σ.component kind x := by
  have hi := congrArg (fun xs => xs[id.index]?) (h kind)
  rw [Array.getElem?_map, Array.getElem?_map, show (cs₀.ofKind kind)[id.index]? = some x from hx,
    Option.map_some, Option.map_eq_some_iff] at hi
  exact hi

/-- The name of a global component is one that is taken on. -/
theorem nameOf_of_unresolved {kind : ComponentKind} {x y : kind.Component}
    (h : kind.unresolved y = σ.component kind x) (hglobal : kind.isGlobal x = true) :
    kind.nameOf y = (kind.nameOf x).map σ.name := by
  have hy : kind.nameOf y = kind.nameOf (σ.component kind x) :=
    ComponentKind.nameOf_congr (h.trans (unresolved_component kind x).symm)
  rw [hy]
  cases kind with
  | element =>
      show σ.declaredName x.topLevel _ _ = _
      rw [show x.topLevel = true from hglobal]
      rfl
  | «attribute» =>
      show σ.declaredName x.topLevel _ _ = _
      rw [show x.topLevel = true from hglobal]
      rfl
  | _ => rfl

theorem Matches.alike {cs₀ cs₀' cs cs' : Components} (h : σ.Matches cs₀ cs)
    (h₀ : cs₀.Alike cs₀') (h' : cs.Alike cs') : σ.Matches cs₀' cs' := by
  have hsubst : ∀ (kind : ComponentKind) (xs : Array kind.Component),
      xs.map (σ.component kind) = (xs.map kind.unresolved).map (σ.component kind) := by
    intro kind xs
    rw [Array.map_map]
    exact Array.map_congr_left fun x _ => (component_unresolved kind x).symm
  intro kind
  rw [h' kind, h kind, hsubst, ← h₀ kind, ← hsubst]

variable {locator : String} {parent : Option SchemaKey} {source : Option Source}

/-- A schema built without the namespace, and the one built with it. -/
structure Twins (σ : Substitution) (locator : String) (parent : Option SchemaKey)
    (source : Option Source) (s₀ s : Schema) : Prop where
  origin : s₀.number = σ.origin
  nameless : s₀.key.namespaceName = ""
  elementForm : s₀.elementForm = σ.elementForm
  attributeForm : s₀.attributeForm = σ.attributeForm
  titles : ∀ r ∈ s₀.names, ∃ localName, r.name = ⟨"", Text.trim localName⟩
  frame : s.frame = (σ.schema locator parent source s₀).frame
  components : σ.Matches s₀.components s.components

/-- Two collections, the second of which has the twin of a schema of the first. -/
def Beside (σ : Substitution) (locator : String) (parent : Option SchemaKey)
    (source : Option Source) (c₀ c : Collection) : Prop :=
  ∃ s₀ s, c₀.schemas[σ.origin]? = some s₀ ∧ c.schemas[σ.number]? = some s ∧
    σ.Twins locator parent source s₀ s

variable {s₀ s : Schema} {c₀ c : Collection}

namespace Twins

theorem number_eq (h : σ.Twins locator parent source s₀ s) : s.number = σ.number :=
  congrArg Schema.number h.frame

theorem names_eq (h : σ.Twins locator parent source s₀ s) :
    s.names = s₀.names.map σ.registration := congrArg Schema.names h.frame

/-- Twins differ as the substitution says, and in the types that were found. -/
theorem unresolved_eq (h : σ.Twins locator parent source s₀ s) :
    s.unresolved = σ.schema locator parent source s₀ := by
  refine Eq.trans (b := { s.frame with components := s.components.unresolved }) rfl ?_
  rw [h.frame, h.components.unresolved_eq]
  rfl

end Twins

namespace Beside

theorem modify (h : σ.Beside locator parent source c₀ c) {f₀ f : Schema → Schema}
    (hf : ∀ s₀ s, σ.Twins locator parent source s₀ s →
      σ.Twins locator parent source (f₀ s₀) (f s)) :
    σ.Beside locator parent source (c₀.modify σ.origin f₀) (c.modify σ.number f) := by
  obtain ⟨s₀, s, hs₀, hs, htwins⟩ := h
  refine ⟨f₀ s₀, f s, ?_, ?_, hf s₀ s htwins⟩
  · rw [Collection.schemas_modify, if_pos rfl, hs₀, Option.map_some]
  · rw [Collection.schemas_modify, if_pos rfl, hs, Option.map_some]

theorem findsTypes (h : σ.Beside locator parent source c₀ c) {c₀' c' : Collection}
    (h₀ : c₀.FindsTypes c₀') (h' : c.FindsTypes c') :
    σ.Beside locator parent source c₀' c' := by
  obtain ⟨s₀, s, hs₀, hs, htwins⟩ := h
  obtain ⟨s₀', hs₀', hframe₀, halike₀⟩ := h₀.exists_later hs₀
  obtain ⟨s', hs', hframe, halike⟩ := h'.exists_later hs
  have hnames : s₀'.names = s₀.names := (congrArg Schema.names hframe₀ :)
  refine ⟨s₀', s', hs₀', hs', ?_, ?_, ?_, ?_, ?_, ?_, htwins.components.alike halike₀ halike⟩
  · exact (congrArg Schema.number hframe₀).trans htwins.origin
  · exact (congrArg (·.key.namespaceName) hframe₀).trans htwins.nameless
  · exact (congrArg Schema.elementForm hframe₀).trans htwins.elementForm
  · exact (congrArg Schema.attributeForm hframe₀).trans htwins.attributeForm
  · rw [hnames]
    exact htwins.titles
  · have hschema := congrArg (fun t => (σ.schema locator parent source t).frame) hframe₀
    exact (hframe.trans htwins.frame).trans hschema.symm

/-- What is read on two workbenches is taken over by two collections. -/
theorem absorb (h : σ.Beside locator parent source c₀ c) {b₀ b : Workbench}
    (hb : σ.Matches b₀.components b.components) :
    σ.Beside locator parent source (c₀.absorb σ.origin b₀) (c.absorb σ.number b) := by
  have hfurnish : σ.Beside locator parent source (c₀.furnish σ.origin b₀.components)
      (c.furnish σ.number b.components) := by
    refine h.modify fun s₀ s htwins => ?_
    exact { htwins with components := hb }
  exact hfurnish.findsTypes (.attachAll _) (.attachAll _)

theorem addItem (h : σ.Beside locator parent source c₀ c) (item : SchemaItem) :
    σ.Beside locator parent source (c₀.addItem σ.origin item)
      (c.addItem σ.number (σ.item item)) := by
  refine h.modify fun s₀ s htwins => { htwins with frame := ?_ }
  have hframe := congrArg (fun t : Schema => t.addItem (σ.item item)) htwins.frame
  refine Eq.trans (b := s.frame.addItem (σ.item item)) rfl (hframe.trans ?_)
  simp [Schema.frame, Schema.addItem, schema]

theorem meet (h : σ.Beside locator parent source c₀ c) (content : ForeignContent) :
    σ.Beside locator parent source
      (c₀.modify σ.origin fun s => { s with foreign := s.foreign ++ [content] })
      (c.modify σ.number fun s => { s with foreign := s.foreign ++ [content] }) :=
  h.modify fun _ _ htwins => { htwins with
    frame := congrArg (fun t : Schema => { t with foreign := t.foreign ++ [content] })
      htwins.frame }

theorem finish (h : σ.Beside locator parent source c₀ c) :
    σ.Beside locator parent source
      (c₀.modify σ.origin fun s => { s with progress := .complete })
      (c.modify σ.number fun s => { s with progress := .complete }) :=
  h.modify fun _ _ htwins => { htwins with
    frame := congrArg (fun t : Schema => { t with progress := .complete }) htwins.frame }

/-- A name is free under the substitution when it was free without. -/
theorem lookup?_eq_none (htwins : σ.Twins locator parent source s₀ s) {kind : ComponentKind}
    {localName : String} (hfree : s₀.lookup? kind ⟨"", Text.trim localName⟩ = none) :
    s.lookup? kind (σ.name ⟨"", Text.trim localName⟩) = none := by
  have hfind := List.find?_eq_none.1 (Option.map_eq_none_iff.1 hfree)
  unfold Schema.lookup?
  rw [Option.map_eq_none_iff, List.find?_eq_none, htwins.names_eq]
  intro r hr
  obtain ⟨r₀, hr₀, rfl⟩ := List.mem_map.1 hr
  obtain ⟨other, hname⟩ := htwins.titles r₀ hr₀
  have hne := hfind r₀ hr₀
  simp only [Bool.and_eq_true, beq_iff_eq, not_and] at hne ⊢
  intro hkind heq
  refine hne hkind ?_
  have heq : σ.name r₀.name = σ.name ⟨"", Text.trim localName⟩ := heq
  rw [hname] at heq ⊢
  exact congrArg (QName.mk "") (name_injective heq)

/-- Registering a component and its counterpart. -/
theorem enroll (h : σ.Beside locator parent source c₀ c) (kind : ComponentKind) (index : Nat)
    (localName : String) :
    σ.Beside locator parent source
      (c₀.enroll (⟨σ.origin, index⟩ : ComponentId kind) ⟨"", Text.trim localName⟩)
      (c.enroll (⟨σ.number, index⟩ : ComponentId kind) (σ.name ⟨"", Text.trim localName⟩)) := by
  refine h.modify fun s₀ s htwins => { htwins with titles := ?_, frame := ?_ }
  · intro r hr
    rcases List.mem_append.1 hr with hr | hr
    · exact htwins.titles r hr
    · rw [List.mem_singleton.1 hr]
      exact ⟨localName, rfl⟩
  · let named : Registration := ⟨kind, σ.name ⟨"", Text.trim localName⟩, index⟩
    have hframe := congrArg (fun t : Schema => { t with names := t.names ++ [named] }) htwins.frame
    refine Eq.trans (b := { s.frame with names := s.frame.names ++ [named] }) rfl
      (hframe.trans ?_)
    simp [Schema.frame, schema, registration, named]

/-- A component that is listed on its own can be listed under the namespace. -/
theorem enlist (h : σ.Beside locator parent source c₀ c) {cx₀ : Context}
    (hcx₀ : cx₀.key.namespaceName = "") {kind : ComponentKind} {id : ComponentId kind}
    {x : kind.Component} (hschema : id.schema = σ.origin)
    (hx : (c₀.components σ.origin).get? id = some x) (htitles : cx₀.Titles (kind.title x))
    {c₀' : Collection} (hc₀ : c₀.enlist id = .ok c₀') :
    ∃ c', c.enlist (σ.identity id) = .ok c' ∧ σ.Beside locator parent source c₀' c' := by
  obtain ⟨n, index⟩ := id
  dsimp only at hschema
  subst hschema
  obtain ⟨c₁₀, hregister₀, rfl⟩ := Collection.enlist_cases hc₀
  obtain ⟨s₀, s, hs₀, hs, htwins⟩ := h
  obtain ⟨hnone, -⟩ | ⟨t, y, name, ht, hy, hname, hfree, rfl⟩ :=
    Collection.register_cases hregister₀
  · rw [hs₀] at hnone
    cases hnone
  cases hs₀.symm.trans ht
  have hcs : c₀.components σ.origin = s₀.components := by
    rw [Collection.components, hs₀]
    rfl
  have hyx : y = x := by
    rw [Schema.get?, if_pos htwins.origin.symm] at hy
    rw [hcs] at hx
    exact Option.some.inj (hy.symm.trans hx)
  subst hyx
  obtain ⟨localName, hlocal⟩ := htitles.name name hname
  have hlocal : name = ⟨"", Text.trim localName⟩ := by rw [hlocal, Context.qualify, hcx₀]
  subst hlocal
  obtain ⟨z, hz, hzy⟩ := htwins.components.get? (hcs ▸ hx)
  have hname' : kind.nameOf z = some (σ.name ⟨"", Text.trim localName⟩) := by
    rw [nameOf_of_unresolved hzy htitles.isGlobal, hname, Option.map_some]
  have hget : s.get? (⟨σ.number, index⟩ : ComponentId kind) = some z := by
    rw [Schema.get?, if_pos htwins.number_eq.symm]
    exact hz
  have hregister : c.register (⟨σ.number, index⟩ : ComponentId kind) = .ok _ :=
    Collection.register_of_free hs hget hname' (lookup?_eq_none htwins hfree)
  have hbeside : σ.Beside locator parent source c₀ c := ⟨s₀, s, hs₀, hs, htwins⟩
  rw [identity_origin]
  refine ⟨_, bind_eq_ok_iff.2 ⟨_, hregister, rfl⟩, ?_⟩
  let id₀ : ComponentId kind := ⟨σ.origin, index⟩
  let id : ComponentId kind := ⟨σ.number, index⟩
  have hitem := ((hbeside.enroll kind index localName).findsTypes
    (.settle ⟨"", Text.trim localName⟩ id₀)
    (.settle (σ.name ⟨"", Text.trim localName⟩) id)).addItem (.component ⟨kind, id₀⟩)
  rw [item, ref, identity_origin] at hitem
  exact hitem

theorem components (h : σ.Beside locator parent source c₀ c) :
    σ.Matches (c₀.components σ.origin) (c.components σ.number) := by
  obtain ⟨s₀, s, hs₀, hs, htwins⟩ := h
  unfold Collection.components
  rw [hs₀, hs]
  exact htwins.components

theorem lt_size (h : σ.Beside locator parent source c₀ c) : σ.origin < c₀.schemas.size := by
  obtain ⟨s₀, s, hs₀, -⟩ := h
  exact (Array.getElem?_eq_some_iff.1 hs₀).1

end Beside

section Passes

open Compose

variable {env₀ env : Environment} {build₀ : Build} (build : Build) {cx₀ cx : Context} {scope₀ scope : Scope}
  {w₀ w₀' w : Workspace}

/-- What is read into one schema is read into its twin. -/
theorem onBench_beside {α : Type} {f : α → α} {reader₀ reader : Attempt Workbench α} {a : α}
    (hcx : σ.Carries cx₀ cx)
    (h : σ.Beside locator parent source w₀.collection w.collection)
    (hreader : σ.Follows f reader₀ reader)
    (hexec : exec (onBench cx₀.schema reader₀) w₀ = (.ok a, w₀')) :
    ∃ w', exec (onBench cx.schema reader) w = (.ok (f a), w') ∧
      σ.Beside locator parent source w₀'.collection w'.collection := by
  rw [hcx.origin, Plan.exec_onBench] at hexec
  rcases hread₀ : exec reader₀ { components := w₀.collection.components σ.origin } with ⟨o, b₀⟩
  rw [hread₀] at hexec
  cases hexec
  obtain ⟨b, hread, hb⟩ := hreader _ b₀ { components := w.collection.components σ.number } a
    h.components hread₀
  refine ⟨_, by rw [hcx.number, Plan.exec_onBench, hread], ?_⟩
  exact h.absorb hb

/-- A construct of the top level that has become a component has a name of the
document. -/
theorem onBench_titles {role : Role} {e : Xml.Element} {p : Part}
    (hsize : cx₀.schema < w₀.collection.schemas.size)
    (hexec : exec (onBench cx₀.schema (Reader.construct cx₀ scope₀ role e)) w₀ = (.ok p, w₀')) :
    (Reader.titling cx₀).part (w₀'.collection.components cx₀.schema) role p := by
  have hends : Ends (Reader.construct cx₀ scope₀ role e)
      { components := w₀.collection.components cx₀.schema } _ _ :=
    (Reader.titling cx₀).construct_ends trivial (Xml.Node.everyIn_of_forall (fun _ => trivial) _)
  rw [Plan.exec_onBench] at hexec
  rcases hread : exec (Reader.construct cx₀ scope₀ role e)
    { components := w₀.collection.components cx₀.schema } with ⟨o, b⟩
  rw [hread] at hexec
  cases hexec
  exact (Reader.titling cx₀).part_extends (Collection.extends_absorb hsize b)
    (hends.of_ok hread).2

theorem enlist_beside {role : Role} {p : Part} (hcx : σ.Carries cx₀ cx)
    (h : σ.Beside locator parent source w₀.collection w.collection) (hrole : role.Global)
    (hp : (Reader.titling cx₀).part (w₀.collection.components cx₀.schema) role p)
    (hexec : exec (Compose.enlist cx₀ p) w₀ = (.ok ⟨⟩, w₀')) :
    ∃ w', exec (Compose.enlist cx (σ.part p)) w = (.ok ⟨⟩, w') ∧
      σ.Beside locator parent source w₀'.collection w'.collection := by
  cases p with
  | note a =>
      cases hexec
      refine ⟨_, rfl, ?_⟩
      rw [hcx.origin, hcx.number]
      exact h.addItem (.note a)
  | component r =>
      obtain ⟨hschema, x, hx, htitles⟩ := hp hrole r rfl
      unfold Compose.enlist attempt at hexec ⊢
      rw [exec_bind, exec_get] at hexec
      dsimp only at hexec
      cases hc₀ : w₀.collection.enlist r.id with
      | error e =>
          rw [hc₀] at hexec
          cases hexec
      | ok c₀' =>
          rw [hc₀] at hexec
          cases hexec
          rw [hcx.origin] at hschema hx
          obtain ⟨c', hc', hbeside⟩ := h.enlist hcx.nameless hschema hx htitles hc₀
          refine ⟨{ w with collection := c' }, ?_, hbeside⟩
          simp only [part, ref, exec_bind, exec_get, hc']
          rfl
  | _ =>
      cases hexec
      exact ⟨w, rfl, h⟩

variable (env) in
theorem topLevelChild_beside {e : Xml.Element} (hcx : σ.Carries cx₀ cx)
    (hscope : scope₀.Refines scope)
    (hlocal : ∀ kind, ChildClass.of e.tag.name ≠ .known (.external kind))
    (h : σ.Beside locator parent source w₀.collection w.collection)
    (hexec : exec (topLevelChild env₀ build₀ cx₀ scope₀ e) w₀ = (.ok ⟨⟩, w₀')) :
    ∃ w', exec (topLevelChild env build cx scope e) w = (.ok ⟨⟩, w') ∧
      σ.Beside locator parent source w₀'.collection w'.collection := by
  unfold topLevelChild at hexec ⊢
  split at hexec
  · cases hexec
    exact ⟨w, rfl, h⟩
  · unfold Compose.meet at hexec ⊢
    rw [exec_bind, exec_modify] at hexec ⊢
    dsimp only at hexec ⊢
    rw [hcx.policy]
    split at hexec
    · rename_i hpolicy
      rw [if_pos hpolicy]
      rw [exec_update] at hexec ⊢
      cases hexec
      rw [hcx.origin, hcx.number]
      exact ⟨_, rfl, h.meet _⟩
    · rename_i hpolicy
      rw [if_neg hpolicy]
      cases hexec
      exact ⟨_, rfl, h⟩
  · rename_i kind hc
    exact absurd hc (hlocal kind)
  · split at hexec
    · cases hexec
      exact ⟨w, rfl, h⟩
    · rename_i construct _ _ _ role hrole
      rw [exec_bind] at hexec
      rcases hread : exec (onBench cx₀.schema (Reader.construct cx₀ scope₀ role e)) w₀ with
        ⟨err | p, w₁₀⟩
      · rw [hread] at hexec
        cases hexec
      · rw [hread] at hexec
        obtain ⟨w₁, hread', h₁⟩ := onBench_beside hcx h (hcx.construct hscope role e) hread
        have hsize : cx₀.schema < w₀.collection.schemas.size := hcx.origin ▸ h.lt_size
        obtain ⟨w₂, hlist, h₂⟩ := enlist_beside hcx h₁ ⟨construct, hrole⟩
          (onBench_titles hsize hread) hexec
        refine ⟨w₂, ?_, h₂⟩
        rw [exec_bind, hread']
        exact hlist

variable (env) in
theorem topLevelPass_beside {elements : List Xml.Element} (hcx : σ.Carries cx₀ cx)
    (hscope : scope₀.Refines scope)
    (hlocal : ∀ e ∈ elements, ∀ kind, ChildClass.of e.tag.name ≠ .known (.external kind))
    (h : σ.Beside locator parent source w₀.collection w.collection)
    (hexec : exec (topLevelPass env₀ build₀ cx₀ scope₀ elements) w₀ = (.ok ⟨⟩, w₀')) :
    ∃ w', exec (topLevelPass env build cx scope elements) w = (.ok ⟨⟩, w') ∧
      σ.Beside locator parent source w₀'.collection w'.collection := by
  induction elements generalizing w₀ w with
  | nil =>
      cases hexec
      exact ⟨w, rfl, h⟩
  | cons e rest ih =>
      unfold topLevelPass at hexec ⊢
      rw [exec_bind] at hexec
      rcases hchild : exec (topLevelChild env₀ build₀ cx₀ scope₀ e) w₀ with ⟨err | _, w₁₀⟩
      · rw [hchild] at hexec
        cases hexec
      · rw [hchild] at hexec
        obtain ⟨w₁, hchild', h₁⟩ := topLevelChild_beside env build hcx hscope
          (hlocal e List.mem_cons_self) h hchild
        obtain ⟨w₂, hrest, h₂⟩ := ih (fun e he => hlocal e (List.mem_cons_of_mem _ he)) h₁ hexec
        refine ⟨w₂, ?_, h₂⟩
        rw [exec_bind, hchild']
        exact hrest

/-- The substitution under which a document is included. -/
def ofDocument (document : Xml.Element) (namespaceName : String) (origin number : Nat) :
    Substitution where
  namespaceName
  origin
  number
  elementForm :=
    ((document.attribute? "elementFormDefault").bind Form.parse?).getD .unqualified
  attributeForm :=
    ((document.attribute? "attributeFormDefault").bind Form.parse?).getD .unqualified

section Documents

variable {source₀ source : Source} {namespaceName : String}

theorem keyOf_included (namespaceName : String)
    (htarget : declaredTarget? source.document = none) :
    keyOf source (some namespaceName) = ⟨namespaceName, source.locator⟩ := by
  rw [keyOf, htarget]
  rfl

theorem keyOf_alone (htarget : declaredTarget? source₀.document = none) :
    keyOf source₀ none = ⟨"", source₀.locator⟩ := by
  rw [keyOf, htarget]
  rfl

/-- The settings of a document on its own and of the included document. -/
theorem carries_root (hpolicy : env.policy = env₀.policy)
    (hdocument : source.document = source₀.document)
    (htarget : declaredTarget? source₀.document = none) (hnamespace : namespaceName ≠ "")
    (origin number : Nat) :
    (ofDocument source₀.document namespaceName origin number).Carries
      (Context.ofSchema (rootSchema env₀.policy origin source₀ none none) env₀.policy)
      (Context.ofSchema (rootSchema env.policy number source parent (some namespaceName))
        env.policy) where
  origin := rfl
  number := rfl
  nameless := congrArg SchemaKey.namespaceName (keyOf_alone htarget)
  namespaceName := congrArg SchemaKey.namespaceName (keyOf_included namespaceName (hdocument ▸ htarget))
  alone := by
    show ((declaredTarget? source₀.document).isNone &&
      !(keyOf source₀ none).namespaceName.isEmpty) = false
    rw [keyOf_alone htarget, htarget]
    rfl
  inherits := by
    show ((declaredTarget? source.document).isNone &&
      !(keyOf source (some namespaceName)).namespaceName.isEmpty) = true
    rw [keyOf_included namespaceName (hdocument ▸ htarget), hdocument, htarget]
    simpa using hnamespace
  elementForm₀ := rfl
  elementForm := by
    rw [← hdocument]
    rfl
  attributeForm₀ := rfl
  attributeForm := by
    rw [← hdocument]
    rfl
  policy := hpolicy

/-- The root of a document is read into twins. -/
theorem opened_beside (hpolicy : env.policy = env₀.policy)
    (hdocument : source.document = source₀.document)
    (htarget : declaredTarget? source₀.document = none) :
    (ofDocument source₀.document namespaceName w₀.collection.schemas.size
        w.collection.schemas.size).Beside source.locator parent (some source)
      (opened env₀ w₀ source₀ none none).collection
      (opened env w source parent (some namespaceName)).collection := by
  refine ⟨_, _, Plan.schemas_opened env₀ w₀ source₀ none none,
    Plan.schemas_opened env w source parent (some namespaceName), rfl,
    congrArg SchemaKey.namespaceName (keyOf_alone htarget), rfl, rfl, nofun, ?_, .empty⟩
  unfold rootSchema readRoot
  simp only [Schema.frame, schema, keyOf_included namespaceName (hdocument ▸ htarget), hdocument, htarget, hpolicy]
  rfl

variable (parent env) in
/-- A document that can be built on its own can be built under a namespace, as
the twin of what it is on its own. -/
theorem buildSource_beside (fuel : Nat) {fuel₀ n₀ : Nat} (hpolicy : env.policy = env₀.policy)
    (hdocument : source.document = source₀.document)
    (htarget : declaredTarget? source₀.document = none)
    (hlocal : ∀ e ∈ source₀.document.childElements, ∀ kind,
      ChildClass.of e.tag.name ≠ .known (.external kind))
    (halone : exec (buildSource env₀ (fuel₀ + 1) source₀ none none) w₀ = (.ok n₀, w₀'))
    (hnamespace : namespaceName ≠ "")
    (hnew : w.collection.schema? ⟨namespaceName, source.locator⟩ = none) :
    ∃ w', exec (buildSource env (fuel + 1) source parent (some namespaceName)) w =
        (.ok w.collection.schemas.size, w') ∧
      (ofDocument source₀.document namespaceName n₀ w.collection.schemas.size).Beside
        source.locator parent (some source) w₀'.collection w'.collection := by
  cases hroot : source₀.document.tag.is schemaNamespace "schema" with
  | false =>
      rw [exec_buildSource_of_not_schema env₀ none hroot] at halone
      cases halone
  | true =>
      cases hnew₀ : w₀.collection.schema? (keyOf source₀ none) with
      | some s =>
          rw [exec_buildSource_of_registered env₀ none hroot (by rw [hnew₀]; rfl)] at halone
          cases halone
      | none =>
          have hkey := keyOf_included namespaceName (hdocument ▸ htarget)
          rw [exec_buildSource env₀ none hroot hnew₀] at halone
          rw [exec_buildSource env parent (hdocument ▸ hroot) (hkey ▸ hnew), hdocument]
          split at halone
          · rename_i w₁₀ hpass₀
            cases halone
            obtain ⟨w₁, hpass, h₁⟩ := topLevelPass_beside env (buildSource env fuel)
              (carries_root hpolicy hdocument htarget hnamespace _ _)
              ((Scope.Refines.inherited
                (fallback w source parent (some namespaceName))).enter _) hlocal
              (opened_beside hpolicy hdocument htarget) hpass₀
            rw [hpass]
            exact ⟨_, rfl, h₁.finish⟩
          · cases halone

end Documents

end Passes

end Substitution

/-- The substitution that takes a schema built on its own into a namespace, as
the schema with a given number. -/
def Schema.substitution (s : Schema) (namespaceName : String) (number : Nat) : Substitution :=
  ⟨namespaceName, s.number, number, s.elementForm, s.attributeForm⟩

namespace Compose

/-- Inclusion is substitution of the namespace.  A document without a target
namespace that refers to no other document and can be built on its own can be
built on behalf of any schema with a namespace, whatever prefixes that one
binds; the schema is the one built on its own with the namespace in place of no
namespace, but for the types that have been found. -/
theorem included_eq_substituted {env₀ env : Environment} {w₀ w₀' w w₁ : Workspace}
    {d : Located} {source : Source} {n₀ : Nat} {s₀ : Schema} {r : Request} (fuel : Nat)
    (parent : SchemaKey) (hpolicy : env.policy = env₀.policy)
    (htarget : declaredTarget? d.document = none)
    (hlocal : ∀ e ∈ d.document.childElements, ∀ kind,
      ChildClass.of e.tag.name ≠ .known (.external kind))
    (halone : exec (build env₀ d) w₀ = (.ok n₀, w₀'))
    (hs₀ : w₀'.collection.schemas[n₀]? = some s₀)
    (hparent : parent.namespaceName ≠ "")
    (hfetch : exec (fetch env r) w = (.ok (some source), w₁))
    (hdocument : source.document = d.document)
    (hnew : w₁.collection.number? ⟨parent.namespaceName, source.locator⟩ = none) :
    ∃ n w' s,
      exec (resolveNested env (buildSource env (fuel + 1)) r (some parent)
        (some parent.namespaceName)) w = (.ok (some n), w') ∧
      w'.collection.schemas[n]? = some s ∧
      s.unresolved = (s₀.substitution parent.namespaceName n).schema source.locator (some parent)
        (some source) s₀ := by
  obtain ⟨w', hbuild, t₀, s, ht₀, hs, htwins⟩ :=
    Substitution.buildSource_beside (some parent) env fuel hpolicy hdocument htarget hlocal
      halone hparent (Collection.schema?_eq_none_of_number? hnew)
  cases hs₀.symm.trans ht₀
  refine ⟨_, w', s, ?_, hs, ?_⟩
  · have hkey := Substitution.keyOf_included parent.namespaceName (hdocument ▸ htarget)
    unfold resolveNested
    rw [exec_bind, hfetch]
    dsimp only
    rw [exec_bind, exec_get, hkey]
    dsimp only
    rw [hnew]
    dsimp only
    rw [exec_bind, hbuild]
    rfl
  · rw [htwins.unresolved_eq]
    unfold Schema.substitution
    rw [htwins.origin, htwins.elementForm, htwins.attributeForm]
    rfl

/-- A document without a target namespace. -/
@[irreducible]
def namelessDocument : Located :=
  (Located.parse "a.xsd" ("<s:schema xmlns:s=\"http://www.w3.org/2001/XMLSchema\">" ++
    "<s:element name=\"e\" type=\"t\"/><s:complexType name=\"t\"/></s:schema>")).toOption.getD
      default

/-- The document on its own, and included in a schema of the namespace `urn:n`. -/
theorem included_eq_substituted_nameless :
    let env : Environment := ⟨⟨fun _ => .ok (some namelessDocument), 1⟩, .keep⟩
    let parent : SchemaKey := ⟨"urn:n", "b.xsd"⟩
    let request : Request := ⟨"urn:n", "a.xsd", some "b.xsd"⟩
    let source : Source := ⟨namelessDocument.locator, namelessDocument.document, 1⟩
    ∃ n w' s₀ s,
      (exec (build env namelessDocument) {}).2.collection.schemas[1]? = some s₀ ∧
      exec (resolveNested env (buildSource env 1) request (some parent) (some "urn:n")) {} =
        (.ok (some n), w') ∧
      w'.collection.schemas[n]? = some s ∧
      s.unresolved =
        (s₀.substitution "urn:n" n).schema source.locator (some parent) (some source) s₀ ∧
      s.names = [⟨.element, ⟨"urn:n", "e"⟩, 0⟩, ⟨.type, ⟨"urn:n", "t"⟩, 0⟩] := by
  intro env parent request source
  have halone : (exec (build env namelessDocument) {}).1 = .ok 1 := by decide +kernel
  have hnames : (exec (build env namelessDocument) {}).2.collection.schemas[1]?.map Schema.names =
      some [⟨.element, ⟨"", "e"⟩, 0⟩, ⟨.type, ⟨"", "t"⟩, 0⟩] := by decide +kernel
  obtain ⟨s₀, hs₀, hnames⟩ := Option.map_eq_some_iff.1 hnames
  have hclasses : namelessDocument.document.childElements.map (ChildClass.of ·.tag.name) =
      [.known .element, .known .complexType] := by decide +kernel
  have hlocal : ∀ e ∈ namelessDocument.document.childElements, ∀ kind,
      ChildClass.of e.tag.name ≠ .known (.external kind) := by
    intro e he kind hc
    have hmem := List.mem_map_of_mem (f := (ChildClass.of ·.tag.name)) he
    rw [hclasses, hc] at hmem
    simp at hmem
  have hbuild : exec (build env namelessDocument) {} =
      (.ok 1, (exec (build env namelessDocument) {}).2) := by
    rw [← halone]
  have hfetch : exec (fetch env request) {} =
      (.ok (some source), { nextTicket := 2, requests := [request] }) := rfl
  have hdocument : source.document = namelessDocument.document := rfl
  obtain ⟨n, w', s, hexec, hs, hsubst⟩ := included_eq_substituted 0 parent
    rfl (by decide +kernel) hlocal hbuild hs₀ (by decide) hfetch hdocument (by decide +kernel)
  refine ⟨n, w', s₀, s, hs₀, hexec, hs, hsubst, ?_⟩
  have hmap := congrArg Schema.names hsubst
  rw [show s.names = s₀.names.map (s₀.substitution "urn:n" n).registration from hmap, hnames]
  rfl

end Compose

end XmlSchema
