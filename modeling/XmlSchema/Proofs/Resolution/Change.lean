import XmlSchema.Proofs.Collection.Slots
import XmlSchema.Proofs.Document.Discipline
import XmlSchema.Resolution.Composition

/-!
# The changes of a composition

Composing documents changes a collection step by step: a schema is registered,
components are read into it, items are listed.  A plan says what is known of
the documents that are read and of what is read from them; every change keeps
to the plan.
-/

namespace XmlSchema

open Compose

/-- The key under which a located document is registered. -/
def Located.keyUnder (d : Located) (inherited : Option String) : SchemaKey :=
  ⟨(declaredTarget? d.document <|> inherited).getD "", d.locator⟩

namespace ExternalRef

/-- The request that a reference makes in a schema with some key. -/
def requestIn (e : ExternalRef) (key : SchemaKey) (location : String) : Request :=
  ⟨if e.kind = .importation then e.namespaceName.getD "" else key.namespaceName, location,
    some key.locator⟩

/-- The namespace that a document inherits through a reference. -/
def inheritedIn (e : ExternalRef) (key : SchemaKey) : Option String :=
  if e.kind = .importation then none else some key.namespaceName

/-- The target of a reference: what its location has led to, or the schema that
stands in for the namespace of an import. -/
def targetIn (e : ExternalRef) (found : Option Nat) (c : Collection) : Option Nat :=
  found <|> if e.kind = .importation then c.known? (e.namespaceName.getD "") else none

end ExternalRef

namespace Environment

variable (env : Environment) (cacheless : Prop)

/-- Without a cache, a document is the answer to a request. -/
def Offers (r : Request) (source : Source) : Prop :=
  cacheless → env.resolver.answer r = .ok (some ⟨source.locator, source.document⟩)

/-- Without a cache, a request that is answered has led to the schema of the
document. -/
def LeadsTo (c : Collection) (r : Request) (inherited : Option String) (target : Option Nat) :
    Prop :=
  cacheless → ∀ d, env.resolver.answer r = .ok (some d) →
    ∃ n s, target = some n ∧ c.schemas[n]? = some s ∧ s.key = d.keyUnder inherited

/-- A reference has the target that its location leads to. -/
def Cites (c : Collection) (key : SchemaKey) (e : ExternalRef) : Prop :=
  ∀ location, e.location = some location →
    env.LeadsTo cacheless c (e.requestIn key location) (e.inheritedIn key) e.target

end Environment

namespace Compose

/-- A reference to another document as its construct begins. -/
def reference (kind : ExternalKind) (t : Xml.Tag) : ExternalRef :=
  { kind
    location := locationOf? t
    namespaceName := if kind = .importation then t.attribute? "namespace" else none
    common := { xmlId := t.attribute? "id" } }

/-- Look for the document of a reference. -/
def seek (env : Environment) (build : Build) (cx : Context) (e : ExternalRef) :
    Compose (Option Nat) :=
  match e.location with
  | none => pure none
  | some l => resolveNested env build (e.requestIn cx.key l) (some cx.key) (e.inheritedIn cx.key)

/-- Read what stands below a reference, and list it with its target. -/
def listExternal (cx : Context) (scope : Scope) (d : Draft) (children : List Xml.Node)
    (target : Collection → Option Nat) : Compose Unit := do
  let c := (← get).collection
  let draft ← onBench cx.schema (Reader.children cx scope d children)
  match draft with
  | .external e =>
      update fun later => later.addItem cx.schema (.external { e with target := target c })
  | _ => pure ()

/-- To read a reference is to begin its construct, to look for its document and
to list it. -/
theorem external_eq (env : Environment) (build : Build) (cx : Context) (scope : Scope)
    (kind : ExternalKind) (e : Xml.Element) :
    external env build cx scope kind e = (do
      let d ← onBench cx.schema (Reader.meetAll cx (Reader.foreignAttributes e.tag)
        (.external (reference kind e.tag)))
      let found ← seek env build cx (reference kind e.tag)
      listExternal cx (scope.enter e.tag.declared) d e.children
        ((reference kind e.tag).targetIn found)) := by
  unfold external seek
  dsimp only [reference]
  cases locationOf? e.tag with
  | none => cases kind <;> rfl
  | some l => cases kind <;> rfl

/-- The schema of a document of which the root alone has been read. -/
def rootSchema (policy : ForeignPolicy) (number : Nat) (source : Source)
    (parent : Option SchemaKey) (inherited : Option String) : Schema :=
  { readRoot source parent
      { number
        key := keyOf source inherited
        targetNamespace := declaredTarget? source.document } with
    foreign :=
      match policy with
      | .keep => Reader.foreignAttributes source.document.tag
      | .drop => [] }

/-- What is known of a composition: whether there is no cache, what reading a
document guarantees, and the keys of the documents and the documents that are
met.  Schemas from the number `first` on are built from what is offered. -/
structure Plan (env : Environment) where
  cacheless : Prop
  reading : (cx : Context) → Reader.Discipline cx
  key : SchemaKey → Prop
  admits : Nat → Source → Prop
  first : Nat
  tag_of_admits : ∀ {n source cx}, admits n source → cx.schema = n →
    (reading cx).tag source.document.tag ∧
      Xml.Node.EveryIn (reading cx).tag source.document.children
  opened_reference : ∀ {cx t} (kind : ExternalKind), (reading cx).tag t →
    (reading cx).opened none (.external (reference kind t))
  schema_of_part : ∀ {cx cs role ref}, (reading cx).part cs role (.component ref) →
    ref.id.schema = cx.schema
  key_of_offers : ∀ {r source inherited}, env.Offers cacheless r source →
    (∀ ns, inherited = some ns → ∃ k, key k ∧ k.namespaceName = ns) →
    key (keyOf source inherited)
  admits_of_offers : ∀ {r n source}, first ≤ n → env.Offers cacheless r source → admits n source

end Compose

namespace Collection

/-- A context belongs to a schema of the collection. -/
def Places (c : Collection) (policy : ForeignPolicy) (cx : Context) : Prop :=
  ∃ s, c.schemas[cx.schema]? = some s ∧ Context.ofSchema s policy = cx

/-- A collection that has taken over what was done on a workbench. -/
def absorb (c : Collection) (n : Nat) (bench : Workbench) : Collection :=
  bench.pending.foldl (fun c p => c.attach p.1 p.2) (c.furnish n bench.components)

variable {c later : Collection} {policy : ForeignPolicy} {cx : Context}

theorem Grows.places (h : c.Grows later) (hcx : c.Places policy cx) : later.Places policy cx := by
  obtain ⟨s, hs, rfl⟩ := hcx
  obtain ⟨s', hs', hgrows⟩ := h _ s hs
  refine ⟨s', hs', ?_⟩
  have hhead := hgrows.head_eq
  have hof : ∀ t : Schema, Context.ofSchema t.head policy = Context.ofSchema t policy :=
    fun _ => rfl
  rw [← hof s', hhead, hof]

theorem Places.key_eq (h : c.Places policy cx) {s : Schema}
    (hs : c.schemas[cx.schema]? = some s) : cx.key = s.key := by
  obtain ⟨t, ht, rfl⟩ := h
  cases Option.some.inj (hs.symm.trans ht)
  rfl

theorem Places.lt_size (h : c.Places policy cx) : cx.schema < c.schemas.size := by
  obtain ⟨s, hs, -⟩ := h
  exact (Array.getElem?_eq_some_iff.1 hs).1

theorem GrowsInPlace.absorb {n : Nat} {bench : Workbench}
    (h : (c.components n).Extends bench.components) : c.GrowsInPlace (c.absorb n bench) := by
  refine GrowsInPlace.trans (.modify fun s hs => .of_components s ?_) (.attachAll _)
  exact components_of_schema hs ▸ h

theorem SameFrame.absorb (n : Nat) (bench : Workbench) : c.SameFrame (c.absorb n bench) :=
  (SameFrame.furnish n bench.components).trans (.attachAll bench.pending)

theorem extends_absorb {n : Nat} (hn : n < c.schemas.size) (bench : Workbench) :
    bench.components.Extends ((c.absorb n bench).components n) := by
  have h := (GrowsInPlace.attachAll (c := c.furnish n bench.components) bench.pending).grows
    |>.components n
  rw [components_furnish hn, if_pos rfl] at h
  exact h

end Collection

namespace Compose.Plan

variable {env : Environment} (P : Plan env)

/-- One change that a composition makes to a collection. -/
inductive Change : Collection → Collection → Prop
  | begin (c : Collection) (source : Source) (parent : Option SchemaKey)
      (inherited : Option String) (hnew : c.schema? (keyOf source inherited) = none)
      (hkey : P.key (keyOf source inherited)) :
      Change c (c.push (rootSchema env.policy c.schemas.size source parent inherited))
  | meet (c : Collection) (n : Nat) (t : Xml.Tag) (kids : List Xml.Node)
      (ht : ChildClass.of t.name = .foreign) :
      Change c (c.modify n fun s =>
        { s with foreign := s.foreign ++ [Reader.foreignElement t kids] })
  | absorb (c : Collection) (cx : Context) (bench : Workbench)
      (hcx : c.Places env.policy cx)
      (hrun : Workbench.Run cx.schema (P.reading cx).component
        { components := c.components cx.schema } bench) :
      Change c (c.absorb cx.schema bench)
  | note (c : Collection) (cx : Context) (construct : Construct) (role : Role)
      (a : Annotation) (hcx : c.Places env.policy cx)
      (hrole : Role.ofTopLevel? construct = some role)
      (ha : (P.reading cx).part (c.components cx.schema) role (.note a)) :
      Change c (c.addItem cx.schema (.note a))
  | external (c : Collection) (cx : Context) (e : ExternalRef) (target : Option Nat)
      (hcx : c.Places env.policy cx)
      (he : (P.reading cx).draft (c.components cx.schema) none (.external e))
      (hcite : env.Cites P.cacheless c cx.key { e with target }) :
      Change c (c.addItem cx.schema (.external { e with target }))
  | enlist (c later : Collection) (cx : Context) (construct : Construct) (role : Role)
      (ref : ComponentRef) (hcx : c.Places env.policy cx)
      (hrole : Role.ofTopLevel? construct = some role)
      (href : (P.reading cx).part (c.components cx.schema) role (.component ref))
      (h : c.enlist ref.id = .ok later) : Change c later
  | finish (c : Collection) (n : Nat) :
      Change c (c.modify n fun s => { s with progress := .complete })

/-- The changes of a composition, one after the other. -/
abbrev Run : Collection → Collection → Prop := Relation.ReflTransGen P.Change

variable {P} {c later : Collection}

/-- Only the beginning of a document adds a schema. -/
theorem Change.growsInPlace_or_begin (h : P.Change c later) :
    c.GrowsInPlace later ∨ ∃ source parent inherited,
      c.schema? (keyOf source inherited) = none ∧ P.key (keyOf source inherited) ∧
      later = c.push (rootSchema env.policy c.schemas.size source parent inherited) := by
  cases h with
  | begin source parent inherited hnew hkey => exact .inr ⟨source, parent, inherited, hnew, hkey, rfl⟩
  | meet n t kids ht =>
      exact .inl (.modify fun _ _ => ⟨rfl, .refl _, List.prefix_refl _, List.prefix_refl _⟩)
  | absorb cx bench hcx hrun => exact .inl (.absorb hrun.extends)
  | note => exact .inl (.addItem _ _ _)
  | external => exact .inl (.addItem _ _ _)
  | enlist _ _ _ _ _ _ _ _ h => exact .inl (.enlist h)
  | finish n =>
      exact .inl (.modify fun _ _ => ⟨rfl, .refl _, List.prefix_refl _, List.prefix_refl _⟩)

theorem Change.grows (h : P.Change c later) : c.Grows later := by
  rcases h.growsInPlace_or_begin with h | ⟨source, parent, inherited, -, -, rfl⟩
  · exact h.grows
  · exact .push c _

theorem Change.numbered (h : P.Change c later) (hc : c.Numbered) : later.Numbered := by
  rcases h.growsInPlace_or_begin with h | ⟨source, parent, inherited, -, -, rfl⟩
  · exact h.numbered hc
  · exact hc.push rfl

theorem Run.grows (h : P.Run c later) : c.Grows later := by
  induction h with
  | refl => exact .refl c
  | tail _ step ih => exact ih.trans step.grows

theorem Run.numbered (h : P.Run c later) (hc : c.Numbered) : later.Numbered := by
  induction h with
  | refl => exact hc
  | tail _ step ih => exact step.numbered ih

end Compose.Plan

end XmlSchema
