import XmlSchema.Document.Reader
import XmlSchema.Resolution.Cache

/-!
# Composing documents

A document is built into a collection together with everything it includes,
imports or redefines.  A schema is registered before its children are read, so
that documents that refer to one another find it; a document that is reached
again under the same namespace is not read a second time.
-/

namespace XmlSchema

/-- What does not change while documents are composed. -/
structure Environment where
  resolver : Resolver
  policy : ForeignPolicy := .keep

/-- What changes while documents are composed: the collection, the cache, the
requests that reached the resolver, and the foreign content that was met.
`elsewhere` holds the tickets of documents in use by other collections. -/
structure Workspace where
  collection : Collection := {}
  cache : Option ResolutionCache := none
  elsewhere : List Nat := []
  nextTicket : Nat := 1
  requests : List Request := []
  met : List ForeignContent := []
  deriving Inhabited

namespace Workspace

/-- The tickets of the documents that a collection uses. -/
def ticketsOf (c : Collection) : List Nat :=
  c.schemas.toList.filterMap fun s => s.source.map Source.ticket

/-- Whether a document is in use. -/
def alive (w : Workspace) (ticket : Nat) : Bool :=
  w.elsewhere.contains ticket || (ticketsOf w.collection).contains ticket

end Workspace

/-- A step of a composition. -/
abbrev Compose := Attempt Workspace

namespace Compose

/-- Change the collection. -/
def update (f : Collection → Collection) : Compose Unit :=
  modify fun w => { w with collection := f w.collection }

/-- Change the collection by a step that may fail without a trace. -/
def attempt (f : Collection → Except SchemaError Collection) : Compose Unit := do
  match f (← get).collection with
  | .ok c => update fun _ => c
  | .error e => throw e

/-- Give a located document a ticket of its own. -/
def issue (d : Located) : Compose Source :=
  modifyGet fun w =>
    ({ locator := d.locator, document := d.document, ticket := w.nextTicket },
      { w with nextTicket := w.nextTicket + 1 })

/-- Ask the cache, then the resolver.  What the resolver finds is cached. -/
def fetch (env : Environment) (r : Request) : Compose (Option Source) := do
  let w ← get
  let cached ←
    match w.cache with
    | none => pure none
    | some cache => do
        let (found, cache) := cache.get w.alive r
        set { w with cache := some cache }
        pure found
  match cached with
  | some s => return some s
  | none => do
      modify fun w => { w with requests := w.requests ++ [r] }
      match env.resolver.answer r with
      | .error e => throw e
      | .ok none => return none
      | .ok (some d) => do
          let s ← issue d
          modify fun w => { w with cache := w.cache.map fun c => c.insert r s }
          return some s

/-- Let a reader work on the components of a schema.  What it has read stays
even when it fails; declarations then look for their types in the order in
which they were read. -/
def onBench {α : Type} (number : Nat) (reader : Attempt Workbench α) : Compose α := do
  let w ← get
  let components := ((w.collection.schemas[number]?).map Schema.components).getD {}
  let (outcome, bench) := reader.run.run { components }
  let c := w.collection.modify number fun s => { s with components := bench.components }
  let c := bench.pending.foldl (fun c p => c.attach p.1 p.2) c
  set { w with collection := c, met := w.met ++ bench.met }
  match outcome with
  | .ok a => return a
  | .error e => throw e

/-- Hand over foreign content of a schema itself. -/
def meet (cx : Context) (content : ForeignContent) : Compose Unit := do
  modify fun w => { w with met := w.met ++ [content] }
  if cx.policy = .keep then
    update fun c => c.modify cx.schema fun s => { s with foreign := s.foreign ++ [content] }

/-- Hand over a list of foreign content of a schema. -/
def meetAll (cx : Context) : List ForeignContent → Compose Unit
  | [] => pure ()
  | content :: rest => do
      meet cx content
      meetAll cx rest

/-- The target namespace that a document declares. -/
def declaredTarget? (document : Xml.Element) : Option String :=
  (document.attribute? "targetNamespace").filter fun t => !t.isEmpty

/-- The key under which a document is registered. -/
def keyOf (source : Source) (inherited : Option String) : SchemaKey :=
  ⟨(declaredTarget? source.document <|> inherited).getD "", source.locator⟩

/-- How a document is built: its source, the key of the schema that refers to
it, and the namespace that it inherits. -/
abbrev Build := Source → Option SchemaKey → Option String → Compose Nat

/-- Find the schema that a request leads to, and build it when it is new. -/
def resolveNested (env : Environment) (build : Build) (r : Request)
    (parent : Option SchemaKey) (inherited : Option String) : Compose (Option Nat) := do
  match ← fetch env r with
  | none => return none
  | some source =>
      match (← get).collection.number? (keyOf source inherited) with
      | some number => return some number
      | none => return some (← build source parent inherited)

/-- The location that a reference to a document gives, blanks aside. -/
def locationOf? (tag : Xml.Tag) : Option String :=
  ((tag.attribute? "schemaLocation").map Text.trim).filter fun l => !l.isEmpty

/-- Read a reference to another document, and the document itself. -/
def external (env : Environment) (build : Build) (cx : Context) (scope : Scope)
    (kind : ExternalKind) (e : Xml.Element) : Compose Unit := do
  let location := locationOf? e.tag
  let namespaceName := if kind = .importation then e.attribute? "namespace" else none
  let draft := Draft.external
    { kind, location, namespaceName, common := { xmlId := e.attribute? "id" } }
  let draft ← onBench cx.schema (Reader.meetAll cx (Reader.foreignAttributes e.tag) draft)
  let (uri, inherited) :=
    if kind = .importation then (namespaceName.getD "", none)
    else (cx.key.namespaceName, some cx.key.namespaceName)
  let found ←
    match location with
    | none => pure none
    | some l => resolveNested env build ⟨uri, l, some cx.key.locator⟩ (some cx.key) inherited
  let c := (← get).collection
  let target := found <|> (if kind = .importation then c.known? uri else none)
  let draft ←
    onBench cx.schema (Reader.children cx (scope.enter e.tag.declared) draft e.children)
  match draft with
  | .external reference =>
      update fun c => c.addItem cx.schema (.external { reference with target })
  | _ => pure ()

/-- List what was read at the top level among the items of its schema. -/
def enlist (cx : Context) : Part → Compose Unit
  | .note a => update fun c => c.addItem cx.schema (.note a)
  | .component ref => attempt fun c => c.enlist ref.id
  | _ => pure ()

/-- Read a child of the root of a document. -/
def topLevelChild (env : Environment) (build : Build) (cx : Context) (scope : Scope)
    (e : Xml.Element) : Compose Unit :=
  match ChildClass.of e.tag.name with
  | .unknown => pure ()
  | .foreign => meet cx (Reader.foreignElement e.tag e.children)
  | .known (.external kind) => external env build cx scope kind e
  | .known construct =>
      match Role.ofTopLevel? construct with
      | none => pure ()
      | some role => do
          let part ← onBench cx.schema (Reader.construct cx scope role e)
          enlist cx part

/-- Read the children of the root of a document, in order. -/
def topLevelPass (env : Environment) (build : Build) (cx : Context) (scope : Scope) :
    List Xml.Element → Compose Unit
  | [] => pure ()
  | e :: rest => do
      topLevelChild env build cx scope e
      topLevelPass env build cx scope rest

/-- Fill a registered schema with what the root of its document says. -/
def readRoot (source : Source) (parent : Option SchemaKey) (s : Schema) : Schema :=
  let root := source.document
  { s with
    parent
    bindings := root.tag.declared
    elementFormDefault := (root.attribute? "elementFormDefault").bind Form.parse?
    attributeFormDefault := (root.attribute? "attributeFormDefault").bind Form.parse?
    blockDefault := (root.attribute? "blockDefault").map DerivationSet.parse
    finalDefault := (root.attribute? "finalDefault").map DerivationSet.parse
    version := root.attribute? "version"
    xmlId := root.attribute? "id"
    source := some source
    progress := .topLevelPass }

/-- Build a document as a new schema.  Prefixes that the document does not
bind mean what they mean on the root of the document that refers to it. -/
def buildSource (env : Environment) : Nat → Build
  | 0, source, _, _ => throw (.resolution source.locator .nestedTooDeep)
  | fuel + 1, source, parent, inherited => do
      let root := source.document
      if !root.tag.is schemaNamespace "schema" then
        throw (.notASchema source.locator root.tag.name.lexical)
      match (← get).collection.addSchema (keyOf source inherited)
          (declaredTarget? root) with
      | .error e => throw e
      | .ok (number, c) => do
          update fun _ => c
          let fallback := ((parent.bind c.schema?).map Schema.bindings).getD {}
          update fun c => c.modify number (readRoot source parent)
          match (← get).collection.schemas[number]? with
          | none => return number
          | some s => do
              let cx := Context.ofSchema s env.policy
              meetAll cx (Reader.foreignAttributes root.tag)
              let scope := (Scope.inherited fallback).enter root.tag.declared
              topLevelPass env (buildSource env fuel) cx scope root.childElements
              update fun c => c.modify number fun s => { s with progress := .complete }
              return number

/-- Build a document found at a locator. -/
def build (env : Environment) (d : Located) : Compose Nat := do
  let source ← issue d
  buildSource env (env.resolver.depth + 1) source none none

/-- Read and build the text of a document. -/
def buildText (env : Environment) (locator text : String) : Compose Nat := do
  match Located.parse locator text with
  | .error e => throw e
  | .ok d => build env d

/-- Locate a document and build it, unless its schema is already there. -/
def readLocation (env : Environment) (location : String) (base : Option String) :
    Compose (Option Nat) :=
  resolveNested env (buildSource env (env.resolver.depth + 1)) ⟨"", location, base⟩ none none

end Compose

end XmlSchema
