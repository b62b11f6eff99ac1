import XmlSchema.Collection.Lookup
import XmlSchema.Document.Context
import XmlSchema.Document.PrefixTable

/-!
# Writing documents

A schema is written as a document that reads as the same schema.  Every name
is written with a prefix bound on the root, so that a token without a prefix
means a name in no namespace; references to other documents come first, as the
schema language demands.  A model that has no written form is an error.
-/

namespace XmlSchema

/-- What writing changes: the prefixes, and the record of how many pieces of
foreign content each construct handed over. -/
structure WriterState where
  prefixes : PrefixTable
  handed : List Nat := []
  deriving Repr, Inhabited

/-- What writing depends on. -/
structure WriterContext where
  collection : Collection
  schema : Schema
  policy : ForeignPolicy := .keep

/-- A step of writing. -/
abbrev Writer := ExceptT SchemaError (StateM WriterState)

namespace Writer

/-- The prefix of a namespace, declared on the root. -/
def declare (uri : String) : Writer String :=
  modifyGet fun s =>
    let (pfx, prefixes) := s.prefixes.declare uri
    (pfx, { s with prefixes })

/-- The token of a qualified name. -/
def token (name : QName) : Writer String :=
  modifyGet fun s =>
    let (t, prefixes) := s.prefixes.token name
    (t, { s with prefixes })

/-- The token of an optional name. -/
def token? : Option QName → Writer (Option String)
  | none => pure none
  | some name => do return some (← token name)

/-- The tokens of a list of names. -/
def tokens : List QName → Writer (List String)
  | [] => pure []
  | name :: rest => do
      let t ← token name
      let ts ← tokens rest
      return t :: ts

/-- The prefix of a name of copied markup.  A binding inside the markup that
still means the same stays in use; any other name is bound on the root. -/
def markupPrefix (scope : Scope) (isAttribute : Bool) (name : Xml.Name) :
    Writer (Option String) :=
  match name.uri with
  | none => pure none
  | some uri =>
      let kept :=
        match name.pfx with
        | some pfx => scope.lookup? pfx == some uri
        | none => !isAttribute && scope.lookup? "" == some uri
      if kept then pure name.pfx else do return some (← declare uri)

/-- An attribute of copied markup with its prefix. -/
def adoptAttribute (scope : Scope) (a : Xml.Attribute) : Writer Xml.Attribute := do
  let pfx ← markupPrefix scope true a.name
  return { a with name := { a.name with pfx } }

/-- Attributes of copied markup with their prefixes. -/
def adoptAttributes (scope : Scope) : List Xml.Attribute → Writer (List Xml.Attribute)
  | [] => pure []
  | a :: rest => do
      let a ← adoptAttribute scope a
      let more ← adoptAttributes scope rest
      return a :: more

/-- A tag of copied markup, inside its own scope. -/
def adoptTag (scope : Scope) (tag : Xml.Tag) : Writer Xml.Tag := do
  let pfx ← markupPrefix scope false tag.name
  let attributes ← adoptAttributes scope tag.attributes
  return { tag with name := { tag.name with pfx }, attributes }

mutual

/-- A node of copied markup with its prefixes. -/
def adopt (scope : Scope) : Xml.Node → Writer Xml.Node
  | .text content => pure (.text content)
  | .comment content => pure (.comment content)
  | .element tag children => do
      let inner := scope.enter tag.declared
      let tag ← adoptTag inner tag
      let children ← adoptAll inner children
      return .element tag children

/-- Copied markup with its prefixes. -/
def adoptAll (scope : Scope) : List Xml.Node → Writer (List Xml.Node)
  | [] => pure []
  | node :: rest => do
      let node ← adopt scope node
      let more ← adoptAll scope rest
      return node :: more

end

/-- The scope outside all copied markup. -/
def outside : Scope := Scope.root {}

/-- The foreign attributes among some content. -/
def foreignAttributes (content : List ForeignContent) : List Xml.Attribute :=
  content.filterMap fun c =>
    match c.payload with
    | .attribute a => some a
    | .element _ => none

/-- The foreign elements among some content. -/
def foreignElements (content : List ForeignContent) : List Xml.Node :=
  content.filterMap fun c =>
    match c.payload with
    | .attribute _ => none
    | .element e => some (Xml.Node.ofElement e)

/-- Hand over foreign content: its attributes and its elements, each with its
prefixes. -/
def foreign (cx : WriterContext) (content : List ForeignContent) :
    Writer (List Xml.Attribute × List Xml.Node) :=
  if content.isEmpty then pure ([], [])
  else do
    modify fun s => { s with handed := s.handed ++ [content.length] }
    match cx.policy with
    | .drop => return ([], [])
    | .keep => do
        let attributes ← adoptAttributes outside (foreignAttributes content)
        let elements ← adoptAll outside (foreignElements content)
        return (attributes, elements)

/-- The attributes that have a value, in order. -/
def attributesOf (pairs : List (String × Option String)) : List Xml.Attribute :=
  pairs.filterMap fun p => p.2.map fun value => ⟨{ localName := p.1 }, value⟩

/-- The tag of a construct of the schema language. -/
def tag (localName : String) (attributes : List Xml.Attribute) : Writer Xml.Tag := do
  let pfx ← declare schemaNamespace
  let name := (Xml.Name.make (some schemaNamespace) localName).withPrefix pfx
  return { name, attributes }

/-- A written entry of an annotation. -/
def remark (r : Remark) : Writer Xml.Node := do
  let t ← tag r.audience.localName (attributesOf [("source", r.source)])
  let lang : List Xml.Attribute :=
    match r.lang with
    | none => []
    | some value => [⟨{ uri := some xmlNamespace, localName := "lang", pfx := some "xml" }, value⟩]
  let markup ← adoptAll outside r.markup
  return .element { t with attributes := t.attributes ++ lang } markup

/-- The written entries of an annotation. -/
def remarks : List Remark → Writer (List Xml.Node)
  | [] => pure []
  | r :: rest => do
      let node ← remark r
      let more ← remarks rest
      return node :: more

/-- A written annotation. -/
def annotationNode (cx : WriterContext) (a : Annotation) : Writer Xml.Node := do
  let t ← tag "annotation" (attributesOf [("id", a.xmlId)])
  let (attributes, elements) ← foreign cx a.foreign
  let entries ← remarks a.remarks
  return .element { t with attributes := t.attributes ++ attributes } (elements ++ entries)

/-- The annotation of a construct as its first child. -/
def leadingNote (cx : WriterContext) : Option Annotation → Writer (List Xml.Node)
  | none => pure []
  | some a => do return [← annotationNode cx a]

/-- A written construct: its own attributes and identifier, its annotation,
its foreign content, and its children. -/
def construct (cx : WriterContext) (localName : String) (pairs : List (String × Option String))
    (common : Common) (children : Writer (List Xml.Node)) : Writer Xml.Element := do
  let t ← tag localName (attributesOf (pairs ++ [("id", common.xmlId)]))
  let note ← leadingNote cx common.note
  let (attributes, elements) ← foreign cx common.foreign
  let inner ← children
  return ⟨{ t with attributes := t.attributes ++ attributes }, note ++ elements ++ inner⟩

/-- The text of a set of derivation methods, if there are any. -/
def derivations (s : DerivationSet) : Option String :=
  if s.isEmpty then none else some s.text

/-- The text of a flag that is set. -/
def flag (b : Bool) : Option String := if b then some "true" else none

/-- A model that cannot be written, in a type of the schema. -/
def inconsistent {α : Type} (cx : WriterContext) (name : Option QName) (cause : Inconsistency) :
    Writer α :=
  throw (.inconsistent (.type name cx.schema.key) cause)

/-- A component that must exist. -/
def demand (cx : WriterContext) {kind : ComponentKind} (id : ComponentId kind) :
    Writer kind.Component :=
  match cx.collection.get? id with
  | some x => pure x
  | none => throw (.inconsistent (.schema cx.schema.key) (.dangling kind))

/-- A name that must be there. -/
def demandName (cx : WriterContext) (kind : ComponentKind) (name : Option QName) :
    Writer QName :=
  match name with
  | some n => pure n
  | none => throw (.unnamedComponent kind cx.schema.key)

/-- A written facet. -/
def facet (cx : WriterContext) (f : Facet) : Writer Xml.Node := do
  let e ← construct cx f.kind.localName
    [("value", some f.value), ("fixed", flag f.fixed)]
    { xmlId := f.xmlId, note := f.note } (pure [])
  return Xml.Node.ofElement e

/-- Write each entry of a list. -/
def each {α : Type} (write : α → Writer Xml.Node) : List α → Writer (List Xml.Node)
  | [] => pure []
  | x :: rest => do
      let node ← write x
      let more ← each write rest
      return node :: more

/-- Write an entry that may be absent. -/
def whenSome {α : Type} (write : α → Writer Xml.Node) : Option α → Writer (List Xml.Node)
  | none => pure []
  | some x => do return [← write x]

/-- A written wildcard. -/
def wildcard (cx : WriterContext) (localName : String) (w : Wildcard) : Writer Xml.Element :=
  construct cx localName
    [("namespace", w.namespaces), ("processContents", w.process.map ProcessContents.text)]
    w.common (pure [])

/-- A written path. -/
def path (cx : WriterContext) (localName : String) (p : PathExpression) : Writer Xml.Node := do
  let e ← construct cx localName [("xpath", some p.path)]
    { xmlId := p.xmlId, note := p.note } (pure [])
  return Xml.Node.ofElement e

/-- A written identity constraint. -/
def constraint (cx : WriterContext) (c : IdentityConstraint) : Writer Xml.Node := do
  let refer ←
    match c.kind with
    | .keyref name => do pure (some (← token name))
    | _ => pure none
  let e ← construct cx c.kind.localName
    [("name", some c.name.localName), ("refer", refer)] c.common
    (do
      let selector ← whenSome (path cx "selector") c.selector
      let fields ← each (path cx "field") c.fields
      return selector ++ fields)
  return Xml.Node.ofElement e

/-- The name or the reference of a written declaration. -/
def declaredAs (cx : WriterContext) (kind : ComponentKind) (topLevel : Bool)
    (ref name : Option QName) : Writer (List (String × Option String)) :=
  match topLevel, ref, name with
  | false, some target, _ => do return [("ref", some (← token target))]
  | _, _, some n => pure [("name", some n.localName)]
  | true, _, none => throw (.unnamedComponent kind cx.schema.key)
  | false, none, none => pure []

/-- The written type of a declaration that is defined in place. -/
def inlineType (inline : TypeId → Writer Xml.Element) : TypeSlot → Writer (List Xml.Node)
  | .anonymous id => do return [Xml.Node.ofElement (← inline id)]
  | _ => pure []

/-- A written element declaration; `inline` writes the types defined in place. -/
def element (cx : WriterContext) (inline : TypeId → Writer Xml.Element) (topLevel : Bool)
    (id : ElementId) : Writer Xml.Element := do
  let e : ElementDecl ← demand cx id
  let naming ← declaredAs cx .element topLevel e.ref e.name
  let type ← token? e.type.typeName?
  let substitutionGroup ← token? e.substitutionGroup
  construct cx "element"
    (naming ++
      [("type", type),
       ("substitutionGroup", substitutionGroup),
       ("default", e.default),
       ("fixed", e.fixed),
       ("nillable", flag e.nillable),
       ("abstract", flag e.isAbstract),
       ("block", derivations e.block),
       ("final", derivations e.finalSet),
       ("form", e.form.map Form.text)])
    e.common
    (do
      let type ← inlineType inline e.type
      let constraints ← each (constraint cx) e.constraints
      return type ++ constraints)

/-- A written attribute declaration. -/
def attributeDecl (cx : WriterContext) (inline : TypeId → Writer Xml.Element) (topLevel : Bool)
    (id : AttributeId) : Writer Xml.Element := do
  let a : AttributeDecl ← demand cx id
  let naming ← declaredAs cx .attribute topLevel a.ref a.name
  let type ← token? a.type.typeName?
  construct cx "attribute"
    (naming ++
      [("type", type),
       ("use", a.use.map AttributeUse.text),
       ("default", a.default),
       ("fixed", a.fixed),
       ("form", a.form.map Form.text)])
    a.common (inlineType inline a.type)

/-- A written attribute, or reference to a group of attributes. -/
def attributeItem (cx : WriterContext) (inline : TypeId → Writer Xml.Element) :
    AttributeItem → Writer Xml.Node
  | .attribute id => do return Xml.Node.ofElement (← attributeDecl cx inline false id)
  | .group ref => do
      let target ← token ref.target
      let e ← construct cx "attributeGroup" [("ref", some target)] ref.common (pure [])
      return Xml.Node.ofElement e

/-- A construct with the bounds of its particle. -/
def withOccurs (o : Occurs) (e : Xml.Element) : Xml.Element :=
  let (min, max) := o.lexical
  let e := (min.map (e.setAttribute "minOccurs")).getD e
  (max.map (e.setAttribute "maxOccurs")).getD e

mutual

/-- A written particle. -/
def particle (cx : WriterContext) (inline : TypeId → Writer Xml.Element) :
    Particle → Writer Xml.Node
  | .model o c common particles => do
      let e ← construct cx c.localName [] common (particleList cx inline particles)
      return Xml.Node.ofElement (withOccurs o e)
  | .element o id => do
      let e ← element cx inline false id
      return Xml.Node.ofElement (withOccurs o e)
  | .any o w => do
      let e ← wildcard cx "any" w
      return Xml.Node.ofElement (withOccurs o e)
  | .group o ref => do
      let target ← token ref.target
      let e ← construct cx "group" [("ref", some target)] ref.common (pure [])
      return Xml.Node.ofElement (withOccurs o e)

/-- A written list of particles. -/
def particleList (cx : WriterContext) (inline : TypeId → Writer Xml.Element) :
    List Particle → Writer (List Xml.Node)
  | [] => pure []
  | p :: rest => do
      let node ← particle cx inline p
      let more ← particleList cx inline rest
      return node :: more

end

/-- A written wildcard for attributes. -/
def anyAttribute (cx : WriterContext) (w : Wildcard) : Writer Xml.Node := do
  return Xml.Node.ofElement (← wildcard cx "anyAttribute" w)

/-- A written content: its particle, its attributes and its wildcard. -/
def content (cx : WriterContext) (inline : TypeId → Writer Xml.Element) (c : Content) :
    Writer (List Xml.Node) := do
  let particles ← whenSome (particle cx inline) c.particle
  let attributes ← each (attributeItem cx inline) c.attributes
  let wildcards ← whenSome (anyAttribute cx) c.anyAttribute
  return particles ++ attributes ++ wildcards

/-- A written type that is defined in place. -/
def inlineNode (inline : TypeId → Writer Xml.Element) (id : TypeId) : Writer Xml.Node := do
  return Xml.Node.ofElement (← inline id)

/-- A written definition of a simple type. -/
def simpleBody (cx : WriterContext) (inline : TypeId → Writer Xml.Element) (name : Option QName) :
    SimpleType → Writer (List Xml.Node)
  | .builtin _ => inconsistent cx name .builtinType
  | .unspecified => pure []
  | .restriction r => do
      if r.base.isSome && r.baseType.isSome then inconsistent cx name .restrictionBases
      let base ← token? r.base
      let e ← construct cx "restriction" [("base", base)] r.common
        (do
          let inner ← whenSome (inlineNode inline) r.baseType
          let facets ← each (facet cx) r.facets
          return inner ++ facets)
      return [Xml.Node.ofElement e]
  | .list l => do
      if l.itemTypeName.isSome && l.itemType.isSome then inconsistent cx name .listItems
      let itemType ← token? l.itemTypeName
      let e ← construct cx "list" [("itemType", itemType)] l.common
        (whenSome (inlineNode inline) l.itemType)
      return [Xml.Node.ofElement e]
  | .union u => do
      let members ← tokens u.memberNames
      let memberTypes := if members.isEmpty then none else some (" ".intercalate members)
      let e ← construct cx "union" [("memberTypes", memberTypes)] u.common
        (each (inlineNode inline) u.memberTypes)
      return [Xml.Node.ofElement e]

/-- A written derivation of a complex type. -/
def derivation (cx : WriterContext) (inline : TypeId → Writer Xml.Element) (name : Option QName)
    (d : Derivation) : Writer Xml.Node := do
  if d.base.isSome && d.simpleType.isSome then inconsistent cx name .derivationBases
  let base ← token? d.base
  let e ← construct cx d.step.localName [("base", base)] d.common
    (do
      let inner ← whenSome (inlineNode inline) d.simpleType
      let facets ← each (facet cx) d.facets
      let rest ← content cx inline d.content
      return inner ++ facets ++ rest)
  return Xml.Node.ofElement e

/-- A written derivation inside simple content. -/
def simpleDerivation (cx : WriterContext) (inline : TypeId → Writer Xml.Element)
    (name : Option QName) (d : Derivation) : Writer Xml.Node := do
  if d.content.particle.isSome then inconsistent cx name .particleInSimpleContent
  if d.step = .extension && (d.simpleType.isSome || !d.facets.isEmpty) then
    inconsistent cx name .typeInSimpleExtension
  derivation cx inline name d

/-- A written derivation inside complex content. -/
def complexDerivation (cx : WriterContext) (inline : TypeId → Writer Xml.Element)
    (name : Option QName) (d : Derivation) : Writer Xml.Node := do
  if d.simpleType.isSome || !d.facets.isEmpty then inconsistent cx name .typeInComplexContent
  derivation cx inline name d

/-- A written content model. -/
def contentModel (cx : WriterContext) (inline : TypeId → Writer Xml.Element)
    (name : Option QName) : ContentModel → Writer (List Xml.Node)
  | .direct c => content cx inline c
  | .simple c => do
      let e ← construct cx "simpleContent" [] c.common
        (whenSome (simpleDerivation cx inline name) c.derivation)
      return [Xml.Node.ofElement e]
  | .complex c => do
      let e ← construct cx "complexContent" [("mixed", c.mixed.map boolText)] c.common
        (whenSome (complexDerivation cx inline name) c.derivation)
      return [Xml.Node.ofElement e]

/-- The attributes that only complex types have. -/
def complexAttributes : TypeBody → List (String × Option String)
  | .simple _ => []
  | .complex c =>
      [("abstract", flag c.isAbstract),
       ("mixed", c.mixed.map boolText),
       ("block", derivations c.block)]

/-- A written type; `inline` writes the types defined inside it. -/
def typeDefinition (cx : WriterContext) (inline : TypeId → Writer Xml.Element) (named : Bool)
    (id : TypeId) : Writer Xml.Element := do
  let t : TypeDefinition ← demand cx id
  if t.isBuiltin then inconsistent cx t.name .builtinType
  let name ← if named then do pure (some (← demandName cx .type t.name).localName) else pure none
  construct cx (if t.isSimple then "simpleType" else "complexType")
    (("name", name) :: complexAttributes t.body ++ [("final", derivations t.finalSet)])
    t.common
    (match t.body with
      | .simple s => simpleBody cx inline t.name s
      | .complex c => contentModel cx inline t.name c.content)

/-- A written type that is defined in place; the number bounds how deeply
types are defined inside each other. -/
def inlineTypeDefinition (cx : WriterContext) : Nat → TypeId → Writer Xml.Element
  | 0, _ => inconsistent cx none .cyclicType
  | depth + 1, id => typeDefinition cx (inlineTypeDefinition cx depth) false id

/-- A written named group. -/
def group (cx : WriterContext) (inline : TypeId → Writer Xml.Element) (id : GroupId) :
    Writer Xml.Element := do
  let g : GroupDefinition ← demand cx id
  let name ← demandName cx .group g.name
  construct cx "group" [("name", some name.localName)] g.common
    (whenSome (particle cx inline) g.particle)

/-- A written named group of attributes. -/
def attributeGroup (cx : WriterContext) (inline : TypeId → Writer Xml.Element)
    (id : AttributeGroupId) : Writer Xml.Element := do
  let g : AttributeGroupDefinition ← demand cx id
  let name ← demandName cx .attributeGroup g.name
  construct cx "attributeGroup" [("name", some name.localName)] g.common
    (content cx inline { attributes := g.attributes, anyAttribute := g.anyAttribute })

/-- A written notation. -/
def notationDecl (cx : WriterContext) (id : NotationId) : Writer Xml.Element := do
  let n : NotationDecl ← demand cx id
  let name ← demandName cx .notationDecl n.name
  construct cx "notation"
    [("name", some name.localName), ("public", n.publicId), ("system", n.systemId)]
    n.common (pure [])

/-- A written top-level component. -/
def component (cx : WriterContext) (inline : TypeId → Writer Xml.Element) :
    ComponentRef → Writer Xml.Element
  | ⟨.type, id⟩ => typeDefinition cx inline true id
  | ⟨.element, id⟩ => element cx inline true id
  | ⟨.attribute, id⟩ => attributeDecl cx inline true id
  | ⟨.group, id⟩ => group cx inline id
  | ⟨.attributeGroup, id⟩ => attributeGroup cx inline id
  | ⟨.notationDecl, id⟩ => notationDecl cx id

/-- A written component as a node. -/
def componentNode (cx : WriterContext) (inline : TypeId → Writer Xml.Element)
    (ref : ComponentRef) : Writer Xml.Node := do
  return Xml.Node.ofElement (← component cx inline ref)

/-- A written reference to another document. -/
def external (cx : WriterContext) (inline : TypeId → Writer Xml.Element) (e : ExternalRef) :
    Writer Xml.Element :=
  construct cx e.kind.localName
    [("namespace", if e.kind = .importation then e.namespaceName else none),
     ("schemaLocation", e.location)]
    e.common (each (componentNode cx inline) e.redefined)

/-- A written item. -/
def item (cx : WriterContext) (inline : TypeId → Writer Xml.Element) :
    SchemaItem → Writer Xml.Node
  | .note a => annotationNode cx a
  | .external e => do return Xml.Node.ofElement (← external cx inline e)
  | .component ref => componentNode cx inline ref

/-- The items of a schema as they are written: references to other documents
first. -/
def writtenItems (items : List SchemaItem) : List SchemaItem :=
  items.filter (·.external?.isSome) ++ items.filter (·.external?.isNone)

/-- The attributes of the root of a written document. -/
def rootAttributes (s : Schema) : List (String × Option String) :=
  [("targetNamespace", s.targetNamespace),
   ("version", s.version),
   ("id", s.xmlId),
   ("elementFormDefault", s.elementFormDefault.map Form.text),
   ("attributeFormDefault", s.attributeFormDefault.map Form.text),
   ("blockDefault", s.blockDefault.map DerivationSet.text),
   ("finalDefault", s.finalDefault.map DerivationSet.text)]

/-- The root of a written document, its bindings aside. -/
def root (cx : WriterContext) : Writer Xml.Element := do
  let t ← tag "schema" (attributesOf (rootAttributes cx.schema))
  let (attributes, elements) ← foreign cx cx.schema.foreign
  let inline := inlineTypeDefinition cx (cx.collection.typeCount + 1)
  let items ← each (item cx inline) (writtenItems cx.schema.items)
  return ⟨{ t with attributes := t.attributes ++ attributes }, elements ++ items⟩

/-- Write one schema: the document or an error, and the record of the foreign
content that was handed over. -/
def document (cx : WriterContext) : Except SchemaError Xml.Element × List Nat :=
  let (outcome, state) := (root cx).run.run { prefixes := PrefixTable.ofSchema cx.schema }
  (outcome.map fun e => { e with tag := { e.tag with declared := state.prefixes.declared } },
    state.handed)

end Writer

/-- A written schema. -/
structure WrittenSchema where
  key : SchemaKey
  document : Xml.Element
  deriving Repr, Inhabited

/-- What a recursive writing has done so far: the schemas it has seen, the
documents, and the record of foreign content. -/
structure Emission where
  seen : List Nat := []
  written : List WrittenSchema := []
  handed : List Nat := []
  deriving Repr, Inhabited

/-- Write a schema and, if asked to, all that it refers to; each schema is
written once, before those it refers to. -/
def Emission.visit (c : Collection) (policy : ForeignPolicy) (recursive : Bool) :
    Nat → Nat → Attempt Emission Unit
  | 0, _ => pure ()
  | fuel + 1, number => do
      if (← get).seen.contains number then return
      modify fun e => { e with seen := number :: e.seen }
      match c.schemas[number]? with
      | none => return
      | some schema =>
          if schema.builtin then return
          let (outcome, handed) := Writer.document { collection := c, schema, policy }
          modify fun e => { e with handed := e.handed ++ handed }
          match outcome with
          | .error e => throw e
          | .ok document =>
              modify fun e => { e with written := e.written ++ [⟨schema.key, document⟩] }
              if recursive then (c.targets schema).forM (visit c policy recursive fuel)

/-- Write a schema, with what it refers to when `recursive`: the documents or
an error, and the record of foreign content. -/
def Collection.write (c : Collection) (policy : ForeignPolicy) (number : Nat)
    (recursive : Bool) : Except SchemaError (List WrittenSchema) × List Nat :=
  let (outcome, e) :=
    (Emission.visit c policy recursive (c.schemas.size + 1) number).run.run {}
  (outcome.map fun _ => e.written, e.handed)

end XmlSchema
