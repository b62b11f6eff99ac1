import XmlSchema.Document.Opening
import XmlSchema.Collection.Registration

/-!
# Reading constructs

One walk reads every construct: begin it in its part, hand over its foreign
attributes, read its children in order, and close it.  Closing a definition or
declaration makes it a component of the schema, so that what stands inside a
construct is owned before the construct itself.
-/

namespace XmlSchema

/-- What reading changes: the components of the schema, the declarations that
look for a type, and the names of the foreign content that was met. -/
structure Workbench where
  components : Components
  pending : List (QName × Receiver) := []
  met : List ForeignContent := []
  deriving Repr

namespace Workbench

/-- Own a new component. -/
def allocate (w : Workbench) (schema : Nat) (kind : ComponentKind) (x : kind.Component) :
    ComponentId kind × Workbench :=
  let id : ComponentId kind := ⟨schema, w.components.count kind⟩
  let w := { w with components := w.components.push kind x }
  match kind.pending? x, id.receiver? with
  | some name, some receiver => (id, { w with pending := w.pending ++ [(name, receiver)] })
  | _, _ => (id, w)

end Workbench

namespace Reader

/-- Own a new component of the schema being read. -/
def own (cx : Context) (kind : ComponentKind) (x : kind.Component) :
    Attempt Workbench (ComponentId kind) :=
  modifyGet fun w => w.allocate cx.schema kind x

/-- Hand over foreign content. -/
def meet (cx : Context) (content : ForeignContent) (d : Draft) : Attempt Workbench Draft := do
  modify fun w => { w with met := w.met ++ [content] }
  return match cx.policy with
    | .keep => d.addForeign content
    | .drop => d

/-- The foreign attributes of a tag. -/
def foreignAttributes (tag : Xml.Tag) : List ForeignContent :=
  (tag.attributes.filter (·.name.uri.isSome)).map fun a => ⟨a.name.toQName, .attribute a⟩

/-- A foreign element. -/
def foreignElement (tag : Xml.Tag) (children : List Xml.Node) : ForeignContent :=
  ⟨tag.name.toQName, .element ⟨tag, children⟩⟩

/-- Hand over a list of foreign content. -/
def meetAll (cx : Context) : List ForeignContent → Draft → Attempt Workbench Draft
  | [], d => pure d
  | content :: rest, d => do
      let d ← meet cx content d
      meetAll cx rest d

/-- Begin a construct and hand over its foreign attributes. -/
def begin (cx : Context) (scope : Scope) (tag : Xml.Tag) (children : List Xml.Node)
    (role : Role) : Attempt Workbench Opening := do
  match ← (role.opening cx scope tag children : Except SchemaError Opening) with
  | .part p => return .part p
  | .draft d =>
      if d.takesForeign then return .draft (← meetAll cx (foreignAttributes tag) d)
      else return .draft d

/-- Close a construct whose children have been read. -/
def close (cx : Context) : Draft → Attempt Workbench Part
  | .external e => return .external e
  | .note a => return .note a
  | .simpleType t => return .component ⟨.type, ← own cx .type t⟩
  | .complexType t c direct model => do
      let body := TypeBody.complex { c with content := model.getD (.direct direct) }
      return .component ⟨.type, ← own cx .type { t with body }⟩
  | .restriction r => return .variety (.restriction r)
  | .list l => return .variety (.list l)
  | .union u => return .variety (.union u)
  | .simpleContent c => return .model (.simple c)
  | .complexContent c => return .model (.complex c)
  | .derivation d => return .derivation d
  | .compositor o c common particles => return .particle (some (.model o c common particles))
  | .groupRef o r => return .particle (some (.group o r))
  | .any o w => return .particle (some (.any o w))
  | .anyAttribute w => return .anyAttribute w
  | .element o e => do
      let id ← own cx .element e
      return if e.topLevel then .component ⟨.element, id⟩ else .particle (some (.element o id))
  | .attribute a => do
      let id ← own cx .attribute a
      return if a.topLevel then .component ⟨.attribute, id⟩ else .attributeItem (.attribute id)
  | .attributeGroupRef r => return .attributeItem (.group r)
  | .group g => return .component ⟨.group, ← own cx .group g⟩
  | .attributeGroup g => return .component ⟨.attributeGroup, ← own cx .attributeGroup g⟩
  | .notationDecl n => return .component ⟨.notationDecl, ← own cx .notationDecl n⟩
  | .constraint c => return .constraint c
  | .selector p => return .selector p
  | .field p => return .field p
  | .facet f => return .facet f

mutual

/-- Read a child of a draft.  Elements that the draft does not take are passed
over. -/
def child (cx : Context) (scope : Scope) (d : Draft) : Xml.Node → Attempt Workbench Draft
  | .text _ => pure d
  | .comment _ => pure d
  | .element tag kids =>
      match ChildClass.of tag.name with
      | .unknown => pure d
      | .foreign => if d.takesForeign then meet cx (foreignElement tag kids) d else pure d
      | .known construct =>
          match d.role? construct with
          | none => pure d
          | some role => do
              let inner := scope.enter tag.declared
              match ← begin cx inner tag kids role with
              | .part p => return d.adopt p
              | .draft nested =>
                  let nested ← children cx inner nested kids
                  let p ← close cx nested
                  return d.adopt p

/-- Read the children of a draft, in order. -/
def children (cx : Context) (scope : Scope) (d : Draft) :
    List Xml.Node → Attempt Workbench Draft
  | [] => pure d
  | node :: rest => do
      let d ← child cx scope d node
      children cx scope d rest

end

/-- Read one construct in the part it plays. -/
def construct (cx : Context) (scope : Scope) (role : Role) (e : Xml.Element) :
    Attempt Workbench Part := do
  let inner := scope.enter e.tag.declared
  match ← begin cx inner e.tag e.children role with
  | .part p => return p
  | .draft d =>
      let d ← children cx inner d e.children
      close cx d

end Reader

end XmlSchema
