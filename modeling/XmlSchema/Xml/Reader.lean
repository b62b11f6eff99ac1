import XmlSchema.Xml.Event
import XmlSchema.Xml.Tree

/-!
# Reading documents

The events of a document become a tree.  Each element sees the bindings it
declares, then those of its parent that it does not redeclare; a name is kept
with the first prefix in that order that is bound to its namespace.  Content
that entities spell may open and close elements of the text around them.
-/

namespace XmlSchema.Xml

/-- The bindings in scope at an element, nearest first. -/
abbrev InScope := List (String × String)

namespace InScope

/-- The namespace that declarations reserve for themselves. -/
def declarationNamespace : String := "http://www.w3.org/2000/xmlns/"

/-- The namespace bound to a prefix. -/
def lookup? (scope : InScope) (pfx : String) : Option String :=
  List.lookup pfx scope

/-- The prefix a name in a namespace is kept with. -/
def prefixOf? (scope : InScope) (uri : String) : Option String :=
  if uri = xmlNamespace then some "xml"
  else (scope.find? (·.2 == uri)).map Prod.fst

/-- What an element sees: its own declarations and the others of its parent. -/
def extend (own parent : InScope) : InScope :=
  if own.isEmpty then parent
  else parent.foldl (fun seen b => if seen.any (·.1 == b.1) then seen else seen ++ [b]) own

/-- A name with a namespace, as it is kept in the tree. -/
def keep (scope : InScope) (uri : Option String) (localName : String) : Name :=
  match uri with
  | none => { localName }
  | some u => (Name.make uri localName).withPrefix ((scope.prefixOf? u).getD "")

/-- The namespace of an element's name. -/
def elementUri (scope : InScope) (name : RawName) : Except Fault (Option String) :=
  match scope.lookup? name.pfx with
  | some uri => .ok (some uri)
  | none => if name.pfx.isEmpty then .ok none else .error (.unboundPrefix name.pfx)

/-- The namespace of an attribute's name; the default namespace never counts. -/
def attributeUri (scope : InScope) (name : RawName) : Except Fault (Option String) :=
  if name.pfx = "xml" then .ok (some xmlNamespace)
  else if name.pfx.isEmpty then .ok none
  else scope.elementUri name

/-- Attributes with their namespaces, each with its own name. -/
def attributes (scope : InScope) :
    List ReadAttribute → List (Option String × String) → Except Fault (List Attribute)
  | [], _ => .ok []
  | a :: rest, seen => do
      let uri ← scope.attributeUri a.name
      if seen.contains (uri, a.name.localName) then
        throw (.duplicateAttribute a.name.text)
      let more ← attributes scope rest ((uri, a.name.localName) :: seen)
      return ⟨scope.keep uri a.name.localName, a.value⟩ :: more

/-- The bindings that are new at an element: all but those its parent has. -/
def fresh (scope parent : InScope) : Bindings :=
  Bindings.ofList (scope.filter fun b => b.1 != "xml" && !parent.contains b)

end InScope

/-- Bindings and attributes that wait for the tag they count for.  Those of a
tag that is cut off wait for the next whole tag. -/
structure Pending where
  bindings : InScope := []
  attributes : List ReadAttribute := []

namespace Pending

/-- Take up an attribute of a tag.  With the prefix `xmlns` it declares a
prefix; with the local name `xmlns` it declares the default namespace, whatever
its own prefix. -/
def add (p : Pending) (a : ReadAttribute) : Except Fault Pending :=
  if a.name.pfx = "xmlns" then
    if a.value = InScope.declarationNamespace then .error (.reservedNamespace a.value)
    else if (a.name.localName == "xml") != (a.value == xmlNamespace) then
      .error (.reservedPrefix a.name.localName)
    else if p.bindings.any (·.1 == a.name.localName) then
      .error (.duplicateBinding a.name.localName)
    else if a.value = xmlNamespace then .ok p
    else .ok { p with bindings := p.bindings ++ [(a.name.localName, a.value)] }
  else if a.name.localName = "xmlns" then
    if a.value = xmlNamespace || a.value = InScope.declarationNamespace then
      .error (.reservedNamespace a.value)
    else .ok { p with bindings := p.bindings ++ [("", a.value)] }
  else .ok { p with attributes := p.attributes ++ [a] }

/-- The scope and the attributes that a tag inside `parent` takes from here. -/
def resolve (p : Pending) (parent : InScope) : Except Fault (InScope × List Attribute) := do
  let scope := InScope.extend p.bindings parent
  return (scope, ← scope.attributes p.attributes [])

end Pending

/-- An element whose end tag has not come yet, with its children in reverse. -/
structure OpenElement where
  name : RawName
  tag : Tag
  scope : InScope
  children : List Node := []
  glued : Bool := false

namespace OpenElement

/-- Add a child that ends any run of text. -/
def push (e : OpenElement) (child : Node) : OpenElement :=
  { e with children := child :: e.children, glued := false }

/-- Add text, joined to text directly before it. -/
def pushText (e : OpenElement) (content : String) : OpenElement :=
  match e.glued, e.children with
  | true, .text before :: rest => { e with children := .text (before ++ content) :: rest }
  | _, children => { e with children := .text content :: children, glued := true }

/-- End any run of text. -/
def unglue (e : OpenElement) : OpenElement := { e with glued := false }

/-- Begin an element inside the bindings of its parent. -/
def start (name : RawName) (pending : Pending) (parent : InScope) : Except Fault OpenElement := do
  let (scope, attributes) ← pending.resolve parent
  let uri ← scope.elementUri name
  let tag : Tag :=
    { name := scope.keep uri name.localName, declared := scope.fresh parent, attributes }
  return { name, tag, scope }

/-- The element once its end tag has come. -/
def finish (e : OpenElement) : Element := ⟨e.tag, e.children.reverse⟩

end OpenElement

/-- A document being read: the open elements, innermost first, the first
element that was closed outside of all others, and what waits for a tag. -/
structure OpenDocument where
  stack : List OpenElement := []
  root : Option Element := none
  pending : Pending := {}

namespace OpenDocument

/-- The bindings in scope at the innermost open element. -/
def scope (d : OpenDocument) : InScope := (d.stack.head?.map OpenElement.scope).getD []

/-- Change the innermost open element, if there is one. -/
def modify (d : OpenDocument) (f : OpenElement → OpenElement) : OpenDocument :=
  match d.stack with
  | [] => d
  | e :: outer => { d with stack := f e :: outer }

/-- Put a complete element where it belongs.  Outside of all others only the
first one counts. -/
def close (d : OpenDocument) (e : Element) : OpenDocument :=
  match d.stack with
  | [] => { d with root := d.root <|> some e }
  | _ => d.modify (·.push (Node.ofElement e))

/-- Take up an event. -/
def step (d : OpenDocument) : Event → Except Fault OpenDocument
  | .startTag name list ending => do
      if name.pfx = "xmlns" then throw (.reservedPrefix name.pfx)
      let pending ← list.foldlM Pending.add d.pending
      match ending with
      | .cut => return { d.modify OpenElement.unglue with pending }
      | .closed =>
          let e ← OpenElement.start name pending d.scope
          return { d.close e.finish with pending := {} }
      | .opened =>
          let e ← OpenElement.start name pending d.scope
          return { d with stack := e :: d.stack, pending := {} }
  | .endTag name => do
      let _ ← d.pending.resolve d.scope
      match d.stack with
      | [] => throw (.mismatchedTag name.text)
      | e :: outer =>
          if name != e.name then throw (.mismatchedTag name.text)
          return { d with stack := outer, pending := {} }.close e.finish
  | .text content => return d.modify (·.pushText (String.ofList content))
  | .comment content => return d.modify (·.push (.comment (String.ofList content)))
  | .gap => return d.modify OpenElement.unglue

end OpenDocument

/-- The root element that the events of a document spell. -/
def Element.ofEvents (events : List Event) : Except Fault Element := do
  let d ← events.foldlM OpenDocument.step {}
  match d.stack, d.root with
  | e :: _, _ => throw (.unclosedElement e.name.text)
  | [], none => throw .noRoot
  | [], some root => return root

/-- Read a complete document and return its root element. -/
def Element.parse (document : String) : Except Fault Element := do
  let (entities, cs) ← Prolog.read document.toList
  match cs with
  | '<' :: cs =>
      let (lexemes, rest) ← Lexeme.ofElement cs
      let rest ← Prolog.skipMisc rest.length rest
      if !rest.isEmpty then throw .strayText
      Element.ofEvents (← Event.ofLexemes entities lexemes)
  | _ => throw .noRoot

end XmlSchema.Xml
