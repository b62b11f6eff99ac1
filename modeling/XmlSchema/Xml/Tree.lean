import XmlSchema.Namespace.Bindings

/-!
# Document trees

An element is a tag (name, declared bindings, attributes) with its children:
elements, text and comments.  The prefix kept in a name is a wish of the
document for its written form and carries no meaning of its own.
-/

namespace XmlSchema.Xml

/-- The name of an element or attribute.  A namespace may be present and
empty, which is told apart from an absent one. -/
structure Name where
  uri : Option String := none
  localName : String
  pfx : Option String := none
  deriving DecidableEq, Repr, Inhabited

namespace Name

/-- A name without a prefix; the empty namespace counts as absent. -/
def make (uri : Option String) (localName : String) : Name :=
  { uri := uri.filter (fun u => !u.isEmpty), localName }

/-- Set the prefix; the empty prefix counts as absent. -/
def withPrefix (name : Name) (pfx : String) : Name :=
  { name with pfx := if pfx.isEmpty then none else some pfx }

/-- The namespace, empty when absent. -/
def namespaceName (name : Name) : String := name.uri.getD ""

/-- The qualified name without the prefix. -/
def toQName (name : Name) : QName := ⟨name.namespaceName, name.localName⟩

/-- The written form, `prefix:local` or `local`. -/
def lexical (name : Name) : String :=
  match name.pfx with
  | some pfx => pfx ++ ":" ++ name.localName
  | none => name.localName

end Name

/-- A name with a value. -/
structure Attribute where
  name : Name
  value : String
  deriving DecidableEq, Repr, Inhabited

/-- An element without its children. -/
structure Tag where
  name : Name
  declared : Bindings := {}
  attributes : List Attribute := []
  deriving DecidableEq, Repr, Inhabited

/-- A child of an element. -/
inductive Node where
  | element (tag : Tag) (children : List Node)
  | text (content : String)
  | comment (content : String)
  deriving Repr, Inhabited

/-- A tag with its children. -/
structure Element where
  tag : Tag
  children : List Node := []
  deriving Repr, Inhabited

namespace Tag

/-- Whether the tag has a given namespace and local name. -/
def is (tag : Tag) (uri localName : String) : Bool :=
  tag.name.namespaceName == uri && tag.name.localName == localName

/-- The value of the first attribute with a given namespace and local name. -/
def attributeNs? (tag : Tag) (uri localName : String) : Option String :=
  (tag.attributes.find? fun a =>
    a.name.namespaceName == uri && a.name.localName == localName).map Attribute.value

/-- The value of an attribute in no namespace. -/
def attribute? (tag : Tag) (localName : String) : Option String :=
  tag.attributeNs? "" localName

/-- Replace the value of the first attribute whose namespace is absent and
whose local name is the given one, or append a new attribute. -/
def putAttribute (localName value : String) : List Attribute → List Attribute
  | [] => [{ name := { localName }, value }]
  | a :: rest =>
      if a.name.uri.isNone && a.name.localName == localName then { a with value } :: rest
      else a :: putAttribute localName value rest

/-- Set an attribute in no namespace. -/
def setAttribute (tag : Tag) (localName value : String) : Tag :=
  { tag with attributes := putAttribute localName value tag.attributes }

end Tag

namespace Node

/-- An element as a node. -/
def ofElement (e : Element) : Node := .element e.tag e.children

/-- The element that a node is. -/
def element? : Node → Option Element
  | .element tag children => some ⟨tag, children⟩
  | .text _ => none
  | .comment _ => none

/-- The text of a text node. -/
def text? : Node → Option String
  | .text content => some content
  | .element _ _ => none
  | .comment _ => none

end Node

namespace Element

/-- The value of an attribute in no namespace. -/
def attribute? (e : Element) (localName : String) : Option String :=
  e.tag.attribute? localName

/-- The children that are elements. -/
def childElements (e : Element) : List Element := e.children.filterMap Node.element?

/-- The text of the text children, joined. -/
def text (e : Element) : String := String.join (e.children.filterMap Node.text?)

/-- Append a child element. -/
def push (e : Element) (child : Element) : Element :=
  { e with children := e.children ++ [Node.ofElement child] }

/-- Set an attribute in no namespace. -/
def setAttribute (e : Element) (localName value : String) : Element :=
  { e with tag := e.tag.setAttribute localName value }

/-- Give every child element the same local name. -/
def renameChildren (e : Element) (localName : String) : Element :=
  { e with
    children := e.children.map fun
      | .element tag children =>
          .element { tag with name := { tag.name with localName } } children
      | node => node }

end Element

end XmlSchema.Xml
