import XmlSchema.Component.Schema
import XmlSchema.Component.Error
import XmlSchema.Namespace.Bindings

/-!
# What a document's names mean

Tokens of a schema document are resolved against the bindings in scope where
they stand.  A document without a target namespace that is read on behalf of
another takes on the namespace of the other: a name in no namespace then
counts as a name in the inherited one.
-/

namespace XmlSchema

/-- What becomes of foreign content: it is kept as found, or dropped. -/
inductive ForeignPolicy where
  | keep
  | drop
  deriving DecidableEq, Repr, Inhabited

/-- The settings of a document that its constructs depend on. -/
structure Context where
  schema : Nat
  key : SchemaKey
  inherits : Bool := false
  elementForm : Form := .unqualified
  attributeForm : Form := .unqualified
  policy : ForeignPolicy := .keep
  deriving Repr, Inhabited

namespace Context

/-- The context of the constructs of a schema. -/
def ofSchema (s : Schema) (policy : ForeignPolicy) : Context :=
  { schema := s.number
    key := s.key
    inherits := s.targetNamespace.isNone && !s.key.namespaceName.isEmpty
    elementForm := s.elementForm
    attributeForm := s.attributeForm
    policy }

/-- A name in the logical namespace of the document. -/
def qualify (cx : Context) (localName : String) : QName :=
  ⟨cx.key.namespaceName, Text.trim localName⟩

/-- The name of a local declaration of some form. -/
def localName (cx : Context) (name : String) : Form → QName
  | .qualified => cx.qualify name
  | .unqualified => .ofLocal (Text.trim name)

/-- The namespace that a prefix stands for. -/
def namespaceOf? (scope : Scope) (pfx : String) : Option String :=
  if pfx = "xml" then some xmlNamespace
  else
    match scope.lookup? pfx with
    | some uri => some uri
    | none => if pfx.isEmpty then some "" else none

/-- The name that a token stands for. -/
def resolve (cx : Context) (scope : Scope) (token : String) : Except SchemaError QName :=
  let (pfx, localPart) := splitPrefixed token
  match namespaceOf? scope pfx with
  | none => .error (.unboundPrefix pfx token cx.key)
  | some uri =>
      .ok (if uri.isEmpty && cx.inherits then cx.qualify localPart else ⟨uri, localPart⟩)

/-- The name that an optional token stands for. -/
def resolve? (cx : Context) (scope : Scope) :
    Option String → Except SchemaError (Option QName)
  | none => .ok none
  | some token => (cx.resolve scope token).map some

/-- The names that a list of tokens stands for. -/
def resolveAll (cx : Context) (scope : Scope) : List String → Except SchemaError (List QName)
  | [] => .ok []
  | token :: rest => do
      let name ← cx.resolve scope token
      let names ← cx.resolveAll scope rest
      return name :: names

end Context

end XmlSchema
