import XmlSchema.Text.Blank

/-!
# Qualified names

A qualified name is a namespace together with a local part; the empty
namespace stands for "no namespace".  Its text is Clark notation,
`{namespace}local`.  Prefixes belong to tokens, never to names.
-/

namespace XmlSchema

/-- The namespace of the schema language itself. -/
def schemaNamespace : String := "http://www.w3.org/2001/XMLSchema"

/-- The namespace bound to the reserved prefix `xml`. -/
def xmlNamespace : String := "http://www.w3.org/XML/1998/namespace"

/-- A namespace and a local part. -/
structure QName where
  namespaceName : String
  localName : String
  deriving DecidableEq, Repr, Inhabited

namespace QName

/-- A name in no namespace. -/
def ofLocal (localName : String) : QName := ⟨"", localName⟩

/-- Whether the name is in a namespace. -/
def hasNamespace (name : QName) : Bool := !name.namespaceName.isEmpty

/-- Clark notation. -/
def text (name : QName) : String :=
  if name.namespaceName.isEmpty then name.localName
  else "\x7b" ++ name.namespaceName ++ "\x7d" ++ name.localName

/-- Order by namespace, then by local part. -/
def le (a b : QName) : Bool :=
  if a.namespaceName = b.namespaceName then decide (a.localName ≤ b.localName)
  else decide (a.namespaceName ≤ b.namespaceName)

end QName

/-- The prefix and the local part of a token; a token without a colon has the
empty prefix. -/
def splitPrefixed (token : String) : String × String :=
  match Text.splitAtFirst ':' (Text.trim token).toList with
  | some (pfx, localPart) => (String.ofList pfx, String.ofList localPart)
  | none => ("", Text.trim token)

end XmlSchema
