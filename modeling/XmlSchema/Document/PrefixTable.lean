import XmlSchema.Component.Schema

/-!
# Prefixes of written documents

All bindings of a written document stand on its root.  A namespace keeps the
prefix it is first given: the one the source document recorded where that is
still free, otherwise a fresh one that neither document uses.
-/

namespace XmlSchema

/-- The prefixes of one written document. -/
structure PrefixTable where
  recorded : Bindings := {}
  target : Option String := none
  unprefixed : Option String := none
  declared : Bindings := {}
  deriving Repr, Inhabited

namespace PrefixTable

/-- The table at the start of a document.  A document that inherits its
namespace writes the names in it without a prefix. -/
def ofSchema (s : Schema) : PrefixTable :=
  { recorded := s.bindings
    target := s.targetNamespace
    unprefixed :=
      if s.targetNamespace.isNone && !s.logicalNamespace.isEmpty then some s.logicalNamespace
      else none }

/-- Whether a prefix cannot be given to a new namespace. -/
def taken (t : PrefixTable) (pfx : String) : Bool :=
  pfx == "xml" || t.declared.containsPrefix pfx || t.recorded.containsPrefix pfx

/-- The first free prefix among a stem with the numbers from `n` on. -/
def numbered (t : PrefixTable) (stem : String) : Nat → Nat → String
  | 0, n => stem ++ toString n
  | fuel + 1, n =>
      let candidate := stem ++ toString n
      if t.taken candidate then numbered t stem fuel (n + 1) else candidate

/-- A prefix that is not taken. -/
def fresh (t : PrefixTable) (stem : String) : String :=
  let tries := t.declared.size + t.recorded.size + 1
  if stem = "ns" then t.numbered stem tries 0
  else if t.taken stem then t.numbered stem tries 1
  else stem

/-- The stem of fresh prefixes for a namespace. -/
def stemOf (t : PrefixTable) (uri : String) : String :=
  if uri = schemaNamespace then "xs"
  else if t.target = some uri then "tns"
  else "ns"

/-- The prefix that the source document recorded, if it is still free. -/
def recorded? (t : PrefixTable) (uri : String) : Option String :=
  (t.recorded.prefixOf? uri).filter fun p => p != "xml" && !t.declared.containsPrefix p

/-- The prefix that a namespace was given before. -/
def assigned? (t : PrefixTable) (uri : String) : Option String :=
  (t.declared.toList.find? (·.2 == uri)).map Prod.fst

/-- The prefix of a namespace, declared if it is new. -/
def declare (t : PrefixTable) (uri : String) : String × PrefixTable :=
  if uri = xmlNamespace then ("xml", t)
  else
    match t.assigned? uri with
    | some pfx => (pfx, t)
    | none =>
        let pfx := (t.recorded? uri).getD (t.fresh (t.stemOf uri))
        (pfx, { t with declared := t.declared.declare pfx uri })

/-- The prefix of a reference into a namespace, unless it goes without. -/
def reference (t : PrefixTable) (uri : String) : Option String × PrefixTable :=
  if uri.isEmpty || t.unprefixed = some uri then (none, t)
  else
    let (pfx, t) := t.declare uri
    (some pfx, t)

/-- The token of a qualified name. -/
def token (t : PrefixTable) (name : QName) : String × PrefixTable :=
  match t.reference name.namespaceName with
  | (some pfx, t) => (pfx ++ ":" ++ name.localName, t)
  | (none, t) => (name.localName, t)

end PrefixTable

end XmlSchema
