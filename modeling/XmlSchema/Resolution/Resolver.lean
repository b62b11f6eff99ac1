import XmlSchema.Component.Error
import XmlSchema.Locator.Join
import XmlSchema.Xml.Reader

/-!
# Resolvers

A resolver answers a request for a document with its authoritative locator and
its tree, with nothing when there is no such document, or with an error.  The
resolver over a map of documents serves texts by their locators: first the
joined location is tried, then the location as it stands.
-/

namespace XmlSchema

/-- A request for a document. -/
structure Request where
  namespaceName : String
  location : String
  base : Option String := none
  deriving DecidableEq, Repr, Inhabited

/-- The text of a request. -/
def Request.text (r : Request) : String :=
  "[" ++ r.namespaceName ++ "] " ++ r.location ++ " (base: " ++ r.base.getD "-" ++ ")"

/-- A document with its authoritative locator. -/
structure Located where
  locator : String
  document : Xml.Element
  deriving Repr, Inhabited

/-- Read the text of a document. -/
def Located.parse (locator text : String) : Except SchemaError Located :=
  match Xml.Element.parse text with
  | .ok document => .ok { locator, document }
  | .error fault => .error (.malformedDocument locator fault)

theorem Located.locator_of_parse {locator text : String} {d : Located}
    (h : Located.parse locator text = .ok d) : d.locator = locator := by
  unfold Located.parse at h
  split at h
  · cases h
    rfl
  · cases h

/-- Something that answers requests.  The size bounds the number of locators
that it answers with. -/
structure Resolver where
  answer : Request → Except SchemaError (Option Located)
  size : Nat

namespace Resolver

/-- A resolver that finds nothing. -/
def nothing : Resolver := ⟨fun _ => .ok none, 0⟩

/-- A resolver over texts by locator. -/
def ofDocuments (documents : List (String × String)) : Resolver where
  answer r :=
    let candidates := [Locator.join r.location r.base, r.location]
    match candidates.findSome? fun c => (documents.lookup c).map fun text => (c, text) with
    | none => .ok none
    | some (locator, text) => (Located.parse locator text).map some
  size := documents.length

/-- How deeply documents can include one another: each step registers a new
pair of a locator and a namespace, and a namespace is declared by a document
or given from outside. -/
def depth (r : Resolver) : Nat := r.size * (r.size + 2) + 1

end Resolver

end XmlSchema
