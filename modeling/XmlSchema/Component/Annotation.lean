import XmlSchema.Xml.Tree

/-!
# Annotations and foreign content

What a construct carries beside its meaning for the schema: an identifier, an
annotation, and the attributes and elements of foreign namespaces found on it,
in the order in which they were met.
-/

namespace XmlSchema

/-- A foreign attribute or element. -/
inductive ForeignPayload where
  | attribute (a : Xml.Attribute)
  | element (e : Xml.Element)
  deriving Repr, Inhabited

/-- Foreign content with the name it was met under. -/
structure ForeignContent where
  name : QName
  payload : ForeignPayload
  deriving Repr, Inhabited

/-- Whom an entry of an annotation is meant for. -/
inductive Audience where
  | applications
  | readers
  deriving DecidableEq, Repr, Inhabited

/-- The name of the construct that addresses an audience. -/
def Audience.localName : Audience → String
  | applications => "appinfo"
  | readers => "documentation"

/-- An entry of an annotation; its markup is never interpreted. -/
structure Remark where
  audience : Audience
  source : Option String := none
  lang : Option String := none
  markup : List Xml.Node := []
  deriving Repr, Inhabited

/-- The annotation of a construct. -/
structure Annotation where
  xmlId : Option String := none
  remarks : List Remark := []
  foreign : List ForeignContent := []
  deriving Repr, Inhabited

/-- What every construct may carry. -/
structure Common where
  xmlId : Option String := none
  note : Option Annotation := none
  foreign : List ForeignContent := []
  deriving Repr, Inhabited

end XmlSchema
