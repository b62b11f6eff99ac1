import XmlSchema.Component.Schema

/-!
# The built-in types

Every collection begins with the schema of the built-in types: the complex
type `anyType` and the simple types derived from it.
-/

namespace XmlSchema

namespace Catalogue

/-- The place of the built-in types. -/
def locator : String := "builtin:XMLSchema"

/-- The built-in simple types, each with its base. -/
def simpleTypes : List (String × String) :=
  [("anySimpleType", "anyType"),
   ("string", "anySimpleType"),
   ("boolean", "anySimpleType"),
   ("decimal", "anySimpleType"),
   ("float", "anySimpleType"),
   ("double", "anySimpleType"),
   ("duration", "anySimpleType"),
   ("dateTime", "anySimpleType"),
   ("time", "anySimpleType"),
   ("date", "anySimpleType"),
   ("gYearMonth", "anySimpleType"),
   ("gYear", "anySimpleType"),
   ("gMonthDay", "anySimpleType"),
   ("gDay", "anySimpleType"),
   ("gMonth", "anySimpleType"),
   ("hexBinary", "anySimpleType"),
   ("base64Binary", "anySimpleType"),
   ("anyURI", "anySimpleType"),
   ("QName", "anySimpleType"),
   ("NOTATION", "anySimpleType"),
   ("normalizedString", "string"),
   ("token", "normalizedString"),
   ("language", "token"),
   ("NMTOKEN", "token"),
   ("NMTOKENS", "anySimpleType"),
   ("Name", "token"),
   ("NCName", "Name"),
   ("ID", "NCName"),
   ("IDREF", "NCName"),
   ("IDREFS", "anySimpleType"),
   ("ENTITY", "NCName"),
   ("ENTITIES", "anySimpleType"),
   ("integer", "decimal"),
   ("nonPositiveInteger", "integer"),
   ("negativeInteger", "nonPositiveInteger"),
   ("long", "integer"),
   ("int", "long"),
   ("short", "int"),
   ("byte", "short"),
   ("nonNegativeInteger", "integer"),
   ("unsignedLong", "nonNegativeInteger"),
   ("unsignedInt", "unsignedLong"),
   ("unsignedShort", "unsignedInt"),
   ("unsignedByte", "unsignedShort"),
   ("positiveInteger", "nonNegativeInteger")]

/-- The type that every other type derives from. -/
def anyType : TypeDefinition :=
  { name := some ⟨schemaNamespace, "anyType"⟩
    body := .complex { mixed := some true, builtin := true } }

/-- A built-in simple type. -/
def simpleType (entry : String × String) : TypeDefinition :=
  { name := some ⟨schemaNamespace, entry.1⟩
    body := .simple (.builtin (some ⟨schemaNamespace, entry.2⟩)) }

/-- All built-in types, in order. -/
def types : List TypeDefinition := anyType :: simpleTypes.map simpleType

/-- The names of the built-in types, in order. -/
def typeNames : List String := "anyType" :: simpleTypes.map Prod.fst

/-- The schema of the built-in types. -/
def schema : Schema :=
  { number := 0
    key := ⟨schemaNamespace, locator⟩
    targetNamespace := some schemaNamespace
    progress := .complete
    builtin := true
    components := { types := types.toArray }
    names := typeNames.zipIdx.map fun p => ⟨.type, ⟨schemaNamespace, p.1⟩, p.2⟩ }

end Catalogue

end XmlSchema
