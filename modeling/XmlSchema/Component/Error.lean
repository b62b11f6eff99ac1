import XmlSchema.Component.Identity
import XmlSchema.Xml.Character

/-!
# Errors

What can go wrong when documents are located, read, composed and written, and
the text of each error.
-/

namespace XmlSchema

/-- Why a model has no written form. -/
inductive Inconsistency where
  | builtinType
  | restrictionBases
  | listItems
  | particleInSimpleContent
  | typeInSimpleExtension
  | typeInComplexContent
  | derivationBases
  | cyclicType
  | dangling (kind : ComponentKind)
  deriving DecidableEq, Repr

/-- The text of an inconsistency. -/
def Inconsistency.text : Inconsistency → String
  | builtinType => "built-in types have no schema document form"
  | restrictionBases => "restriction has both a base name and an inline base type"
  | listItems => "list has both an itemType and an inline item type"
  | particleInSimpleContent => "simple content cannot carry a particle"
  | typeInSimpleExtension => "simple content extension cannot carry facets or an inline type"
  | typeInComplexContent => "complex content cannot carry facets or an inline type"
  | derivationBases => "derivation has both a base name and an inline base type"
  | cyclicType => "type contains itself"
  | dangling kind => kind.text ++ " id does not belong to this collection"

/-- Where an inconsistency was found. -/
inductive Place where
  | schema (key : SchemaKey)
  | type (name : Option QName) (key : SchemaKey)
  deriving DecidableEq, Repr

/-- The text of a place. -/
def Place.text : Place → String
  | schema key => key.text
  | type (some name) key => name.text ++ " in " ++ key.text
  | type none key => "anonymous type in " ++ key.text

/-- Why a location leads to no document. -/
inductive LocationFault where
  | unsupportedScheme (scheme : String)
  | notLocalFile
  | malformedUrl
  | refused
  | nestedTooDeep
  deriving DecidableEq, Repr

/-- The text of a fault of a location. -/
def LocationFault.text : LocationFault → String
  | unsupportedScheme scheme => "unsupported URI scheme '" ++ scheme ++ "'"
  | notLocalFile => "not a local file URL"
  | malformedUrl => "malformed URL"
  | refused => "refused"
  | nestedTooDeep => "documents nested too deeply"

/-- Why a file could not be read or written. -/
inductive FileFault where
  | notFound
  | isDirectory
  | notDirectory
  | alreadyExists
  | nameTooLong
  | tooManyLinks
  | permissionDenied
  | nulInName
  deriving DecidableEq, Repr

/-- The text of a fault of a file. -/
def FileFault.text : FileFault → String
  | notFound => "No such file or directory (os error 2)"
  | isDirectory => "Is a directory (os error 21)"
  | notDirectory => "Not a directory (os error 20)"
  | alreadyExists => "File exists (os error 17)"
  | nameTooLong => "File name too long (os error 36)"
  | tooManyLinks => "Too many levels of symbolic links (os error 40)"
  | permissionDenied => "Permission denied (os error 13)"
  | nulInName => "file name contained an unexpected NUL byte"

/-- An error of the library. -/
inductive SchemaError where
  | duplicateSchema (key : SchemaKey)
  | duplicateComponent (kind : ComponentKind) (name : QName) (key : SchemaKey)
  | unnamedComponent (kind : ComponentKind) (key : SchemaKey)
  | inconsistent (place : Place) (cause : Inconsistency)
  | notASchema (locator root : String)
  | unboundPrefix (pfx token : String) (key : SchemaKey)
  | malformedDocument (locator : String) (fault : Xml.Fault)
  | resolution (location : String) (fault : LocationFault)
  | io (fault : FileFault)
  | configuration (text : String)
  deriving DecidableEq, Repr

namespace SchemaError

/-- The text of an error. -/
def message : SchemaError → String
  | duplicateSchema key => "Schema already registered: " ++ key.text
  | duplicateComponent kind name key =>
      "Duplicate " ++ kind.text ++ " '" ++ name.text ++ "' in schema " ++ key.text
  | unnamedComponent kind key =>
      "Top-level " ++ kind.text ++ " without a name in schema " ++ key.text
  | inconsistent place cause =>
      "Inconsistent content model in " ++ place.text ++ ": " ++ cause.text
  | notASchema locator root =>
      "Not an XML Schema document: " ++ locator ++ " - root element is " ++ root
  | unboundPrefix pfx token key =>
      "Unbound namespace prefix '" ++ pfx ++ "' in '" ++ token ++ "' in schema " ++ key.text
  | malformedDocument locator fault =>
      "XML parsing error: " ++ locator ++ " - " ++ fault.message
  | resolution location fault =>
      "Schema resolution failed: " ++ location ++ " - " ++ fault.text
  | io fault => "IO error: " ++ fault.text
  | configuration text => "Configuration error: " ++ text

/-- Whether an error tells of a conflict within the model rather than of a bad
reference. -/
def isStructural : SchemaError → Bool
  | duplicateSchema _ => true
  | duplicateComponent _ _ _ => true
  | unnamedComponent _ _ => true
  | inconsistent _ _ => true
  | notASchema _ _ => true
  | _ => false

end SchemaError

/-- A step that may fail and keeps its state either way. -/
abbrev Attempt (σ : Type) := ExceptT SchemaError (StateM σ)

end XmlSchema
