import XmlSchema.Collection.Catalogue
import XmlSchema.Component.Error

/-!
# Collections of schemas

A collection holds schemas in the order of their registration, the built-in
types first; a schema is known by its number or its key.  Beside them it keeps
the schemas that stand in for namespaces, and the declarations that still wait
for a type of some name.
-/

namespace XmlSchema

/-- A declaration that waits for its type. -/
inductive Receiver where
  | element (id : ElementId)
  | attribute (id : AttributeId)
  deriving DecidableEq, Repr, Inhabited

/-- Schemas with what belongs to all of them. -/
structure Collection where
  schemas : Array Schema := #[Catalogue.schema]
  known : List (String × Nat) := []
  waiting : List (QName × List Receiver) := []
  deriving Repr, Inhabited

namespace Collection

/-- The collection of the built-in types alone. -/
def empty : Collection := {}

/-- The number of the schema with a key. -/
def number? (c : Collection) (key : SchemaKey) : Option Nat :=
  (c.schemas.toList.find? (·.key == key)).map Schema.number

/-- The schema with a key. -/
def schema? (c : Collection) (key : SchemaKey) : Option Schema :=
  c.schemas.toList.find? (·.key == key)

/-- The schemas other than the built-in one. -/
def registered (c : Collection) : List Schema := c.schemas.toList.filter (!·.builtin)

/-- Change one schema. -/
def modify (c : Collection) (number : Nat) (f : Schema → Schema) : Collection :=
  { c with schemas := c.schemas.modify number f }

/-- Register an empty schema under a key that is new. -/
def addSchema (c : Collection) (key : SchemaKey) (target : Option String) :
    Except SchemaError (Nat × Collection) :=
  if (c.schema? key).isSome then .error (.duplicateSchema key)
  else
    let number := c.schemas.size
    .ok (number,
      { c with schemas := c.schemas.push { number, key, targetNamespace := target } })

/-- Let a schema stand in for imports of a namespace. -/
def mapNamespace (c : Collection) (uri : String) (number : Nat) : Collection :=
  { c with known := (uri, number) :: c.known }

/-- The schema that stands in for a namespace. -/
def known? (c : Collection) (uri : String) : Option Nat := c.known.lookup uri

/-- A component of the collection. -/
def get? (c : Collection) {kind : ComponentKind} (id : ComponentId kind) :
    Option kind.Component :=
  c.schemas[id.schema]?.bind (·.get? id)

/-- The names that declarations wait for. -/
def waitingNames (c : Collection) : List QName :=
  (c.waiting.filter (!·.2.isEmpty)).map Prod.fst

/-- The declarations that wait for a name. -/
def receivers (c : Collection) (name : QName) : List Receiver :=
  (c.waiting.lookup name).getD []

end Collection

end XmlSchema
