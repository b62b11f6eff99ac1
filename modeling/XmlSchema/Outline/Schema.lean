import XmlSchema.Outline.Component

/-!
# Outlines of schemas

The outline of a schema shows its settings, its items in order with all that
they own, and the names that it registers.
-/

namespace XmlSchema.Outline

open Data

/-- The key of a component among the items of a schema. -/
def itemKey : ComponentKind → String
  | .attributeGroup => "attributeGroup"
  | kind => kind.text

/-- A component as an item. -/
def ofRef (c : Collection) (r : ComponentRef) : Value :=
  .table [(itemKey r.kind, ofComponent c r)]

/-- The outline of a reference to another document. -/
def ofExternal (c : Collection) (e : ExternalRef) : Value :=
  .record ([("kind", text e.kind.localName), ("schemaLocation", text? e.location),
    ("namespace", text? e.namespaceName), ("target", e.target.map .nat),
    ("effective_target", (c.externalTarget? e).map .nat),
    ("redefined", some? (e.redefined.map (ofRef c)))] ++ ofCommon e.common)

/-- The outline of an item. -/
def ofItem (c : Collection) : SchemaItem → Value
  | .note a => .table [("annotation", ofAnnotation a)]
  | .external e => .table [("external", ofExternal c e)]
  | .component r => ofRef c r

/-- The names registered for one kind. -/
def names? (s : Schema) (kind : ComponentKind) : Option Value :=
  some? ((s.namesOf kind).map fun r =>
    .texts [r.name.text, (⟨s.number, r.index⟩ : ComponentId kind).text])

/-- The names that a schema registers, kind by kind. -/
def ofNames (s : Schema) : Value :=
  .record [("types", names? s .type), ("elements", names? s .element),
    ("attributes", names? s .attribute), ("groups", names? s .group),
    ("attribute_groups", names? s .attributeGroup), ("notations", names? s .notationDecl)]

/-- The components of a list, each with the text of its kind. -/
def ofKindedNames (names : List (ComponentKind × QName)) : Value :=
  .list (names.map fun n => .texts [n.1.text, n.2.text])

/-- The text of a state of progress. -/
def progressText : Progress → String
  | .new => "new"
  | .topLevelPass => "top-level-pass"
  | .complete => "complete"

/-- The key of a schema. -/
def ofKey (key : SchemaKey) : Value := .texts [key.namespaceName, key.locator]

/-- The entries that both the summary and the full outline of a schema have. -/
def summaryEntries (s : Schema) (items : Value) : Entries :=
  [("schema", some (.nat s.number)), ("key", some (ofKey s.key)),
    ("target_namespace", text? s.targetNamespace), ("parent", s.parent.map ofKey),
    ("state", text (progressText s.progress)), ("items", some items),
    ("components", some (.nat s.names.length)), ("externals", some (.nat s.externals.length)),
    ("source", text? (s.source.map Source.locator))]

/-- A schema in a few words. -/
def summary (s : Schema) : Value := .record (summaryEntries s (.nat s.items.length))

/-- The outline of a schema. -/
def ofSchema (c : Collection) (s : Schema) : Value :=
  .record (summaryEntries s (.list (s.items.map (ofItem c))) ++
    [("namespaces", some? (s.bindings.toList.map pair)),
      ("elementFormDefault", text? (s.elementFormDefault.map Form.text)),
      ("attributeFormDefault", text? (s.attributeFormDefault.map Form.text)),
      ("forms", some (.texts [s.elementForm.text, s.attributeForm.text])),
      ("blockDefault", text? (s.blockDefault.map DerivationSet.text)),
      ("finalDefault", text? (s.finalDefault.map DerivationSet.text)),
      ("version", text? s.version), ("xml_id", text? s.xmlId), ("builtin", flag? s.builtin),
      ("ext", foreign? s.foreign), ("names", some (ofNames s))])

end XmlSchema.Outline
