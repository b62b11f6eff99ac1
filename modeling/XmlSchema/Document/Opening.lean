import XmlSchema.Document.Context
import XmlSchema.Document.Draft

/-!
# The attributes of constructs

What a construct says before its children are read: its attributes, with the
names among them resolved in its scope.  A construct that has no children of
interest is read at once.
-/

namespace XmlSchema

/-- The beginning of a construct: a draft that its children complete, or the
part it amounts to. -/
inductive Opening where
  | draft (d : Draft)
  | part (p : Part)
  deriving Repr

/-- The derivation methods listed by an attribute. -/
def derivationSet (tag : Xml.Tag) (name : String) : DerivationSet :=
  ((tag.attribute? name).map DerivationSet.parse).getD .empty

/-- The truth value of an attribute. -/
def boolAttribute? (tag : Xml.Tag) (name : String) : Option Bool :=
  (tag.attribute? name).bind parseBool?

namespace Role

/-- The name and the reference of a declaration: a local declaration may refer
to a global one, and its name depends on its form. -/
def declaredName (cx : Context) (scope : Scope) (tag : Xml.Tag) (topLevel : Bool)
    (form : Form) : Except SchemaError (Option QName × Option QName) :=
  if topLevel then .ok ((tag.attribute? "name").map cx.qualify, none)
  else
    match tag.attribute? "ref" with
    | some token => do
        let target ← cx.resolve scope token
        return (none, some target)
    | none => .ok ((tag.attribute? "name").map fun n => cx.localName n form, none)

/-- The type that a declaration names. -/
def declaredType (cx : Context) (scope : Scope) (tag : Xml.Tag) :
    Except SchemaError TypeSlot := do
  match tag.attribute? "type" with
  | none => return .absent
  | some token => return .named (← cx.resolve scope token) none

/-- Begin an element declaration. -/
def openElement (cx : Context) (scope : Scope) (tag : Xml.Tag) (topLevel : Bool) :
    Except SchemaError ElementDecl := do
  let form := (tag.attribute? "form").bind Form.parse?
  let substitutionGroup ← cx.resolve? scope (tag.attribute? "substitutionGroup")
  let (name, ref) ← declaredName cx scope tag topLevel (form.getD cx.elementForm)
  let type ← declaredType cx scope tag
  return {
    name, ref, type, substitutionGroup, form, topLevel
    default := tag.attribute? "default"
    fixed := tag.attribute? "fixed"
    nillable := (boolAttribute? tag "nillable").getD false
    isAbstract := (boolAttribute? tag "abstract").getD false
    block := derivationSet tag "block"
    finalSet := derivationSet tag "final"
    common := { xmlId := tag.attribute? "id" } }

/-- Begin an attribute declaration. -/
def openAttribute (cx : Context) (scope : Scope) (tag : Xml.Tag) (topLevel : Bool) :
    Except SchemaError AttributeDecl := do
  let form := (tag.attribute? "form").bind Form.parse?
  let (name, ref) ← declaredName cx scope tag topLevel (form.getD cx.attributeForm)
  let type ← declaredType cx scope tag
  return {
    name, ref, type, form, topLevel
    use := (tag.attribute? "use").bind AttributeUse.parse?
    default := tag.attribute? "default"
    fixed := tag.attribute? "fixed"
    common := { xmlId := tag.attribute? "id" } }

/-- What an identity constraint demands. -/
def constraintKind (cx : Context) (scope : Scope) (tag : Xml.Tag) :
    Construct → Except SchemaError ConstraintKind
  | .keyref => do
      let refer ← cx.resolve scope ((tag.attribute? "refer").getD "")
      return .keyref refer
  | .unique => .ok .unique
  | _ => .ok .key

/-- Begin a construct in the part it plays. -/
def opening (cx : Context) (scope : Scope) (tag : Xml.Tag) (children : List Xml.Node)
    (role : Role) : Except SchemaError Opening :=
  let common : Common := { xmlId := tag.attribute? "id" }
  let occurs := Occurs.parse (tag.attribute? "minOccurs") (tag.attribute? "maxOccurs")
  let name (named : Bool) := if named then (tag.attribute? "name").map cx.qualify else none
  let wildcard : Wildcard :=
    { namespaces := tag.attribute? "namespace"
      process := (tag.attribute? "processContents").bind ProcessContents.parse?
      common }
  let path : PathExpression :=
    { path := (tag.attribute? "xpath").getD "", xmlId := tag.attribute? "id" }
  match role with
  | .note => .ok (.draft (.note { xmlId := tag.attribute? "id" }))
  | .remark .applications =>
      .ok (.part (.remark
        { audience := .applications, source := tag.attribute? "source", markup := children }))
  | .remark .readers =>
      .ok (.part (.remark
        { audience := .readers
          source := tag.attribute? "source"
          lang := tag.attributeNs? xmlNamespace "lang"
          markup := children }))
  | .simpleType named =>
      .ok (.draft (.simpleType
        { name := name named
          finalSet := derivationSet tag "final"
          common
          body := .simple .unspecified }))
  | .complexType named =>
      .ok (.draft (.complexType
        { name := name named
          finalSet := derivationSet tag "final"
          common
          body := .complex {} }
        { isAbstract := (boolAttribute? tag "abstract").getD false
          mixed := boolAttribute? tag "mixed"
          block := derivationSet tag "block" }
        {} none))
  | .restriction => do
      let base ← cx.resolve? scope (tag.attribute? "base")
      return .draft (.restriction { base, common })
  | .list => do
      let itemTypeName ← cx.resolve? scope (tag.attribute? "itemType")
      return .draft (.list { itemTypeName, common })
  | .union => do
      let memberNames ←
        cx.resolveAll scope (Text.words ((tag.attribute? "memberTypes").getD ""))
      return .draft (.union { memberNames, common })
  | .simpleContent => .ok (.draft (.simpleContent { common }))
  | .complexContent =>
      .ok (.draft (.complexContent { mixed := boolAttribute? tag "mixed", common }))
  | .derivation step => do
      let base ← cx.resolve? scope (tag.attribute? "base")
      return .draft (.derivation { step, base, common })
  | .compositor c => .ok (.draft (.compositor occurs c common []))
  | .groupRef =>
      match tag.attribute? "ref" with
      | none => .ok (.part (.particle none))
      | some token => do
          let target ← cx.resolve scope token
          return .draft (.groupRef occurs { target, common })
  | .any => .ok (.draft (.any occurs wildcard))
  | .anyAttribute => .ok (.draft (.anyAttribute wildcard))
  | .element topLevel => do
      let e ← openElement cx scope tag topLevel
      return .draft (.element occurs e)
  | .attribute topLevel => do
      let a ← openAttribute cx scope tag topLevel
      return .draft (.attribute a)
  | .attributeGroupRef =>
      match tag.attribute? "ref" with
      | none => .ok (.part .nothing)
      | some token => do
          let target ← cx.resolve scope token
          return .draft (.attributeGroupRef { target, common })
  | .group => .ok (.draft (.group { name := name true, common }))
  | .attributeGroup => .ok (.draft (.attributeGroup { name := name true, common }))
  | .notationDecl =>
      .ok (.draft (.notationDecl
        { name := name true
          publicId := tag.attribute? "public"
          systemId := tag.attribute? "system"
          common }))
  | .constraint construct => do
      let kind ← constraintKind cx scope tag construct
      return .draft (.constraint
        { kind, name := cx.qualify ((tag.attribute? "name").getD ""), common })
  | .selector => .ok (.draft (.selector path))
  | .field => .ok (.draft (.field path))
  | .facet kind =>
      .ok (.draft (.facet
        { kind
          value := (tag.attribute? "value").getD ""
          fixed := (boolAttribute? tag "fixed").getD false
          xmlId := tag.attribute? "id" }))

end Role

end XmlSchema
