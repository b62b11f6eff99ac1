import XmlSchema.Proofs.Document.Closing
import XmlSchema.Proofs.Namespace.Scope

/-!
# Sites in documents, and what names mean there

A site is an element of a document with its ancestors.  A prefix means what
the nearest of them declares; what none of them declares, the document may
borrow from the root of the document on behalf of which it is read.  A token is
a prefix with a local part.
-/

namespace XmlSchema

open Attempt

/-- An element of a document: its tag, the tags of its ancestors, innermost
first, and its children. -/
structure Site where
  tag : Xml.Tag
  outer : List Xml.Tag := []
  kids : List Xml.Node

/-- How the names of a document that name no namespace of their own are meant:
what prefixes may be borrowed, and the namespace that is taken on, if one is. -/
structure Setting where
  lent : Bindings := {}
  inherited : Option String := none

namespace Site

/-- The root of a document. -/
def root (document : Xml.Element) : Site := ⟨document.tag, [], document.children⟩

/-- A site below another one. -/
def below (π : Site) (tag : Xml.Tag) (kids : List Xml.Node) : Site :=
  ⟨tag, π.tag :: π.outer, kids⟩

/-- A site is that of a construct directly inside another one. -/
def Holds (π : Site) (construct : Construct) (inner : Site) : Prop :=
  ∃ tag kids, .element tag kids ∈ π.kids ∧ ChildClass.of tag.name = .known construct ∧
    inner = π.below tag kids

/-- A site is another one or somewhere inside it. -/
inductive Within : Site → Site → Prop
  | refl (π : Site) : Within π π
  | step {π middle inner : Site} {construct : Construct} (h : π.Holds construct middle)
      (hw : Within middle inner) : Within π inner

/-- The nearest declaration of a prefix. -/
def declared? (π : Site) (pfx : String) : Option String :=
  (π.tag :: π.outer).findSome? fun tag => tag.declared.lookup? pfx

/-- The namespace of a prefix. -/
def namespaceOf? (st : Setting) (π : Site) (pfx : String) : Option String :=
  if pfx = "xml" then some xmlNamespace
  else
    match π.declared? pfx with
    | some uri => some uri
    | none => if pfx = "" then some "" else st.lent.lookup? pfx

/-- The name that a token stands for.  When a namespace is taken on, it takes
the place of no namespace. -/
def denotes? (st : Setting) (π : Site) (token : String) : Option QName :=
  (namespaceOf? st π (splitPrefixed token).1).map fun uri =>
    match st.inherited with
    | some inherited =>
        if uri = "" then ⟨inherited, Text.trim (splitPrefixed token).2⟩
        else ⟨uri, (splitPrefixed token).2⟩
    | none => ⟨uri, (splitPrefixed token).2⟩

/-- The tokens of an attribute that refers by name. -/
def tokens (π : Site) : String → List String
  | "memberTypes" => Text.words ((π.tag.attribute? "memberTypes").getD "")
  | "refer" => [(π.tag.attribute? "refer").getD ""]
  | label => (π.tag.attribute? label).toList

/-- A scope answers for prefixes as a place does. -/
def Scoped (st : Setting) (π : Site) (scope : Scope) : Prop :=
  ∀ pfx, Context.namespaceOf? scope pfx = π.namespaceOf? st pfx

variable {st : Setting} {π : Site} {scope : Scope}

theorem Within.child {π middle inner : Site} {construct : Construct} (h : Within π middle)
    (hinner : middle.Holds construct inner) : Within π inner := by
  induction h with
  | refl π => exact .step hinner (.refl inner)
  | step hfirst _ ih => exact .step hfirst (ih hinner)

/-- The root of a document answers in the scope of what is lent to it. -/
theorem scoped_root (st : Setting) (document : Xml.Element) :
    Scoped st (root document) ((Scope.inherited st.lent).enter document.tag.declared) := by
  intro pfx
  rw [Context.namespaceOf?_enter, Context.namespaceOf?_inherited]
  unfold namespaceOf? declared? root
  by_cases hxml : pfx = "xml"
  · rw [if_pos hxml, if_pos hxml]
  · rw [if_neg hxml, if_neg hxml, if_neg hxml]
    cases hb : document.tag.declared.lookup? pfx <;> simp [hb]

/-- A child answers in the scope that its own declarations extend. -/
theorem Scoped.enter (h : Scoped st π scope) (tag : Xml.Tag) (kids : List Xml.Node) :
    Scoped st (π.below tag kids) (scope.enter tag.declared) := by
  intro pfx
  rw [Context.namespaceOf?_enter, h pfx]
  unfold namespaceOf? declared? below
  by_cases hxml : pfx = "xml"
  · rw [if_pos hxml, if_pos hxml]
  · rw [if_neg hxml, if_neg hxml, if_neg hxml]
    cases hb : tag.declared.lookup? pfx <;> simp [hb]

end Site

/-- The setting of the document of a context. -/
def Context.Sets (cx : Context) (st : Setting) : Prop :=
  st.inherited = if cx.inherits then some cx.key.namespaceName else none

/-- An error tells of a token of some attribute that has a prefix without a
meaning. -/
def Site.Stumbles (π : Site) (st : Setting) (key : SchemaKey) (labels : List String)
    (e : SchemaError) : Prop :=
  ∃ label ∈ labels, ∃ token ∈ π.tokens label,
    π.namespaceOf? st (splitPrefixed token).1 = none ∧
      e = .unboundPrefix (splitPrefixed token).1 token key

namespace Context

variable {cx : Context} {st : Setting} {π : Site} {scope : Scope}

/-- Resolving a token is finding the name that it stands for at its place. -/
theorem resolve_eq (hst : cx.Sets st) (hscope : π.Scoped st scope) (token : String) :
    cx.resolve scope token =
      match π.denotes? st token with
      | some name => .ok name
      | none => .error (.unboundPrefix (splitPrefixed token).1 token cx.key) := by
  unfold resolve Site.denotes?
  dsimp only
  rw [hscope]
  cases π.namespaceOf? st (splitPrefixed token).1 with
  | none => rfl
  | some uri =>
      dsimp only [Option.map_some]
      rw [show st.inherited = _ from hst]
      cases cx.inherits with
      | false => rw [Bool.and_false, if_neg Bool.false_ne_true, if_neg Bool.false_ne_true]
      | true =>
          by_cases hempty : uri = ""
          · subst hempty
            rfl
          · rw [if_neg (by simp [hempty]), if_pos rfl]
            dsimp only
            rw [if_neg hempty]

end Context

end XmlSchema
