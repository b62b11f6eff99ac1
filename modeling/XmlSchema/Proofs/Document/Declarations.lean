import XmlSchema.Proofs.Document.Headings
import XmlSchema.Proofs.Document.References

/-!
# What components are written as

A component is written as an item of its schema or inside of another one.
Either way its tag has the attributes of the component, and none besides that
could be taken for one of them.
-/

namespace XmlSchema

open Attempt

namespace Xml.Tag

/-- Setting an attribute leaves those of other names alone. -/
theorem attribute?_setAttribute (t : Tag) {localName other : String} (value : String)
    (h : other ≠ localName) : (t.setAttribute localName value).attribute? other =
      t.attribute? other := by
  have hfind : ∀ given : List Attribute,
      ((putAttribute localName value given).find? fun a =>
        a.name.namespaceName == "" && a.name.localName == other).map Attribute.value =
      (given.find? fun a =>
        a.name.namespaceName == "" && a.name.localName == other).map Attribute.value := by
    intro given
    induction given with
    | nil => simp [putAttribute, Ne.symm h]
    | cons a rest ih =>
        unfold putAttribute
        split
        · rename_i hname
          obtain ⟨-, hname⟩ := Bool.and_eq_true_iff.1 hname
          rw [beq_iff_eq] at hname
          simp [hname, Ne.symm h]
        · rw [List.find?_cons, List.find?_cons]
          split
          · rfl
          · exact ih
  exact hfind t.attributes

end Xml.Tag

namespace Writer

variable {α : Type} {Q : α → Prop} {cx : WriterContext} {inline : TypeId → Writer Xml.Element}

theorem attribute?_withOccurs (o : Occurs) (e : Xml.Element) {name : String}
    (hmin : name ≠ "minOccurs") (hmax : name ≠ "maxOccurs") :
    (withOccurs o e).tag.attribute? name = e.tag.attribute? name := by
  have hset : ∀ (value : Option String) (localName : String) (e : Xml.Element),
      name ≠ localName → ((value.map (e.setAttribute localName)).getD e).tag.attribute? name =
        e.tag.attribute? name := by
    intro value localName e hname
    cases value with
    | none => rfl
    | some value => exact e.tag.attribute?_setAttribute value hname
  exact (hset _ _ _ hmax).trans (hset _ _ _ hmin)

theorem valueOf?_nil (localName : String) : valueOf? [] localName = none := rfl

theorem valueOf?_cons (p : String × Option String) (rest : List (String × Option String))
    (localName : String) : valueOf? (p :: rest) localName =
      (if p.1 = localName then p.2 else none).or (valueOf? rest localName) := by
  unfold valueOf?
  rw [List.findSome?_cons]
  cases (if p.1 = localName then p.2 else none) <;> rfl

theorem valueOf?_append (pairs more : List (String × Option String)) (localName : String) :
    valueOf? (pairs ++ more) localName = (valueOf? pairs localName).or (valueOf? more localName) :=
  List.findSome?_append

theorem valueOf?_eq_none {pairs : List (String × Option String)} {localName : String}
    (h : ∀ p ∈ pairs, p.1 ≠ localName) : valueOf? pairs localName = none :=
  List.findSome?_eq_none_iff.2 fun p hp => if_neg (h p hp)

theorem Gives.demanded {kind : ComponentKind} {id : ComponentId kind} {x : kind.Component}
    (hx : cx.collection.get? id = some x) {f : kind.Component → Writer α} (h : Gives (f x) Q) :
    Gives (demand cx id >>= f) Q := by
  unfold demand
  rw [hx]
  exact h

/-- A tag has the sets of a component among its attributes. -/
def Shows (kind : ComponentKind) (x : kind.Component) (t : Xml.Tag) : Prop :=
  ∀ control set, kind.control? x control = some set →
    t.attribute? control.label = derivations set

/-- The name or the reference of a declaration says nothing else. -/
theorem gives_declaredAs (kind : ComponentKind) (topLevel : Bool) (ref name : Option QName) :
    Gives (declaredAs cx kind topLevel ref name) fun naming =>
      ∀ p ∈ naming, p.1 = "ref" ∨ p.1 = "name" := by
  unfold declaredAs
  split
  · exact .after fun t => gives_pure fun p hp => .inl (by rw [List.mem_singleton.1 hp])
  · exact gives_pure fun p hp => .inr (by rw [List.mem_singleton.1 hp])
  · exact fun _ => trivial
  · exact gives_pure nofun

theorem gives_element {id : ElementId} {e : ElementDecl} (he : cx.collection.get? id = some e)
    (hforeign : ∀ content ∈ e.common.foreign, content.Outside) (topLevel : Bool) :
    Gives (element cx inline topLevel id) fun written => Shows .element e written.tag := by
  unfold element
  refine .demanded he ((gives_declaredAs .element topLevel e.ref e.name).bind
    fun naming hnaming => .after fun type => .after fun group => ?_)
  refine (gives_attributes _ _ hforeign _).mono fun written ⟨_, hattribute⟩ => ?_
  have hother : ∀ control : Control, valueOf? naming control.label = none := fun control =>
    valueOf?_eq_none fun p hp heq => by
      rcases hnaming p hp with hname | hname <;> cases control <;> simp [hname, Control.label] at heq
  intro control set hset
  rw [hattribute, List.append_assoc, valueOf?_append, hother, Option.none_or]
  cases control <;>
    · cases hset
      simp [valueOf?_cons, valueOf?_nil, Control.label]

theorem gives_type {id : TypeId} {t : TypeDefinition} (ht : cx.collection.get? id = some t)
    (hforeign : ∀ content ∈ t.common.foreign, content.Outside) (named : Bool) :
    Gives (typeDefinition cx inline named id) fun written => Shows .type t written.tag := by
  have hconstruct : ∀ (name : Option String) (children : Writer (List Xml.Node)),
      Gives (construct cx (if t.isSimple then "simpleType" else "complexType")
        (("name", name) :: complexAttributes t.body ++ [("final", derivations t.finalSet)])
        t.common children) fun written => Shows .type t written.tag := by
    intro name children
    refine (gives_attributes _ _ hforeign _).mono fun written ⟨_, hattribute⟩ => ?_
    intro control set hset
    rw [hattribute]
    -- a simple type has no attribute but its name and its final set
    cases hbody : t.body with
    | simple simple =>
        cases control with
        | block => simp [ComponentKind.control?, hbody] at hset
        | final =>
            cases hset
            simp [valueOf?_cons, valueOf?_nil, complexAttributes, Control.label]
    | complex c =>
        cases control <;> simp [ComponentKind.control?, hbody] at hset <;>
          simp [valueOf?_cons, valueOf?_nil, complexAttributes, Control.label, hset]
  unfold typeDefinition
  refine .demanded ht (.guarded ?_)
  cases named with
  | true => exact .after fun name => hconstruct _ _
  | false => exact hconstruct _ _

/-- The ways in which a component is written: as an item of its schema or of a
redefinition, as a particle, or as a type that is defined in place. -/
inductive Renders (cx : WriterContext) (inline : TypeId → Writer Xml.Element) :
    (kind : ComponentKind) → ComponentId kind → Writer Xml.Element → Prop
  | item {kind : ComponentKind} (id : ComponentId kind) :
      Renders cx inline kind id (component cx inline ⟨kind, id⟩)
  | particle (o : Occurs) (id : ElementId) :
      Renders cx inline .element id (do
        let e ← element cx inline false id
        return withOccurs o e)
  | inPlace (id : TypeId) : Renders cx inline .type id (typeDefinition cx inline false id)

/-- However a component is written, its tag has the sets of the component. -/
theorem gives_rendered {kind : ComponentKind} {id : ComponentId kind} {m : Writer Xml.Element}
    (hm : Renders cx inline kind id m) {x : kind.Component} (hx : cx.collection.get? id = some x)
    (hforeign : ∀ content ∈ (kind.common x).foreign, content.Outside) :
    Gives m fun e => Shows kind x e.tag := by
  cases hm with
  | item id =>
      cases kind with
      | type => exact gives_type hx hforeign true
      | element => exact gives_element hx hforeign true
      | _ => exact (gives_any _).mono fun e _ control set hset => by cases control <;> cases hset
  | particle o id =>
      refine (gives_element hx hforeign false).bind fun e he => gives_pure fun control set hset => ?_
      rw [attribute?_withOccurs o e (by cases control <;> decide) (by cases control <;> decide)]
      exact he control set hset
  | inPlace id => exact gives_type hx hforeign false

theorem gives_rootAttributes (hforeign : ∀ content ∈ cx.schema.foreign, content.Outside) :
    Gives (root cx) fun e =>
      ∀ name, e.tag.attribute? name = valueOf? (rootAttributes cx.schema) name := by
  refine (gives_tag "schema" _).bind fun t ⟨_, hattributes⟩ =>
    (gives_foreign hforeign).bind fun content ⟨hmore, _⟩ => .after fun items => gives_pure ?_
  exact attribute?_attributesOf (congrArg (· ++ content.1) hattributes) hmore

end Writer

/-- The set that a schema stores as the common one. -/
def Control.stored : Control → Schema → Option DerivationSet
  | block, s => s.blockDefault
  | final, s => s.finalDefault

theorem Control.valueOf?_rootAttributes (control : Control) (s : Schema) :
    Writer.valueOf? (Writer.rootAttributes s) control.default =
      (control.stored s).map DerivationSet.text := by
  cases control <;>
    simp [Writer.rootAttributes, Writer.valueOf?_cons, Writer.valueOf?_nil, default, stored]

/-- The root of a document has the common sets of its schema. -/
theorem Writer.attribute?_document {cx : WriterContext} {d : Xml.Element}
    (h : (document cx).1 = .ok d) (hforeign : ∀ content ∈ cx.schema.foreign, content.Outside)
    (control : Control) :
    d.tag.attribute? control.default = (control.stored cx.schema).map DerivationSet.text := by
  obtain ⟨written, declared, hattributes, rfl⟩ :=
    exists_of_document (gives_rootAttributes hforeign) h
  rw [← control.valueOf?_rootAttributes]
  exact hattributes control.default

end XmlSchema
