import XmlSchema.Proofs.Component.Parts
import XmlSchema.Proofs.Document.Discipline

/-!
# Names of global components

What stands at the top level of a document defines a component under a trimmed
name in the logical namespace of the document, if under any.  Nothing that is
read inside the construct changes its name.
-/

namespace XmlSchema

open Attempt

/-- Whether a component is a global one. -/
def ComponentKind.isGlobal : (kind : ComponentKind) → kind.Component → Bool
  | .element, e => e.topLevel
  | .attribute, a => a.topLevel
  | _, _ => true

/-- Whether a component is a global one, and its name. -/
def ComponentKind.title (kind : ComponentKind) (x : kind.Component) : Bool × Option QName :=
  (kind.isGlobal x, kind.nameOf x)

/-- The title of a global component of the document. -/
structure Context.Titles (cx : Context) (title : Bool × Option QName) : Prop where
  isGlobal : title.1 = true
  name : ∀ n, title.2 = some n → ∃ localName, n = cx.qualify localName

/-- The title of the component that a draft becomes. -/
def Draft.title? (d : Draft) : Option (Bool × Option QName) :=
  d.owned?.map fun x => x.1.title x.2

/-- A construct plays a part at the top level. -/
def Role.Global (role : Role) : Prop := ∃ construct, Role.ofTopLevel? construct = some role

theorem ComponentKind.title_congr {kind : ComponentKind} {x y : kind.Component}
    (h : kind.unresolved y = kind.unresolved x) : kind.title y = kind.title x := by
  have hglobal : kind.isGlobal y = kind.isGlobal x := by
    cases kind with
    | element => exact (congrArg ElementDecl.topLevel h :)
    | «attribute» => exact (congrArg AttributeDecl.topLevel h :)
    | _ => rfl
  rw [title, title, hglobal, nameOf_congr h]

theorem Draft.title?_mapCommon (f : Common → Common) (d : Draft) :
    (d.mapCommon f).title? = d.title? := by
  cases d <;> rfl

theorem Draft.title?_adopt (d : Draft) (p : Part) : (d.adopt p).title? = d.title? := by
  fun_cases Draft.adopt d p
  case case1 a => cases d <;> rfl
  all_goals rfl

/-- A draft that amounts to a component becomes that component. -/
theorem Draft.owned?_of_toPart {schema : Nat} {cs : Components} {d : Draft} {ref : ComponentRef}
    (h : d.toPart schema cs = .component ref) :
    ∃ x, d.owned? = some x ∧ ref = ⟨x.1, schema, cs.count x.1⟩ := by
  cases d with
  | simpleType | complexType | group | attributeGroup | notationDecl =>
      cases h
      exact ⟨_, rfl, rfl⟩
  | element o e =>
      cases he : e.topLevel <;> simp [toPart, he] at h
      exact ⟨_, rfl, h.symm⟩
  | «attribute» a =>
      cases ha : a.topLevel <;> simp [toPart, ha] at h
      exact ⟨_, rfl, h.symm⟩
  | _ => cases h

namespace Reader

variable {cx : Context}

theorem name_map {text : Option String} {n : QName} (h : text.map cx.qualify = some n) :
    ∃ localName, n = cx.qualify localName := by
  obtain ⟨localName, -, rfl⟩ := Option.map_eq_some_iff.1 h
  exact ⟨localName, rfl⟩

theorem opening_titles {scope : Scope} {tag : Xml.Tag} {kids : List Xml.Node} {role : Role}
    {d : Draft} (hrole : role.Global) (h : role.opening cx scope tag kids = .ok (.draft d)) :
    ∀ title, d.title? = some title → cx.Titles title := by
  obtain ⟨construct, hrole⟩ := hrole
  intro title htitle
  cases construct <;> cases hrole
  case note =>
    cases h
    cases htitle
  case element =>
    obtain ⟨e, he, h⟩ := bind_eq_ok_iff.1 h
    cases h
    cases htitle
    obtain ⟨group, -, he⟩ := bind_eq_ok_iff.1 he
    obtain ⟨naming, hnaming, he⟩ := bind_eq_ok_iff.1 he
    obtain ⟨slot, -, he⟩ := bind_eq_ok_iff.1 he
    cases he
    cases hnaming
    exact ⟨rfl, fun _ => name_map⟩
  case «attribute» =>
    obtain ⟨a, ha, h⟩ := bind_eq_ok_iff.1 h
    cases h
    cases htitle
    obtain ⟨naming, hnaming, ha⟩ := bind_eq_ok_iff.1 ha
    obtain ⟨slot, -, ha⟩ := bind_eq_ok_iff.1 ha
    cases ha
    cases hnaming
    exact ⟨rfl, fun _ => name_map⟩
  all_goals
    cases h
    cases htitle
    exact ⟨rfl, fun _ => name_map⟩

/-- Global components have names of their document. -/
def titling (cx : Context) : Discipline cx where
  tag _ := True
  component _ _ _ := True
  opened role d := ∀ r, role = some r → r.Global → ∀ t, d.title? = some t → cx.Titles t
  draft _ role d := ∀ r, role = some r → r.Global → ∀ t, d.title? = some t → cx.Titles t
  part cs role p := role.Global → ∀ ref, p = .component ref →
    ref.id.schema = cx.schema ∧ ∃ x, cs.get? ref.id = some x ∧ cx.Titles (ref.kind.title x)
  draft_of_opened h := h
  draft_extends _ h := h
  part_extends := by
    intro cs later role p hcs h hrole ref href
    obtain ⟨hschema, x, hx, htitles⟩ := h hrole ref href
    obtain ⟨y, hy, hyx⟩ := hcs ref.kind ref.id.index x hx
    exact ⟨hschema, y, hy, ComponentKind.title_congr hyx ▸ htitles⟩
  opening_draft := by
    rintro scope t kids role d - ho r hr hglobal
    cases hr
    exact opening_titles hglobal ho
  opening_part := by
    rintro cs scope t kids role p - ho hglobal ref rfl
    obtain ⟨construct, hrole⟩ := hglobal
    cases construct <;> cases hrole
    case element | «attribute» =>
      obtain ⟨x, -, ho⟩ := bind_eq_ok_iff.1 ho
      cases ho
    all_goals cases ho
  foreign_attribute := by
    intro t role d content _ _ h _ r hr hglobal
    rw [Draft.addForeign, Draft.title?_mapCommon]
    exact h r hr hglobal
  foreign_element := by
    intro cs t kids role d _ h _ r hr hglobal
    rw [Draft.addForeign, Draft.title?_mapCommon]
    exact h r hr hglobal
  adopt := by
    intro cs role d construct inner p h _ _ r hr hglobal
    rw [Draft.title?_adopt]
    exact h r hr hglobal
  close_component _ _ := trivial
  close_part := by
    intro cs role d h hglobal ref href
    obtain ⟨x, howned, rfl⟩ := Draft.owned?_of_toPart href
    refine ⟨rfl, x.2, ?_, h role rfl hglobal _ (by rw [Draft.title?, howned]; rfl)⟩
    rw [Draft.closed, howned]
    exact Components.getElem?_push_count cs x.1 x.2

end Reader

end XmlSchema
