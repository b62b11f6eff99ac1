import XmlSchema.Document.Reader
import XmlSchema.Proofs.Attempt
import XmlSchema.Proofs.Component.Extension

/-!
# Closing constructs

Closing a draft never fails.  A definition or declaration becomes the next
component of its kind, and its part names that component; every other draft is
its own part.  What comes of a child is taken up by the draft that it stands in.
-/

namespace XmlSchema

open Attempt

namespace Workbench

variable {schema : Nat}

theorem components_allocate (w : Workbench) (kind : ComponentKind) (x : kind.Component) :
    (w.allocate schema kind x).2.components = w.components.push kind x := by
  unfold allocate
  dsimp only
  split <;> rfl

theorem allocate_fst (w : Workbench) (kind : ComponentKind) (x : kind.Component) :
    (w.allocate schema kind x).1 = ⟨schema, w.components.count kind⟩ := by
  unfold allocate
  dsimp only
  split <;> rfl

end Workbench

namespace Draft

/-- The component that a draft becomes, if it becomes one. -/
def owned? : Draft → Option ((kind : ComponentKind) × kind.Component)
  | .simpleType t => some ⟨.type, t⟩
  | .complexType t c direct model =>
      some ⟨.type, { t with body := .complex { c with content := model.getD (.direct direct) } }⟩
  | .element _ e => some ⟨.element, e⟩
  | .attribute a => some ⟨.attribute, a⟩
  | .group g => some ⟨.group, g⟩
  | .attributeGroup g => some ⟨.attributeGroup, g⟩
  | .notationDecl n => some ⟨.notationDecl, n⟩
  | _ => none

/-- The part that a draft amounts to when a schema has some components. -/
def toPart (schema : Nat) (cs : Components) : Draft → Part
  | .external e => .external e
  | .note a => .note a
  | .simpleType _ => .component ⟨.type, schema, cs.count .type⟩
  | .complexType _ _ _ _ => .component ⟨.type, schema, cs.count .type⟩
  | .restriction r => .variety (.restriction r)
  | .list l => .variety (.list l)
  | .union u => .variety (.union u)
  | .simpleContent c => .model (.simple c)
  | .complexContent c => .model (.complex c)
  | .derivation d => .derivation d
  | .compositor o c common particles => .particle (some (.model o c common particles))
  | .groupRef o r => .particle (some (.group o r))
  | .any o w => .particle (some (.any o w))
  | .anyAttribute w => .anyAttribute w
  | .element o e =>
      if e.topLevel then .component ⟨.element, schema, cs.count .element⟩
      else .particle (some (.element o ⟨schema, cs.count .element⟩))
  | .attribute a =>
      if a.topLevel then .component ⟨.attribute, schema, cs.count .attribute⟩
      else .attributeItem (.attribute ⟨schema, cs.count .attribute⟩)
  | .attributeGroupRef r => .attributeItem (.group r)
  | .group _ => .component ⟨.group, schema, cs.count .group⟩
  | .attributeGroup _ => .component ⟨.attributeGroup, schema, cs.count .attributeGroup⟩
  | .notationDecl _ => .component ⟨.notationDecl, schema, cs.count .notationDecl⟩
  | .constraint c => .constraint c
  | .selector p => .selector p
  | .field p => .field p
  | .facet f => .facet f

/-- The components once a draft has been closed. -/
def closed (d : Draft) (cs : Components) : Components :=
  match d.owned? with
  | none => cs
  | some x => cs.push x.1 x.2

end Draft

namespace Reader

/-- The workbench once a draft has been closed. -/
def afterClose (schema : Nat) (d : Draft) (w : Workbench) : Workbench :=
  match d.owned? with
  | none => w
  | some x => (w.allocate schema x.1 x.2).2

theorem components_afterClose (schema : Nat) (d : Draft) (w : Workbench) :
    (afterClose schema d w).components = d.closed w.components := by
  unfold afterClose Draft.closed
  split
  · rfl
  · exact Workbench.components_allocate w _ _

theorem exec_own (cx : Context) (kind : ComponentKind) (x : kind.Component) (w : Workbench) :
    exec (own cx kind x) w =
      (.ok ⟨cx.schema, w.components.count kind⟩, (w.allocate cx.schema kind x).2) := by
  rw [own, exec_modifyGet, Workbench.allocate_fst]

theorem exec_close (cx : Context) (d : Draft) (w : Workbench) :
    exec (close cx d) w =
      (.ok (d.toPart cx.schema w.components), afterClose cx.schema d w) := by
  cases d with
  | simpleType | complexType | group | attributeGroup | notationDecl =>
      unfold close
      rw [exec_bind, exec_own]
      rfl
  | element o e =>
      unfold close
      rw [exec_bind, exec_own]
      cases he : e.topLevel <;> simp [Draft.toPart, he, exec_pure, afterClose, Draft.owned?]
  | «attribute» a =>
      unfold close
      rw [exec_bind, exec_own]
      cases ha : a.topLevel <;> simp [Draft.toPart, ha, exec_pure, afterClose, Draft.owned?]
  | _ => rfl

/-- A child that has a part is read as a construct and taken up. -/
theorem child_known {cx : Context} {scope : Scope} {d : Draft} {tag : Xml.Tag}
    {kids : List Xml.Node} {known : Construct} {role : Role}
    (hclass : ChildClass.of tag.name = .known known) (hrole : d.role? known = some role) :
    child cx scope d (.element tag kids) =
      construct cx scope role ⟨tag, kids⟩ >>= fun p => pure (d.adopt p) := by
  unfold child construct
  rw [hclass]
  dsimp only
  rw [hrole, bind_assoc]
  refine bind_congr fun o => ?_
  cases o with
  | part p => exact (pure_bind p fun p => pure (d.adopt p)).symm
  | draft nested => exact (bind_assoc _ _ _).symm

end Reader

end XmlSchema
