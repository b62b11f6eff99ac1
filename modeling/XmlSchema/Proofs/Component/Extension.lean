import XmlSchema.Collection.Registration

/-!
# Growing tables of components

While documents are read, a schema only gains components, and a component only
changes by having the type found that its slot names.  Both together make one
table of components an extension of another.
-/

namespace XmlSchema

/-- A slot as it was before its type was found. -/
def TypeSlot.unresolved : TypeSlot → TypeSlot
  | named name _ => named name none
  | other => other

/-- A component as it was before its type was found. -/
def ComponentKind.unresolved : (kind : ComponentKind) → kind.Component → kind.Component
  | .element, e => { e with type := e.type.unresolved }
  | .attribute, a => { a with type := a.type.unresolved }
  | .type, t => t
  | .group, g => g
  | .attributeGroup, g => g
  | .notationDecl, n => n

@[simp] theorem TypeSlot.unresolved_fill (slot : TypeSlot) (id : TypeId) :
    (slot.fill id).unresolved = slot.unresolved := by
  cases slot <;> rfl

theorem ComponentKind.nameOf_congr {kind : ComponentKind} {x y : kind.Component}
    (h : kind.unresolved y = kind.unresolved x) : kind.nameOf y = kind.nameOf x := by
  cases kind with
  | element => exact (congrArg ElementDecl.name h :)
  | «attribute» => exact (congrArg AttributeDecl.name h :)
  | _ => exact congrArg _ h

namespace Components

/-- The component of a kind with an index. -/
def get? (cs : Components) {kind : ComponentKind} (id : ComponentId kind) :
    Option kind.Component :=
  (cs.ofKind kind)[id.index]?

/-- Every component is still there, with its type found perhaps. -/
def Extends (cs later : Components) : Prop :=
  ∀ (kind : ComponentKind) (i : Nat) (x : kind.Component), (cs.ofKind kind)[i]? = some x →
    ∃ y, (later.ofKind kind)[i]? = some y ∧ kind.unresolved y = kind.unresolved x

namespace Extends

theorem refl (cs : Components) : cs.Extends cs := fun _ _ x h => ⟨x, h, rfl⟩

theorem trans {a b c : Components} (hab : a.Extends b) (hbc : b.Extends c) : a.Extends c := by
  intro kind i x hx
  obtain ⟨y, hy, hyx⟩ := hab kind i x hx
  obtain ⟨z, hz, hzy⟩ := hbc kind i y hy
  exact ⟨z, hz, hzy.trans hyx⟩

theorem push (cs : Components) (kind : ComponentKind) (x : kind.Component) :
    cs.Extends (cs.push kind x) := by
  intro other i y hy
  refine ⟨y, ?_, rfl⟩
  by_cases h : other = kind
  · subst h
    rw [ofKind_push, Array.getElem?_push]
    have hi : i < (cs.ofKind other).size := (Array.getElem?_eq_some_iff.1 hy).1
    rw [if_neg (by omega), hy]
  · rw [ofKind_push_of_ne cs x h, hy]

theorem count_le {cs later : Components} (h : cs.Extends later) (kind : ComponentKind) :
    cs.count kind ≤ later.count kind := by
  refine Nat.le_of_not_lt fun hlt => ?_
  obtain ⟨y, hy, -⟩ := h kind (later.count kind) _ (Array.getElem?_eq_getElem hlt)
  exact absurd (Array.getElem?_eq_some_iff.1 hy).1 (Nat.lt_irrefl _)

/-- Where nothing has been added, every component was there before. -/
theorem exists_earlier {cs later : Components} (h : cs.Extends later) {kind : ComponentKind}
    (hcount : later.count kind = cs.count kind) {i : Nat} {y : kind.Component}
    (hy : (later.ofKind kind)[i]? = some y) :
    ∃ x, (cs.ofKind kind)[i]? = some x ∧ kind.unresolved y = kind.unresolved x := by
  have hi : i < cs.count kind := hcount ▸ (Array.getElem?_eq_some_iff.1 hy).1
  obtain ⟨y', hy', hyx⟩ := h kind i _ (Array.getElem?_eq_getElem hi)
  cases Option.some.inj (hy.symm.trans hy')
  exact ⟨_, Array.getElem?_eq_getElem hi, hyx⟩

end Extends

/-- A component has a name. -/
def Names (cs : Components) (name : QName) {kind : ComponentKind} (id : ComponentId kind) : Prop :=
  ∃ x, cs.get? id = some x ∧ kind.nameOf x = some name

theorem Names.extend {cs later : Components} {name : QName} {kind : ComponentKind}
    {id : ComponentId kind} (h : cs.Names name id) (hcs : cs.Extends later) :
    later.Names name id := by
  obtain ⟨x, hx, hname⟩ := h
  obtain ⟨y, hy, hyx⟩ := hcs kind id.index x hx
  exact ⟨y, hy, (ComponentKind.nameOf_congr hyx).trans hname⟩

theorem count_push (cs : Components) (kind : ComponentKind) (x : kind.Component) :
    (cs.push kind x).count kind = cs.count kind + 1 := by
  simp [count, ofKind_push]

theorem count_push_of_ne (cs : Components) {kind other : ComponentKind} (x : kind.Component)
    (h : other ≠ kind) : (cs.push kind x).count other = cs.count other := by
  simp [count, ofKind_push_of_ne cs x h]

theorem getElem?_push_count (cs : Components) (kind : ComponentKind) (x : kind.Component) :
    ((cs.push kind x).ofKind kind)[cs.count kind]? = some x := by
  rw [ofKind_push, count, Array.getElem?_push_size]

end Components

end XmlSchema
