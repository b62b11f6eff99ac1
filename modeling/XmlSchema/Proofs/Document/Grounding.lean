import XmlSchema.Proofs.Component.Parts
import XmlSchema.Proofs.Document.Discipline

/-!
# Grounded components

What a document defines is grounded: the parts of a component belong to the
same schema, and the types among them come before it.  Declarations are
supplied with slots whose types are still to be found, types with names of the
namespace of the schema, and no type claims to be built in.
-/

namespace XmlSchema

open Attempt

/-- The types that a component is defined with come before a bound. -/
def Components.Before (cs : Components) (bound : Nat) : ComponentRef → Prop
  | ⟨.type, id⟩ => id.index < bound
  | ⟨.element, id⟩ => ∀ e, cs.get? id = some e → ∀ t ∈ e.type.inline, t.index < bound
  | ⟨.attribute, id⟩ => ∀ a, cs.get? id = some a → ∀ t ∈ a.type.inline, t.index < bound
  | _ => True

/-- A type has no name outside the namespace of its schema. -/
def Context.Homes (cx : Context) : (kind : ComponentKind) → kind.Component → Prop
  | .type, t => ∀ name, t.name = some name → name.namespaceName = cx.key.namespaceName
  | _, _ => True

/-- Whether a component is a type of the built-in catalogue. -/
def ComponentKind.isBuiltin : (kind : ComponentKind) → kind.Component → Bool
  | .type, t => t.isBuiltin
  | _, _ => false

/-- A component that is there to be a part of another one. -/
structure Context.Grounds (cx : Context) (cs : Components) (bound : Nat) (ref : ComponentRef) :
    Prop where
  schema_eq : ref.id.schema = cx.schema
  exists_homed : ∃ x, cs.get? ref.id = some x ∧ cx.Homes ref.kind x
  before : cs.Before bound ref

/-- A component as a document supplies it. -/
structure Context.Supplies (cx : Context) (cs : Components) (kind : ComponentKind)
    (x : kind.Component) : Prop where
  parts : ∀ ref ∈ kind.parts x, cx.Grounds cs (cs.count .type) ref
  unresolved : kind.unresolved x = x
  homes : cx.Homes kind x
  authored : kind.isBuiltin x = false

theorem Context.homes_congr {cx : Context} {kind : ComponentKind} {x y : kind.Component}
    (h : kind.unresolved y = kind.unresolved x) (hx : cx.Homes kind x) : cx.Homes kind y := by
  cases kind with
  | type =>
      cases (show y = x from h)
      exact hx
  | _ => trivial

theorem ComponentKind.parts_congr {kind : ComponentKind} {x y : kind.Component}
    (h : kind.unresolved y = kind.unresolved x) : kind.parts y = kind.parts x := by
  cases kind with
  | element =>
      have hslot : (show ElementDecl from y).type.unresolved =
          (show ElementDecl from x).type.unresolved := congrArg ElementDecl.type h
      have hinline := congrArg TypeSlot.inline hslot
      rw [TypeSlot.inline_unresolved, TypeSlot.inline_unresolved] at hinline
      exact congrArg typeRefs hinline
  | «attribute» =>
      have hslot : (show AttributeDecl from y).type.unresolved =
          (show AttributeDecl from x).type.unresolved := congrArg AttributeDecl.type h
      have hinline := congrArg TypeSlot.inline hslot
      rw [TypeSlot.inline_unresolved, TypeSlot.inline_unresolved] at hinline
      exact congrArg typeRefs hinline
  | _ => exact congrArg _ h

theorem ComponentKind.isBuiltin_congr {kind : ComponentKind} {x y : kind.Component}
    (h : kind.unresolved y = kind.unresolved x) : kind.isBuiltin y = kind.isBuiltin x := by
  cases kind with
  | type => exact congrArg TypeDefinition.isBuiltin h
  | _ => rfl

theorem Components.Extends.before {cs later : Components} {bound : Nat} {ref : ComponentRef}
    (h : cs.Extends later) (hex : ∃ x, cs.get? ref.id = some x) (hb : cs.Before bound ref) :
    later.Before bound ref := by
  obtain ⟨kind, id⟩ := ref
  obtain ⟨x, hx⟩ := hex
  obtain ⟨y, hy, hyx⟩ := h kind id.index x hx
  cases kind with
  | element =>
      intro (e : ElementDecl) he t ht
      have hey := Option.some.inj (he.symm.trans hy)
      subst hey
      refine hb x hx t ?_
      have hslot : e.type.unresolved = (show ElementDecl from x).type.unresolved := congrArg ElementDecl.type hyx
      rwa [← TypeSlot.inline_unresolved, ← hslot, TypeSlot.inline_unresolved]
  | «attribute» =>
      intro (a : AttributeDecl) ha t ht
      have hey := Option.some.inj (ha.symm.trans hy)
      subst hey
      refine hb x hx t ?_
      have hslot : a.type.unresolved = (show AttributeDecl from x).type.unresolved := congrArg AttributeDecl.type hyx
      rwa [← TypeSlot.inline_unresolved, ← hslot, TypeSlot.inline_unresolved]
  | type => exact hb
  | _ => trivial

theorem Components.Before.mono {cs : Components} {bound more : Nat} {ref : ComponentRef}
    (h : bound ≤ more) (hb : cs.Before bound ref) : cs.Before more ref := by
  obtain ⟨kind, id⟩ := ref
  cases kind with
  | type => exact Nat.lt_of_lt_of_le hb h
  | element => exact fun e he t ht => Nat.lt_of_lt_of_le (hb e he t ht) h
  | «attribute» => exact fun a ha t ht => Nat.lt_of_lt_of_le (hb a ha t ht) h
  | _ => trivial

namespace Context.Grounds

variable {cx : Context} {cs later : Components} {bound more : Nat} {ref : ComponentRef}

theorem mono (h : cx.Grounds cs bound ref) (hle : bound ≤ more) : cx.Grounds cs more ref :=
  ⟨h.schema_eq, h.exists_homed, h.before.mono hle⟩

theorem extend (h : cx.Grounds cs bound ref) (hcs : cs.Extends later) :
    cx.Grounds later bound ref := by
  obtain ⟨x, hx, hhome⟩ := h.exists_homed
  obtain ⟨y, hy, hyx⟩ := hcs ref.kind ref.id.index x hx
  exact ⟨h.schema_eq, ⟨y, hy, homes_congr hyx hhome⟩, hcs.before ⟨x, hx⟩ h.before⟩

/-- What is grounded when there are some types stays so when there are more. -/
theorem grow (h : cx.Grounds cs (cs.count .type) ref) (hcs : cs.Extends later) :
    cx.Grounds later (later.count .type) ref :=
  (h.extend hcs).mono (hcs.count_le .type)

end Context.Grounds

/-- What a draft guarantees of the component that it becomes. -/
def Draft.Supplied (cx : Context) : Draft → Prop
  | .simpleType t => cx.Homes .type t ∧ t.isBuiltin = false
  | .complexType t c _ _ => cx.Homes .type t ∧ c.builtin = false
  | .element _ e => e.type.unresolved = e.type
  | .attribute a => a.type.unresolved = a.type
  | _ => True

/-- What a part guarantees of the draft that takes it up. -/
def Part.Supplied : Part → Prop
  | .variety t => ∀ base, t ≠ .builtin base
  | _ => True

theorem Draft.Supplied.mapCommon {cx : Context} {d : Draft} (f : Common → Common)
    (h : d.Supplied cx) : (d.mapCommon f).Supplied cx := by
  cases d <;> exact h

theorem Draft.Supplied.adopt {cx : Context} {d : Draft} {p : Part} (h : d.Supplied cx)
    (hp : p.Supplied) : (d.adopt p).Supplied cx := by
  fun_cases Draft.adopt d p
  case case1 a => cases d <;> exact h
  case case4 t v =>
      refine ⟨h.1, ?_⟩
      unfold TypeDefinition.isBuiltin
      split
      · exact absurd (TypeBody.simple.inj ‹_›) (hp _)
      · rfl
      · cases ‹TypeBody.simple v = _›
  case case17 | case19 => exact rfl
  all_goals exact h

namespace Reader

variable {cx : Context} {scope : Scope} {tag : Xml.Tag} {kids : List Xml.Node} {role : Role}

theorem declaredType_unresolved {slot : TypeSlot}
    (h : Role.declaredType cx scope tag = .ok slot) :
    slot.unresolved = slot ∧ slot.inline = [] := by
  unfold Role.declaredType at h
  split at h
  · cases h
    exact ⟨rfl, rfl⟩
  · obtain ⟨name, -, h⟩ := bind_eq_ok_iff.1 h
    cases h
    exact ⟨rfl, rfl⟩

theorem openElement_type {topLevel : Bool} {e : ElementDecl}
    (h : Role.openElement cx scope tag topLevel = .ok e) :
    Role.declaredType cx scope tag = .ok e.type := by
  obtain ⟨group, -, h⟩ := bind_eq_ok_iff.1 h
  obtain ⟨naming, -, h⟩ := bind_eq_ok_iff.1 h
  obtain ⟨slot, hslot, h⟩ := bind_eq_ok_iff.1 h
  cases h
  exact hslot

theorem openAttribute_type {topLevel : Bool} {a : AttributeDecl}
    (h : Role.openAttribute cx scope tag topLevel = .ok a) :
    Role.declaredType cx scope tag = .ok a.type := by
  obtain ⟨naming, -, h⟩ := bind_eq_ok_iff.1 h
  obtain ⟨slot, hslot, h⟩ := bind_eq_ok_iff.1 h
  cases h
  exact hslot

theorem qualified_homed {named : Bool} {text : Option String} {name : QName}
    (h : (if named then text.map cx.qualify else none) = some name) :
    name.namespaceName = cx.key.namespaceName := by
  cases named with
  | false => cases h
  | true =>
      obtain ⟨local_, -, rfl⟩ := Option.map_eq_some_iff.1 h
      rfl

/-- A construct begins without parts. -/
theorem opening_supplied {d : Draft} (h : role.opening cx scope tag kids = .ok (.draft d)) :
    d.parts = [] ∧ d.Supplied cx := by
  match role, h with
  | .note, h | .simpleContent, h | .complexContent, h | .compositor _, h | .any, h
  | .anyAttribute, h | .group, h | .attributeGroup, h | .notationDecl, h | .selector, h
  | .field, h | .facet _, h =>
      cases h
      exact ⟨rfl, trivial⟩
  | .remark audience, h => cases audience <;> cases h
  | .simpleType named, h | .complexType named, h =>
      cases h
      exact ⟨rfl, fun _ hname => qualified_homed hname, rfl⟩
  | .restriction, h | .list, h | .union, h | .derivation _, h | .constraint _, h =>
      obtain ⟨name, -, h⟩ := bind_eq_ok_iff.1 h
      cases h
      exact ⟨rfl, trivial⟩
  | .groupRef, h | .attributeGroupRef, h =>
      simp only [Role.opening] at h
      split at h
      · cases h
      · obtain ⟨name, -, h⟩ := bind_eq_ok_iff.1 h
        cases h
        exact ⟨rfl, trivial⟩
  | .element topLevel, h =>
      obtain ⟨e, he, h⟩ := bind_eq_ok_iff.1 h
      cases h
      obtain ⟨hslot, hinline⟩ := declaredType_unresolved (openElement_type he)
      exact ⟨congrArg typeRefs hinline, hslot⟩
  | .attribute topLevel, h =>
      obtain ⟨a, ha, h⟩ := bind_eq_ok_iff.1 h
      cases h
      obtain ⟨hslot, hinline⟩ := declaredType_unresolved (openAttribute_type ha)
      exact ⟨congrArg typeRefs hinline, hslot⟩

/-- What is read at once brings no components along. -/
theorem opening_part_supplied {p : Part} (h : role.opening cx scope tag kids = .ok (.part p)) :
    p.parts = [] ∧ p.Supplied := by
  match role, h with
  | .remark audience, h =>
      cases audience <;>
        · cases h
          exact ⟨rfl, trivial⟩
  | .restriction, h | .list, h | .union, h | .derivation _, h | .constraint _, h
  | .element _, h | .attribute _, h =>
      obtain ⟨name, -, h⟩ := bind_eq_ok_iff.1 h
      cases h
  | .groupRef, h | .attributeGroupRef, h =>
      simp only [Role.opening] at h
      split at h
      · cases h
        exact ⟨rfl, trivial⟩
      · obtain ⟨name, -, h⟩ := bind_eq_ok_iff.1 h
        cases h

theorem grounding_close_component {cs : Components} {d : Draft}
    {x : (kind : ComponentKind) × kind.Component}
    (hparts : ∀ ref ∈ d.parts, cx.Grounds cs (cs.count .type) ref) (hd : d.Supplied cx)
    (hx : d.owned? = some x) : cx.Supplies cs x.1 x.2 := by
  cases d with
  | simpleType t =>
      cases hx
      exact ⟨hparts, rfl, hd.1, hd.2⟩
  | complexType t c direct model =>
      cases hx
      refine ⟨fun ref href => hparts ref ?_, rfl, hd.1, hd.2⟩
      cases model with
      | none => exact List.mem_append_left _ href
      | some m => exact List.mem_append_right _ href
  | element o e =>
      cases hx
      exact ⟨hparts, congrArg (fun slot => { e with type := slot }) hd, trivial, rfl⟩
  | «attribute» a =>
      cases hx
      exact ⟨hparts, congrArg (fun slot => { a with type := slot }) hd, trivial, rfl⟩
  | group | attributeGroup | notationDecl =>
      cases hx
      exact ⟨hparts, rfl, trivial, rfl⟩
  | _ => cases hx

/-- A component that has just been owned is grounded. -/
theorem grounds_owned {cs : Components} {kind : ComponentKind} {x : kind.Component}
    (h : cx.Supplies cs kind x) :
    cx.Grounds (cs.push kind x) ((cs.push kind x).count .type)
      ⟨kind, cx.schema, cs.count kind⟩ := by
  have hget : (cs.push kind x).get? (⟨cx.schema, cs.count kind⟩ : ComponentId kind) = some x :=
    Components.getElem?_push_count cs kind x
  refine ⟨rfl, ⟨x, hget, h.homes⟩, ?_⟩
  have hle : cs.count .type ≤ (cs.push kind x).count .type :=
    (Components.Extends.push cs kind x).count_le .type
  cases kind with
  | type =>
      have := Components.count_push cs .type x
      simp only [Components.Before]
      omega
  | element =>
      intro e he t ht
      cases Option.some.inj (hget.symm.trans he)
      exact Nat.lt_of_lt_of_le
        (h.parts ⟨.type, t⟩ (List.mem_map_of_mem ht)).before hle
  | «attribute» =>
      intro a ha t ht
      cases Option.some.inj (hget.symm.trans ha)
      exact Nat.lt_of_lt_of_le
        (h.parts ⟨.type, t⟩ (List.mem_map_of_mem ht)).before hle
  | _ => trivial

/-- The part that a draft amounts to is either the component that it becomes
or made of what it has taken up. -/
theorem toPart_parts {schema : Nat} {cs : Components} (d : Draft) :
    (d.toPart schema cs).parts =
      match d.owned? with
      | some x => [⟨x.1, schema, cs.count x.1⟩]
      | none => d.parts := by
  cases d with
  | element o e => cases h : e.topLevel <;> simp [Draft.toPart, Draft.owned?, h, Part.parts,
      Particle.parts, Particle.elements]
  | «attribute» a => cases h : a.topLevel <;> simp [Draft.toPart, Draft.owned?, h, Part.parts,
      attributeParts, AttributeItem.id?]
  | _ => rfl

theorem toPart_supplied {schema : Nat} {cs : Components} (d : Draft) :
    (d.toPart schema cs).Supplied := by
  cases d with
  | restriction | list | union => exact fun _ h => nomatch h
  | element o e => cases h : e.topLevel <;> simp [Draft.toPart, h, Part.Supplied]
  | «attribute» a => cases h : a.topLevel <;> simp [Draft.toPart, h, Part.Supplied]
  | _ => trivial

/-- Every component that a document supplies is grounded. -/
def grounding (cx : Context) : Discipline cx where
  tag _ := True
  component cs kind x := cx.Supplies cs kind x
  opened _ d := d.parts = [] ∧ d.Supplied cx
  draft cs _ d := (∀ ref ∈ d.parts, cx.Grounds cs (cs.count .type) ref) ∧ d.Supplied cx
  part cs _ p := (∀ ref ∈ p.parts, cx.Grounds cs (cs.count .type) ref) ∧ p.Supplied
  draft_of_opened := by
    rintro cs role d ⟨hparts, hd⟩
    rw [hparts]
    exact ⟨fun _ h => (List.not_mem_nil h).elim, hd⟩
  draft_extends hcs h := ⟨fun ref href => (h.1 ref href).grow hcs, h.2⟩
  part_extends hcs h := ⟨fun ref href => (h.1 ref href).grow hcs, h.2⟩
  opening_draft _ ho := opening_supplied ho
  opening_part := by
    intro cs scope t kids role p _ ho
    obtain ⟨hparts, hp⟩ := opening_part_supplied ho
    rw [hparts]
    exact ⟨fun _ h => (List.not_mem_nil h).elim, hp⟩
  foreign_attribute := by
    rintro t role d content _ _ ⟨hparts, hd⟩ _
    exact ⟨(d.parts_addForeign content).trans hparts, hd.mapCommon _⟩
  foreign_element := by
    rintro cs t kids role d _ ⟨hparts, hd⟩ _
    rw [Draft.parts_addForeign]
    exact ⟨hparts, hd.mapCommon _⟩
  adopt := by
    rintro cs role d construct inner p ⟨hparts, hd⟩ _ ⟨hp, hsupplied⟩
    refine ⟨fun ref href => ?_, hd.adopt hsupplied⟩
    rcases List.mem_append.1 (d.parts_adopt_subset p href) with href | href
    · exact hparts ref href
    · exact hp ref href
  close_component h hx := grounding_close_component h.1 h.2 hx
  close_part := by
    rintro cs role d ⟨hparts, hd⟩
    refine ⟨?_, toPart_supplied d⟩
    rw [toPart_parts, Draft.closed]
    cases hx : d.owned? with
    | none => exact hparts
    | some x =>
        intro ref href
        rw [List.mem_singleton.1 href]
        exact grounds_owned (grounding_close_component hparts hd hx)

end Reader

end XmlSchema
