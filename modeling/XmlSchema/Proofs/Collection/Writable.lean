import Mathlib.Algebra.Order.BigOperators.Group.List
import Mathlib.Algebra.Order.Group.Nat
import XmlSchema.Proofs.Collection.Growth
import XmlSchema.Proofs.Document.Writing

/-!
# Which schemas can be written

A schema can be written when everything that its items are made of is coherent
and its redefinitions have names.  Types that are defined in place come before
the types that they are defined in, so that the bound for their nesting is
never met.
-/

namespace XmlSchema

open Attempt

/-- The parts of a component are there, types come before those that they are
defined in, and none of them is built in. -/
structure Components.Carries (cs : Components) (n : Nat) {kind : ComponentKind} (i : Nat)
    (x : kind.Component) : Prop where
  schema_eq : ∀ part ∈ kind.parts x, part.id.schema = n
  exists_part : ∀ part ∈ kind.parts x, ∃ y, cs.get? part.id = some y
  before : kind = .type → ∀ part ∈ kind.parts x, cs.Before i part
  notBuiltin : kind.isBuiltin x = false

theorem Components.Carries.extend {cs later : Components} {n : Nat} {kind : ComponentKind}
    {i : Nat} {x y : kind.Component} (h : cs.Carries n i x) (hcs : cs.Extends later)
    (hyx : kind.unresolved y = kind.unresolved x) : later.Carries n i y := by
  have hparts := ComponentKind.parts_congr hyx
  refine ⟨?_, ?_, ?_, (ComponentKind.isBuiltin_congr hyx).trans h.notBuiltin⟩
  · rw [hparts]
    exact h.schema_eq
  · rw [hparts]
    intro part hpart
    obtain ⟨z, hz⟩ := h.exists_part part hpart
    obtain ⟨z', hz', -⟩ := hcs part.kind part.id.index z hz
    exact ⟨z', hz'⟩
  · rw [hparts]
    exact fun hkind part hpart => hcs.before (h.exists_part part hpart) (h.before hkind part hpart)

namespace Collection

/-- A component is defined in place in another one. -/
def IsPart (c : Collection) (ref part : ComponentRef) : Prop :=
  ∃ x, c.get? ref.id = some x ∧ part ∈ ref.kind.parts x

/-- Everything that a component is made of is coherent. -/
def Sound (c : Collection) (ref : ComponentRef) : Prop :=
  ∀ part x, Relation.ReflTransGen c.IsPart ref part → c.get? part.id = some x →
    part.kind.Coherent x

/-- A component that is there has a name. -/
def Named (c : Collection) (ref : ComponentRef) : Prop :=
  ∃ x, c.get? ref.id = some x ∧ (ref.kind.nameOf x).isSome

/-- The items of a schema are sound, and its redefinitions have names. -/
structure Writable (c : Collection) (s : Schema) : Prop where
  components : ∀ ref, .component ref ∈ s.items → c.Sound ref
  redefined : ∀ e, .external e ∈ s.items → ∀ ref ∈ e.redefined, c.Named ref ∧ c.Sound ref

/-- Nothing is missing in a schema: its components can carry their parts, and
its items are among its components. -/
structure Authored (c : Collection) (n : Nat) : Prop where
  carries : ∀ {kind : ComponentKind} (id : ComponentId kind) x,
    (c.components n).get? id = some x → (c.components n).Carries n id.index x
  components : ∀ s, c.schemas[n]? = some s → ∀ ref, .component ref ∈ s.items →
    ref.id.schema = n ∧ ∃ name, (c.components n).Names name ref.id
  redefined : ∀ s, c.schemas[n]? = some s → ∀ e, .external e ∈ s.items →
    ∀ ref ∈ e.redefined, ref.id.schema = n ∧ ∃ x, (c.components n).get? ref.id = some x

variable {c : Collection} {n : Nat}

/-- A component is sound when it is coherent and all its parts are sound. -/
theorem sound_iff {ref : ComponentRef} {x : ref.kind.Component} (hx : c.get? ref.id = some x) :
    c.Sound ref ↔ ref.kind.Coherent x ∧ ∀ part ∈ ref.kind.parts x, c.Sound part := by
  constructor
  · intro h
    refine ⟨h ref x .refl hx, fun part hpart other y hreach hy => ?_⟩
    exact h other y (.head ⟨x, hx, hpart⟩ hreach) hy
  · rintro ⟨hcoherent, hparts⟩ other y hreach hy
    rcases Relation.ReflTransGen.cases_head hreach with rfl | ⟨part, ⟨x', hx', hpart⟩, hreach⟩
    · cases Option.some.inj (hx.symm.trans hy)
      exact hcoherent
    · cases Option.some.inj (hx.symm.trans hx')
      exact hparts part hpart other y hreach hy

theorem types_size_le (c : Collection) (n : Nat) : (c.components n).count .type ≤ c.typeCount := by
  unfold components typeCount
  cases hs : c.schemas[n]? with
  | none => exact Nat.zero_le _
  | some s =>
      have hmem : s ∈ c.schemas.toList := Array.mem_toList_iff.2 (Array.mem_of_getElem? hs)
      exact List.le_sum_of_mem (List.mem_map_of_mem hmem)

namespace Authored

theorem get?_part (h : c.Authored n) (hc : c.Numbered) {kind : ComponentKind}
    {id : ComponentId kind} {x : kind.Component} (hx : (c.components n).get? id = some x)
    {part : ComponentRef} (hpart : part ∈ kind.parts x) :
    ∃ y, c.get? part.id = some y ∧ (c.components n).get? part.id = some y := by
  obtain ⟨y, hy⟩ := (h.carries id x hx).exists_part part hpart
  refine ⟨y, ?_, hy⟩
  rw [get?_eq hc, (h.carries id x hx).schema_eq part hpart, hy]

/-- Every component comes before the end of the table of types. -/
theorem before_count (h : c.Authored n) {ref : ComponentRef} {x : ref.kind.Component}
    (hx : (c.components n).get? ref.id = some x) :
    (c.components n).Before ((c.components n).count .type) ref := by
  obtain ⟨kind, id⟩ := ref
  have hlt : ∀ t : TypeId, (∃ y, (c.components n).get? t = some y) →
      t.index < (c.components n).count .type := by
    rintro t ⟨y, hy⟩
    exact (Array.getElem?_eq_some_iff.1 hy).1
  cases kind with
  | type => exact hlt id ⟨x, hx⟩
  | element =>
      intro e he t ht
      exact hlt t ((h.carries id e he).exists_part ⟨.type, t⟩ (List.mem_map_of_mem ht))
  | «attribute» =>
      intro a ha t ht
      exact hlt t ((h.carries id a ha).exists_part ⟨.type, t⟩ (List.mem_map_of_mem ht))
  | _ => trivial

end Authored

end Collection

namespace Writer

variable {cx : WriterContext} {n : Nat}

/-- A part can be written when the types before a bound can. -/
theorem writesPart_of_before (h : cx.collection.Authored n) (hc : cx.collection.Numbered)
    {depth : Nat} {inline : TypeId → Writer Xml.Element}
    (hinline : ∀ (id : TypeId) t, id.schema = n → cx.collection.get? id = some t →
      id.index < depth → Decides (inline id) (cx.collection.Sound ⟨.type, id⟩) Refusal)
    {part : ComponentRef} (hschema : part.id.schema = n) {y : part.kind.Component}
    (hy : cx.collection.get? part.id = some y)
    (hbefore : (cx.collection.components n).Before depth part) :
    WritesPart cx inline cx.collection.Sound part := by
  obtain ⟨kind, id⟩ := part
  have hy' : (cx.collection.components n).get? id = some y := by
    rw [← hy, Collection.get?_eq hc, hschema]
  -- the type of a declaration that is defined in place comes before the bound
  have htypes : ∀ types : List TypeId, (∀ t ∈ types, t.index < depth) →
      (∀ ref ∈ typeRefs types, ref ∈ kind.parts y) →
      ∀ ref ∈ typeRefs types, WritesPart cx inline cx.collection.Sound ref := by
    intro types hlt hparts ref href
    obtain ⟨t, ht, rfl⟩ := List.mem_map.1 href
    obtain ⟨x, hx, -⟩ := h.get?_part hc hy' (hparts _ href)
    exact hinline t x ((h.carries id y hy').schema_eq _ (hparts _ href)) hx (hlt t ht)
  cases kind with
  | type => exact hinline id y hschema hy hbefore
  | element =>
      refine (decides_element hy (htypes _ (hbefore y hy') fun _ href => href)).congr ?_
      rw [Collection.sound_iff hy]
      exact ⟨fun hP => ⟨trivial, hP.2⟩, fun hP => ⟨nofun, hP.2⟩⟩
  | «attribute» =>
      refine (decides_attributeDecl hy (htypes _ (hbefore y hy') fun _ href => href)).congr ?_
      rw [Collection.sound_iff hy]
      exact ⟨fun hP => ⟨trivial, hP.2⟩, fun hP => ⟨nofun, hP.2⟩⟩
  | _ => trivial

/-- The bound for the nesting of types is never met. -/
theorem decides_inlineTypeDefinition (h : cx.collection.Authored n)
    (hc : cx.collection.Numbered) (depth : Nat) :
    ∀ (id : TypeId) t, id.schema = n → cx.collection.get? id = some t → id.index < depth →
      Decides (inlineTypeDefinition cx depth id) (cx.collection.Sound ⟨.type, id⟩) Refusal := by
  induction depth with
  | zero => exact fun id t _ _ hlt => absurd hlt (Nat.not_lt_zero _)
  | succ depth ih =>
      intro id t hschema ht hlt
      have ht' : (cx.collection.components n).get? id = some t := by
        rw [← ht, Collection.get?_eq hc, hschema]
      have hparts : ∀ part ∈ t.body.parts,
          WritesPart cx (inlineTypeDefinition cx depth) cx.collection.Sound part := by
        intro part hpart
        have hcarries := h.carries id t ht'
        obtain ⟨y, hy, -⟩ := h.get?_part hc ht' hpart
        exact writesPart_of_before h hc ih (hcarries.schema_eq part hpart) hy
          ((hcarries.before rfl part hpart).mono (Nat.le_of_lt_succ hlt))
      refine (decides_typeDefinition ht (h.carries id t ht').notBuiltin hparts).congr ?_
      rw [Collection.sound_iff ht]
      exact ⟨And.right, fun hP => ⟨nofun, hP⟩⟩

section Document

variable (h : cx.collection.Authored n) (hc : cx.collection.Numbered)

include h hc

theorem decides_componentNode {ref : ComponentRef} (hschema : ref.id.schema = n)
    {x : ref.kind.Component} (hx : (cx.collection.components n).get? ref.id = some x) :
    Decides (componentNode cx (inlineTypeDefinition cx (cx.collection.typeCount + 1)) ref)
      (cx.collection.Named ref ∧ cx.collection.Sound ref) Refusal := by
  have hx' : cx.collection.get? ref.id = some x := by rw [Collection.get?_eq hc, hschema, hx]
  have hparts : ∀ part ∈ ref.kind.parts x, WritesPart cx
      (inlineTypeDefinition cx (cx.collection.typeCount + 1)) cx.collection.Sound part := by
    intro part hpart
    obtain ⟨y, hy, hy'⟩ := h.get?_part hc hx hpart
    refine writesPart_of_before h hc (decides_inlineTypeDefinition h hc _)
      ((h.carries ref.id x hx).schema_eq part hpart) hy ((h.before_count hy').mono ?_)
    exact Nat.le_succ_of_le (cx.collection.types_size_le n)
  refine ((decides_component hx' (h.carries ref.id x hx).notBuiltin hparts).before fun e =>
    total_pure (Xml.Node.ofElement e)).congr ?_
  rw [Collection.sound_iff hx']
  refine and_congr ⟨fun hname => ⟨x, hx', hname⟩, fun hname => ?_⟩ Iff.rfl
  obtain ⟨x', hx'', hname⟩ := hname
  cases Option.some.inj (hx'.symm.trans hx'')
  exact hname

/-- What it takes to write an item. -/
def ItemWritable (c : Collection) : SchemaItem → Prop
  | .note _ => True
  | .external e => ∀ ref ∈ e.redefined, c.Named ref ∧ c.Sound ref
  | .component ref => c.Sound ref

theorem decides_item (hs : cx.collection.schemas[n]? = some cx.schema) {i : SchemaItem}
    (hi : i ∈ cx.schema.items) :
    Decides (item cx (inlineTypeDefinition cx (cx.collection.typeCount + 1)) i)
      (ItemWritable cx.collection i) Refusal := by
  cases i with
  | note a => exact (total_annotationNode cx a).decides
  | external e =>
      refine Decides.before (decides_construct _ _ _ (decides_each fun ref href => ?_))
        fun _ => total_pure _
      obtain ⟨hschema, x, hx⟩ := h.redefined _ hs e hi ref href
      exact decides_componentNode h hc hschema hx
  | component ref =>
      obtain ⟨hschema, name, x, hx, hname⟩ := h.components _ hs ref hi
      refine (decides_componentNode h hc hschema hx).congr ⟨And.right, fun hsound => ⟨?_, hsound⟩⟩
      exact ⟨x, by rw [Collection.get?_eq hc, hschema, hx], by rw [hname]; rfl⟩

/-- A schema can be written exactly when its items can. -/
theorem decides_root (hs : cx.collection.schemas[n]? = some cx.schema) :
    Decides (root cx) (cx.collection.Writable cx.schema) Refusal := by
  have hmem : ∀ i, i ∈ writtenItems cx.schema.items ↔ i ∈ cx.schema.items := by
    intro i
    unfold writtenItems
    rw [List.mem_append, List.mem_filter, List.mem_filter]
    cases i.external? <;> simp
  refine .after (total_tag _ _) fun t => .after (total_foreign cx _) fun content => ?_
  refine ((decides_each fun i hi => decides_item h hc hs ((hmem i).1 hi)).before
    fun items => total_pure _).congr ⟨fun hitems => ?_, fun hw i hi => ?_⟩
  · exact ⟨fun ref href => hitems _ ((hmem _).2 href), fun e he => hitems _ ((hmem _).2 he)⟩
  · cases i with
    | note a => trivial
    | external e => exact hw.redefined e ((hmem _).1 hi)
    | component ref => exact hw.components ref ((hmem _).1 hi)

end Document

end Writer

end XmlSchema
