import XmlSchema.Collection.Registration
import XmlSchema.Proofs.Component.Extension

/-!
# Growing collections

A collection only grows: a schema keeps what its root said, and gains
components, names, items and foreign content.  Whatever refers to a schema by
its number, or to a component by its identity, keeps its meaning.
-/

namespace XmlSchema

/-- A schema without what it gains while its document is read. -/
def Schema.head (s : Schema) : Schema :=
  { s with components := {}, names := [], items := [], foreign := [], progress := .new }

/-- A schema without its components. -/
def Schema.frame (s : Schema) : Schema := { s with components := {} }

/-- A schema at a later time. -/
structure Schema.Grows (s later : Schema) : Prop where
  head_eq : later.head = s.head
  components : s.components.Extends later.components
  names : s.names <+: later.names
  items : s.items <+: later.items

namespace Schema.Grows

theorem refl (s : Schema) : s.Grows s :=
  ⟨rfl, .refl _, List.prefix_refl _, List.prefix_refl _⟩

theorem trans {a b c : Schema} (hab : a.Grows b) (hbc : b.Grows c) : a.Grows c where
  head_eq := hbc.head_eq.trans hab.head_eq
  components := hab.components.trans hbc.components
  names := hab.names.trans hbc.names
  items := hab.items.trans hbc.items

variable {s later : Schema}

theorem key_eq (h : s.Grows later) : later.key = s.key := by
  simpa [head] using congrArg Schema.key h.head_eq

theorem number_eq (h : s.Grows later) : later.number = s.number := by
  simpa [head] using congrArg Schema.number h.head_eq

theorem builtin_eq (h : s.Grows later) : later.builtin = s.builtin := by
  simpa [head] using congrArg Schema.builtin h.head_eq

/-- A change of nothing but the components. -/
theorem of_components (s : Schema) {cs : Components} (h : s.components.Extends cs) :
    s.Grows { s with components := cs } :=
  ⟨rfl, h, List.prefix_refl _, List.prefix_refl _⟩

end Schema.Grows

namespace Collection

/-- The components of a schema, none if there is no such schema. -/
def components (c : Collection) (number : Nat) : Components :=
  ((c.schemas[number]?).map Schema.components).getD {}

theorem components_of_schema {c : Collection} {n : Nat} {s : Schema}
    (hs : c.schemas[n]? = some s) : c.components n = s.components := by
  rw [components, hs]
  rfl

/-- Every schema is found under its number. -/
def Numbered (c : Collection) : Prop :=
  ∀ (i : Nat) (s : Schema), c.schemas[i]? = some s → s.number = i

/-- A collection at a later time. -/
def Grows (c later : Collection) : Prop :=
  ∀ (i : Nat) (s : Schema), c.schemas[i]? = some s →
    ∃ s', later.schemas[i]? = some s' ∧ s.Grows s'

namespace Grows

theorem refl (c : Collection) : c.Grows c := fun _ s h => ⟨s, h, .refl s⟩

theorem of_schemas_eq {c later : Collection} (h : later.schemas = c.schemas) :
    c.Grows later := by
  intro i s hs
  exact ⟨s, h ▸ hs, .refl s⟩

theorem trans {a b c : Collection} (hab : a.Grows b) (hbc : b.Grows c) : a.Grows c := by
  intro i s hs
  obtain ⟨t, ht, hst⟩ := hab i s hs
  obtain ⟨u, hu, htu⟩ := hbc i t ht
  exact ⟨u, hu, hst.trans htu⟩

theorem size_le {c later : Collection} (h : c.Grows later) :
    c.schemas.size ≤ later.schemas.size := by
  refine Nat.le_of_not_lt fun hlt => ?_
  obtain ⟨s, hs, -⟩ := h later.schemas.size _ (Array.getElem?_eq_getElem hlt)
  exact absurd (Array.getElem?_eq_some_iff.1 hs).1 (Nat.lt_irrefl _)

theorem components {c later : Collection} (h : c.Grows later) (n : Nat) :
    (c.components n).Extends (later.components n) := by
  unfold Collection.components
  cases hs : c.schemas[n]? with
  | none =>
      intro kind i x hx
      cases kind <;> simp [Components.ofKind] at hx
  | some s =>
      obtain ⟨s', hs', hgrows⟩ := h n s hs
      rw [hs']
      exact hgrows.components

end Grows

/-- A collection with the same schemas at a later time. -/
structure GrowsInPlace (c later : Collection) : Prop where
  grows : c.Grows later
  size_eq : later.schemas.size = c.schemas.size

namespace GrowsInPlace

theorem refl (c : Collection) : c.GrowsInPlace c := ⟨.refl c, rfl⟩

theorem trans {a b c : Collection} (hab : a.GrowsInPlace b) (hbc : b.GrowsInPlace c) :
    a.GrowsInPlace c :=
  ⟨hab.grows.trans hbc.grows, hbc.size_eq.trans hab.size_eq⟩

theorem of_schemas_eq {c later : Collection} (h : later.schemas = c.schemas) :
    c.GrowsInPlace later :=
  ⟨.of_schemas_eq h, congrArg Array.size h⟩

/-- A schema at the later time was there before. -/
theorem exists_earlier {c later : Collection} (h : c.GrowsInPlace later) {i : Nat} {s' : Schema}
    (hs' : later.schemas[i]? = some s') : ∃ s, c.schemas[i]? = some s ∧ s.Grows s' := by
  have hi : i < c.schemas.size := h.size_eq ▸ (Array.getElem?_eq_some_iff.1 hs').1
  obtain ⟨t, ht, hgrows⟩ := h.grows i _ (Array.getElem?_eq_getElem hi)
  cases Option.some.inj (hs'.symm.trans ht)
  exact ⟨_, Array.getElem?_eq_getElem hi, hgrows⟩

theorem numbered {c later : Collection} (h : c.GrowsInPlace later) (hc : c.Numbered) :
    later.Numbered := by
  intro i s' hs'
  obtain ⟨s, hs, hgrows⟩ := h.exists_earlier hs'
  rw [hgrows.number_eq]
  exact hc i s hs

end GrowsInPlace

theorem get?_eq {c : Collection} (h : c.Numbered) {kind : ComponentKind}
    (id : ComponentId kind) : c.get? id = (c.components id.schema).get? id := by
  unfold Collection.get? Collection.components
  cases hs : c.schemas[id.schema]? with
  | none => cases kind <;> rfl
  | some s => simp [Schema.get?, h _ s hs, Components.get?]

section Modify

variable {c : Collection} {n : Nat} {f : Schema → Schema}

theorem schemas_modify (i : Nat) :
    (c.modify n f).schemas[i]? = if n = i then (c.schemas[i]?).map f else c.schemas[i]? :=
  Array.getElem?_modify

theorem schemas_modify_some {i : Nat} {s : Schema} (h : (c.modify n f).schemas[i]? = some s) :
    ∃ s₀, c.schemas[i]? = some s₀ ∧ s = if n = i then f s₀ else s₀ := by
  rw [schemas_modify] at h
  split at h
  · rename_i hn
    obtain ⟨s₀, hs₀, rfl⟩ := Option.map_eq_some_iff.1 h
    exact ⟨s₀, hs₀, (if_pos hn).symm⟩
  · rename_i hn
    exact ⟨s, h, (if_neg hn).symm⟩

theorem size_modify : (c.modify n f).schemas.size = c.schemas.size := Array.size_modify

theorem components_modify (i : Nat) :
    (c.modify n f).components i =
      if n = i then ((c.schemas[i]?).map fun s => (f s).components).getD {}
      else c.components i := by
  unfold components
  rw [schemas_modify]
  split
  · rw [Option.map_map]
    rfl
  · rfl

theorem components_modify_of_eq (hf : ∀ s, (f s).components = s.components) (i : Nat) :
    (c.modify n f).components i = c.components i := by
  rw [components_modify]
  split
  · simp only [hf]
    rfl
  · rfl

theorem components_addItem (m : Nat) (item : SchemaItem) (i : Nat) :
    (c.addItem m item).components i = c.components i := by
  refine components_modify_of_eq ?_ i
  exact fun _ => rfl

theorem Numbered.modify (h : c.Numbered) (hf : ∀ s, (f s).number = s.number) :
    (c.modify n f).Numbered := by
  intro i s hs
  obtain ⟨s₀, hs₀, rfl⟩ := schemas_modify_some hs
  split
  · rw [hf]
    exact h i s₀ hs₀
  · exact h i s₀ hs₀

theorem Grows.modify (hf : ∀ s, c.schemas[n]? = some s → s.Grows (f s)) :
    c.Grows (c.modify n f) := by
  intro i s hs
  rw [schemas_modify]
  by_cases hn : n = i
  · subst hn
    refine ⟨f s, ?_, hf s hs⟩
    rw [if_pos rfl, hs]
    rfl
  · exact ⟨s, by rw [if_neg hn, hs], .refl s⟩

theorem GrowsInPlace.modify (hf : ∀ s, c.schemas[n]? = some s → s.Grows (f s)) :
    c.GrowsInPlace (c.modify n f) :=
  ⟨.modify hf, size_modify⟩

theorem GrowsInPlace.addItem (c : Collection) (n : Nat) (item : SchemaItem) :
    c.GrowsInPlace (c.addItem n item) :=
  .modify fun _ _ => ⟨rfl, .refl _, List.prefix_refl _, List.prefix_append _ _⟩

end Modify

section SameFrame

/-- Two collections differ in nothing but the components of their schemas and
in what does not belong to a schema. -/
def SameFrame (c later : Collection) : Prop :=
  ∀ i : Nat, (later.schemas[i]?).map Schema.frame = (c.schemas[i]?).map Schema.frame

namespace SameFrame

theorem refl (c : Collection) : c.SameFrame c := fun _ => rfl

theorem trans {a b c : Collection} (hab : a.SameFrame b) (hbc : b.SameFrame c) :
    a.SameFrame c := fun i => (hbc i).trans (hab i)

theorem of_schemas_eq {c later : Collection} (h : later.schemas = c.schemas) :
    c.SameFrame later := by
  intro i
  rw [h]

theorem modify {c : Collection} {n : Nat} {f : Schema → Schema}
    (hf : ∀ s, (f s).frame = s.frame) : c.SameFrame (c.modify n f) := by
  intro i
  rw [schemas_modify]
  split
  · rw [Option.map_map]
    congr 1
    exact funext hf
  · rfl

theorem exists_earlier {c later : Collection} (h : c.SameFrame later) {i : Nat} {s' : Schema}
    (hs' : later.schemas[i]? = some s') : ∃ s, c.schemas[i]? = some s ∧ s'.frame = s.frame := by
  have hi := h i
  rw [hs', Option.map_some, eq_comm, Option.map_eq_some_iff] at hi
  obtain ⟨s, hs, hframe⟩ := hi
  exact ⟨s, hs, hframe.symm⟩

end SameFrame

end SameFrame

section Push

variable (c : Collection) (s : Schema)

/-- A collection with one more schema. -/
def push : Collection := { c with schemas := c.schemas.push s }

theorem schemas_push (i : Nat) :
    (c.push s).schemas[i]? = if i = c.schemas.size then some s else c.schemas[i]? :=
  Array.getElem?_push

/-- A change of the last schema. -/
theorem modify_push (f : Schema → Schema) :
    (c.push s).modify c.schemas.size f = c.push (f s) := by
  have h : (c.schemas.push s).modify c.schemas.size f = c.schemas.push (f s) := by
    apply Array.ext_getElem?
    intro i
    rw [Array.getElem?_modify, Array.getElem?_push, Array.getElem?_push]
    split
    · rename_i hi
      subst hi
      rw [if_pos rfl, if_pos rfl]
      rfl
    · rename_i hi
      rw [if_neg (Ne.symm hi), if_neg (Ne.symm hi)]
  rw [modify, push, h, push]

theorem Grows.push : c.Grows (c.push s) := by
  intro i t ht
  have hi := (Array.getElem?_eq_some_iff.1 ht).1
  exact ⟨t, by rw [schemas_push, if_neg (by omega), ht], .refl t⟩

variable {c s}

theorem Numbered.push (h : c.Numbered) (hs : s.number = c.schemas.size) :
    (c.push s).Numbered := by
  intro i t ht
  rw [schemas_push] at ht
  split at ht
  · rename_i hi
    cases ht
    rw [hs, hi]
  · exact h i t ht

theorem components_push (hs : s.components = {}) (i : Nat) :
    (c.push s).components i = c.components i := by
  unfold components
  rw [schemas_push]
  split
  · rename_i hi
    rw [hi, Array.getElem?_eq_none (Nat.le_refl _)]
    simp [hs]
  · rfl

end Push

/-- At first the built-in types alone are there. -/
theorem schemas_empty {i : Nat} {s : Schema} (h : Collection.empty.schemas[i]? = some s) :
    i = 0 ∧ s = Catalogue.schema := by
  cases i with
  | zero => exact ⟨rfl, (Option.some.inj h).symm⟩
  | succ i => cases h

end Collection

end XmlSchema
