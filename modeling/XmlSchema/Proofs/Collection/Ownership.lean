import XmlSchema.Proofs.Document.Ownership
import XmlSchema.Proofs.Resolution.Change

/-!
# What a schema owns is used at most once

In a balanced schema every component comes after its parts, and whatever some
component is made of, some reference to a document redefines or some item
lists stands in no second place.  While a document is read, what has not found
its place yet is on hand.
-/

namespace XmlSchema

open List

namespace Schema

variable {s later : Schema} {loose before after : List ComponentRef}

/-- The components that the items of a schema refer to. -/
def refs (s : Schema) : List ComponentRef := s.items.flatMap SchemaItem.refs

/-- The components of a schema can have been owned in an order in which each
comes after its parts.  What components are made of, what items refer to and
what is still `loose` has been issued by the schema, each for one use. -/
def Balanced (s : Schema) (loose : List ComponentRef) : Prop :=
  ∃ log, (({} : Components).pushAll log).Alike s.components ∧
    Components.Founded s.number {} log ∧
    loose ++ s.refs ++ Components.taken log <+~ Components.issued s.number {} log

theorem refs_addItem (s : Schema) (item : SchemaItem) :
    (s.addItem item).refs = s.refs ++ item.refs := by
  rw [refs, addItem, flatMap_append, flatMap_singleton]
  rfl

namespace Balanced

theorem alike (h : s.Balanced loose) (hnumber : later.number = s.number)
    (hitems : later.items = s.items) (hcs : s.components.Alike later.components) :
    later.Balanced loose := by
  obtain ⟨log, hlog, hfounded, hle⟩ := h
  rw [Balanced, refs, hnumber, hitems]
  exact ⟨log, hlog.trans hcs, hfounded, hle⟩

/-- What is on hand can be dropped. -/
theorem mono {less : List ComponentRef} (h : s.Balanced loose) (hless : less <+~ loose) :
    s.Balanced less := by
  obtain ⟨log, hlog, hfounded, hle⟩ := h
  refine ⟨log, hlog, hfounded, Subperm.trans ?_ hle⟩
  exact (subperm_append_right _).2 ((subperm_append_right _).2 hless)

/-- Reading on keeps a schema balanced. -/
theorem yields {cs : Components} (h : s.Balanced before)
    (hcs : Components.Yields s.number s.components cs before after) :
    ({ s with components := cs } : Schema).Balanced after := by
  obtain ⟨log, hlog, hfounded, hle⟩ := h
  obtain ⟨more, rfl, hmore, hle'⟩ := hcs
  have hcount := hlog.count_eq
  refine ⟨log ++ more, ?_, ?_, ?_⟩
  · rw [Components.pushAll_append]
    exact hlog.pushAll
  · exact Components.founded_append.2 ⟨hfounded, (Components.founded_congr hcount).1 hmore⟩
  -- what is made now was on hand before or has been issued meanwhile
  · rw [Components.issued_append, Components.taken_append, ← Components.issued_congr hcount]
    refine subperm_ext_iff.2 fun ref _ => ?_
    have hold := hle.count_le ref
    have hnew := hle'.count_le ref
    simp only [count_append, refs] at hold hnew ⊢
    omega

/-- An item takes what it refers to from what is on hand. -/
theorem addItem {item : SchemaItem} (h : s.Balanced item.refs) :
    (s.addItem item).Balanced [] := by
  obtain ⟨log, hlog, hfounded, hle⟩ := h
  refine ⟨log, hlog, hfounded, ?_⟩
  rw [refs_addItem, nil_append]
  exact ((perm_append_comm).append_right _).subperm.trans hle

/-- What is on hand has been issued by the schema. -/
theorem schema_eq {ref : ComponentRef} (h : s.Balanced loose) (href : ref ∈ loose) :
    ref.id.schema = s.number := by
  obtain ⟨log, -, -, hle⟩ := h
  have hmem := hle.subset (mem_append_left _ (mem_append_left _ href))
  exact (Components.mem_issued_iff.1 hmem).1.1

theorem fresh (hcs : s.components = {}) (hitems : s.items = []) : s.Balanced [] := by
  refine ⟨[], ?_, trivial, ?_⟩
  · rw [hcs]
    exact .refl _
  · rw [refs, hitems]
    exact .refl _

end Balanced

end Schema

namespace Collection

variable {c c' later : Collection} {first n : Nat} {loose loose' : List ComponentRef}

/-- The schemas from `first` on are balanced; one of them has something on
hand. -/
structure Balanced (c : Collection) (first n : Nat) (loose : List ComponentRef) : Prop where
  numbered : c.Numbered
  first_le : first ≤ c.schemas.size
  schema : ∀ m s, first ≤ m → c.schemas[m]? = some s →
    s.Balanced (if m = n then loose else [])

/-- A later time at which the schemas from `first` on are balanced, and those
before have been left alone but for types that were found. -/
structure Tends (c : Collection) (first n : Nat) (loose : List ComponentRef)
    (later : Collection) : Prop where
  balanced : later.Balanced first n loose
  size_le : c.schemas.size ≤ later.schemas.size
  before : ∀ m < first, (later.schemas[m]?).map Schema.frame = (c.schemas[m]?).map Schema.frame

namespace Balanced

/-- When nothing is on hand, it does not matter where. -/
theorem elsewhere (h : c.Balanced first n []) (m : Nat) : c.Balanced first m [] := by
  refine ⟨h.numbered, h.first_le, fun i s hi hs => ?_⟩
  have hbalanced := h.schema i s hi hs
  rw [ite_self] at hbalanced ⊢
  exact hbalanced

theorem onHand (h : c.Balanced first n loose) (hfirst : first ≤ n) {s : Schema}
    (hs : c.schemas[n]? = some s) : s.Balanced loose := by
  have hbalanced := h.schema n s hfirst hs
  rwa [if_pos rfl] at hbalanced

theorem refl (h : c.Balanced first n loose) : c.Tends first n loose c :=
  ⟨h, Nat.le_refl _, fun _ _ => rfl⟩

/-- Finding types leaves all schemas balanced. -/
theorem findsTypes (h : c.Balanced first n loose) (hfound : c.FindsTypes later)
    (hplace : c.GrowsInPlace later) : c.Tends first n loose later := by
  refine ⟨⟨hplace.numbered h.numbered, hplace.size_eq ▸ h.first_le, fun m s' hm hs' => ?_⟩,
    hplace.grows.size_le, fun m _ => hfound.frame m⟩
  obtain ⟨s, hs, -⟩ := hplace.exists_earlier hs'
  obtain ⟨t, ht, hframe, halike⟩ := hfound.exists_later hs
  cases Option.some.inj (hs'.symm.trans ht)
  have hnumber : s'.frame.number = s.frame.number := congrArg Schema.number hframe
  have hitems : s'.frame.items = s.frame.items := congrArg Schema.items hframe
  exact (h.schema m s hm hs).alike hnumber hitems halike

/-- A change of one schema that keeps it balanced. -/
theorem modify (h : c.Balanced first n loose) (hfirst : first ≤ n) {f : Schema → Schema}
    (hnumber : ∀ s, (f s).number = s.number)
    (hf : ∀ s, c.schemas[n]? = some s → s.Balanced loose → (f s).Balanced loose') :
    c.Tends first n loose' (c.modify n f) := by
  refine ⟨⟨h.numbered.modify hnumber, ?_, fun m s' hm hs' => ?_⟩, ?_, fun m hm => ?_⟩
  · rw [size_modify]
    exact h.first_le
  · obtain ⟨s, hs, rfl⟩ := schemas_modify_some hs'
    by_cases hn : n = m
    · subst hn
      rw [if_pos rfl, if_pos rfl]
      exact hf s hs (h.onHand hm hs)
    · have hbalanced := h.schema m s hm hs
      rw [if_neg (Ne.symm hn)] at hbalanced
      rwa [if_neg hn, if_neg (Ne.symm hn)]
  · rw [size_modify]
  · rw [schemas_modify, if_neg (by omega)]

/-- A change of a schema that is not about its components or its items. -/
theorem remark (h : c.Balanced first n loose) (hfirst : first ≤ n) {f : Schema → Schema}
    (hnumber : ∀ s, (f s).number = s.number) (hitems : ∀ s, (f s).items = s.items)
    (hcs : ∀ s, (f s).components = s.components) :
    c.Tends first n loose (c.modify n f) :=
  h.modify hfirst hnumber fun s _ hs => hs.alike (hnumber s) (hitems s) (hcs s ▸ .refl _)

theorem push (h : c.Balanced first n []) {s : Schema} (hnumber : s.number = c.schemas.size)
    (hcs : s.components = {}) (hitems : s.items = []) : c.Tends first n [] (c.push s) := by
  have hfirst := h.first_le
  have hsize : (c.push s).schemas.size = c.schemas.size + 1 := Array.size_push _
  refine ⟨⟨h.numbered.push hnumber, by omega, fun m t hm ht => ?_⟩, by omega, fun m hm => ?_⟩
  · rw [schemas_push] at ht
    split at ht
    · cases ht
      rw [ite_self]
      exact .fresh hcs hitems
    · exact h.schema m t hm ht
  · rw [schemas_push, if_neg (by omega)]

end Balanced

theorem Tends.trans (h : c.Tends first n loose c') {m : Nat}
    (h' : c'.Tends first m loose' later) : c.Tends first m loose' later where
  balanced := h'.balanced
  size_le := Nat.le_trans h.size_le h'.size_le
  before i hi := (h'.before i hi).trans (h.before i hi)

namespace Balanced

/-- What was read on a workbench is taken over. -/
theorem absorb (h : c.Balanced first n loose) (hfirst : first ≤ n)
    {bench : Workbench}
    (hbench : Components.Yields n (c.components n) bench.components loose loose') :
    c.Tends first n loose' (c.absorb n bench) := by
  have hfurnish : c.Tends first n loose' (c.furnish n bench.components) := by
    refine h.modify hfirst (fun _ => rfl) fun s hs hbalanced => hbalanced.yields ?_
    rw [h.numbered n s hs, ← components_of_schema hs]
    exact hbench
  exact hfurnish.trans (hfurnish.balanced.findsTypes (.attachAll _) (.attachAll _))

/-- What an item refers to is on hand before it is listed. -/
theorem addItem {item : SchemaItem} (h : c.Balanced first n item.refs) (hfirst : first ≤ n) :
    c.Tends first n [] (c.addItem n item) :=
  h.modify hfirst (fun _ => rfl) fun _ _ hs => hs.addItem

theorem enlist {ref : ComponentRef} (h : c.Balanced first n [ref]) (hfirst : first ≤ n)
    (hn : n < c.schemas.size) (hc : c.enlist ref.id = .ok later) : c.Tends first n [] later := by
  have hs := Array.getElem?_eq_getElem hn
  have hschema : ref.id.schema = n :=
    ((h.onHand hfirst hs).schema_eq mem_cons_self).trans (h.numbered n _ hs)
  obtain ⟨c', hc', rfl⟩ := enlist_cases hc
  have hregister : c.Tends first n [ref] c' := by
    rcases register_cases hc' with ⟨-, rfl⟩ | ⟨s, x, name, -, -, -, -, rfl⟩
    · exact h.refl
    · have henroll : c.Tends first n [ref] (c.enroll ref.id name) := by
        rw [enroll, hschema]
        exact h.remark hfirst (fun _ => rfl) (fun _ => rfl) fun _ => rfl
      exact henroll.trans (henroll.balanced.findsTypes (.settle _ _) (.settle _ _))
  rw [hschema]
  have hlist : c'.Tends first n [] (c'.addItem n (.component ref)) :=
    hregister.balanced.addItem hfirst
  exact hregister.trans hlist

end Balanced

end Collection

end XmlSchema
