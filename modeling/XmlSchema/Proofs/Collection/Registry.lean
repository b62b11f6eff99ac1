import XmlSchema.Proofs.Collection.Forest

/-!
# Registered names and listed components

A component is owned, registered under its name and listed as an item in three
steps, each of which may be the last one.  The names and the items of a schema
are in step all the same: the names are registered in the order in which the
items list the components that bear them, and no name stands for two components
of a kind.
-/

namespace XmlSchema

open List

/-- The component that is registered under a name. -/
def Registration.ref (number : Nat) (r : Registration) : ComponentRef :=
  ⟨r.kind, ⟨number, r.index⟩⟩

namespace Schema

variable {s later : Schema} {kind : ComponentKind} {name : QName} {id : ComponentId kind}

/-- The components of one kind that the items of a schema list, in order. -/
def listedOf (s : Schema) (kind : ComponentKind) : List ComponentRef :=
  s.listed.filter (·.kind == kind)

/-- The names of a schema with the components that its items list. -/
def roll (s : Schema) : List Registration × List ComponentRef := (s.names, s.listed)

/-- The names of a schema lead to the components that its items list, in the
same order.  Each component bears its name, and no two of a kind the same. -/
structure InStep (s : Schema) : Prop where
  listed_eq : s.listed = s.names.map (Registration.ref s.number)
  named : ∀ r ∈ s.names, s.components.Names r.name (r.ref s.number).id
  distinct : (s.names.map fun r => (r.kind, r.name)).Nodup

/-- What the names of one kind and the items of a schema say of each other: the
entries are the listed components one to one, the keys are distinct, every key
is the name that its component bears, and to look up a name is to look for the
listed component of that name. -/
structure NamesListed (s : Schema) (kind : ComponentKind) : Prop where
  entries : (s.namesOf kind).map (Registration.ref s.number) = s.listedOf kind
  once : (s.listedOf kind).Nodup
  keys : ((s.namesOf kind).map Registration.name).Nodup
  named : ∀ r ∈ s.namesOf kind, ∃ x,
    s.get? (⟨s.number, r.index⟩ : ComponentId kind) = some x ∧ kind.nameOf x = some r.name
  lookup?_iff : ∀ (name : QName) (id : ComponentId kind), s.lookup? kind name = some id ↔
    ⟨kind, id⟩ ∈ s.listedOf kind ∧ ∃ x, s.get? id = some x ∧ kind.nameOf x = some name

theorem listed_addItem (s : Schema) (item : SchemaItem) :
    (s.addItem item).listed = s.listed ++ item.component?.toList := by
  rw [listed, addItem, filterMap_append]
  cases item <;> rfl

theorem exists_get?_of_names (h : s.components.Names name id) (hid : id.schema = s.number) :
    ∃ x, s.get? id = some x ∧ kind.nameOf x = some name := by
  obtain ⟨x, hx, hname⟩ := h
  exact ⟨x, by rw [get?, if_pos hid, ← hx, Components.get?], hname⟩

namespace InStep

theorem of_roll_nil (h : s.roll = ([], [])) : s.InStep := by
  obtain ⟨hnames, hlisted⟩ := Prod.mk.inj h
  refine ⟨?_, ?_, ?_⟩
  · rw [hlisted, hnames, map_nil]
  · rw [hnames]
    exact fun r hr => absurd hr not_mem_nil
  · rw [hnames]
    exact nodup_nil

/-- A schema that has got no names and no items since is still in step. -/
theorem grow (h : s.InStep) (hgrows : s.Grows later) (hroll : later.roll = s.roll) :
    later.InStep := by
  obtain ⟨hnames, hlisted⟩ := Prod.mk.inj hroll
  refine ⟨?_, ?_, ?_⟩
  · rw [hlisted, hnames, hgrows.number_eq]
    exact h.listed_eq
  · rw [hnames, hgrows.number_eq]
    exact fun r hr => (h.named r hr).extend hgrows.components
  · rw [hnames]
    exact h.distinct

/-- A component of the schema that is registered under its own name, which is
free, and listed. -/
theorem enlist {x : kind.Component} (h : s.InStep) (hgrows : s.Grows later)
    (hx : s.get? id = some x) (hname : kind.nameOf x = some name)
    (hfree : s.lookup? kind name = none)
    (hroll : later.roll = (s.names ++ [⟨kind, name, id.index⟩], s.listed ++ [⟨kind, id⟩])) :
    later.InStep := by
  obtain ⟨hnames, hlisted⟩ := Prod.mk.inj hroll
  have hid : id.schema = s.number := by
    by_contra hid
    rw [get?, if_neg hid] at hx
    cases hx
  have href : (⟨kind, name, id.index⟩ : Registration).ref s.number = ⟨kind, id⟩ := by
    rw [Registration.ref, ← hid]
  have hbears : s.components.Names name id := by
    rw [get?, if_pos hid] at hx
    exact ⟨x, hx, hname⟩
  refine ⟨?_, ?_, ?_⟩
  · rw [hlisted, hnames, hgrows.number_eq, map_append, map_singleton, href, h.listed_eq]
  · rw [hnames, hgrows.number_eq]
    intro r hr
    rcases mem_append.1 hr with hr | hr
    · exact (h.named r hr).extend hgrows.components
    · cases mem_singleton.1 hr
      rw [href]
      exact hbears.extend hgrows.components
  · rw [hnames, map_append, map_singleton]
    refine nodup_append_comm.1 (nodup_cons.2 ⟨fun hmem => ?_, h.distinct⟩)
    -- the name would have been found
    obtain ⟨r, hr, hkey⟩ := mem_map.1 hmem
    obtain ⟨hkind, hname⟩ := Prod.mk.inj hkey
    have hsome := lookup?_isSome_of_mem hr
    rw [hkind, hname, hfree] at hsome
    cases hsome

/-- Components that are listed twice would bear one name. -/
theorem nodup_listed (h : s.InStep) : s.listed.Nodup := by
  let key : ComponentRef → ComponentKind × Option QName :=
    fun ref => (ref.kind, (s.components.get? ref.id).bind ref.kind.nameOf)
  have hkeys : s.listed.map key = (s.names.map fun r => (r.kind, r.name)).map
      fun k => (k.1, some k.2) := by
    rw [h.listed_eq, map_map, map_map]
    refine map_congr_left fun r hr => ?_
    obtain ⟨x, hx, hname⟩ := h.named r hr
    refine Prod.ext rfl ?_
    exact Option.bind_eq_some_iff.2 ⟨x, hx, hname⟩
  refine Nodup.of_map key ?_
  rw [hkeys]
  refine h.distinct.map fun a b hab => ?_
  obtain ⟨hkind, hname⟩ := Prod.mk.inj hab
  exact Prod.ext hkind (Option.some.inj hname)

/-- Where a listed component is registered. -/
theorem mem_names_iff (h : s.InStep) : ⟨kind, name, id.index⟩ ∈ s.names ∧ id.schema = s.number ↔
    ⟨kind, id⟩ ∈ s.listed ∧ s.components.Names name id := by
  rw [h.listed_eq, mem_map]
  constructor
  · rintro ⟨hr, hid⟩
    have href : (⟨kind, name, id.index⟩ : Registration).ref s.number = ⟨kind, id⟩ := by
      rw [Registration.ref, ← hid]
    have hbears := h.named _ hr
    rw [href] at hbears
    exact ⟨⟨_, hr, href⟩, hbears⟩
  · rintro ⟨⟨⟨kind', other, index⟩, hr, href⟩, y, hy, hbears⟩
    cases href
    -- a component bears one name only
    obtain ⟨x, hx, hname⟩ := h.named _ hr
    cases Option.some.inj (hx.symm.trans hy)
    cases Option.some.inj (hname.symm.trans hbears)
    exact ⟨hr, rfl⟩

/-- To look up a name is to look for the listed component that bears it. -/
theorem lookup?_eq_some_iff (h : s.InStep) : s.lookup? kind name = some id ↔
    ⟨kind, id⟩ ∈ s.listed ∧ s.components.Names name id := by
  rw [← h.mem_names_iff]
  constructor
  · exact fun hid => ⟨mem_of_lookup? hid, schema_of_lookup? hid⟩
  · rintro ⟨hr, hid⟩
    obtain ⟨other, hother⟩ := Option.isSome_iff_exists.1 (lookup?_isSome_of_mem hr)
    -- the entry that is found has the same key
    have heq := inj_on_of_nodup_map h.distinct hr (mem_of_lookup? hother) rfl
    have hindex : id.index = other.index := congrArg Registration.index heq
    have hschema : other.schema = id.schema := (schema_of_lookup? hother).trans hid.symm
    refine hother.trans (congrArg some ?_)
    obtain ⟨schema, index⟩ := id
    obtain ⟨schema', index'⟩ := other
    cases hindex
    cases hschema
    rfl

theorem namesListed (h : s.InStep) (kind : ComponentKind) : s.NamesListed kind where
  entries := by
    rw [listedOf, h.listed_eq, filter_map]
    rfl
  once := h.nodup_listed.filter _
  keys := by
    -- among the names of one kind the kind tells nothing apart
    have hkinds : (s.namesOf kind).map (fun r => (r.kind, r.name)) =
        ((s.namesOf kind).map Registration.name).map fun name => (kind, name) := by
      rw [map_map]
      refine map_congr_left fun r hr => ?_
      have hkind : r.kind = kind := by simpa using (mem_filter.1 hr).2
      rw [hkind]
      rfl
    refine Nodup.of_map (fun name => (kind, name)) ?_
    rw [← hkinds]
    exact h.distinct.sublist (filter_sublist.map _)
  named := by
    intro r hr
    obtain ⟨hmem, hkind⟩ := mem_filter.1 hr
    obtain rfl : r.kind = kind := by simpa using hkind
    exact exists_get?_of_names (h.named r hmem) rfl
  lookup?_iff name id := by
    rw [h.lookup?_eq_some_iff, listedOf, mem_filter]
    constructor
    · rintro ⟨hlisted, hbears⟩
      obtain ⟨r, hr, href⟩ := mem_map.1 (h.listed_eq ▸ hlisted)
      have hid : id.schema = s.number := by
        cases href
        rfl
      exact ⟨⟨hlisted, beq_self_eq_true kind⟩, exists_get?_of_names hbears hid⟩
    · rintro ⟨⟨hlisted, -⟩, x, hx, hbears⟩
      refine ⟨hlisted, x, ?_, hbears⟩
      rw [get?] at hx
      split at hx
      · exact hx
      · cases hx

/-- There are as many names as component items. -/
theorem length_names (h : s.InStep) :
    s.names.length = s.items.countP fun item => item.component?.isSome := by
  rw [← length_filterMap_eq_countP]
  have hlength := congrArg length h.listed_eq
  rw [length_map] at hlength
  exact hlength.symm

end InStep

end Schema

namespace Collection

variable {c later : Collection} {n : Nat} {f : Schema → Schema}

/-- Two collections have the same names and component items in the same
schemas. -/
def SameRoll (c later : Collection) : Prop :=
  ∀ i : Nat, (later.schemas[i]?).map Schema.roll = (c.schemas[i]?).map Schema.roll

theorem SameFrame.roll (h : c.SameFrame later) : c.SameRoll later := by
  intro i
  have hroll := congrArg (Option.map Schema.roll) (h i)
  rw [Option.map_map, Option.map_map] at hroll
  exact hroll

theorem SameRoll.modify (hf : ∀ s, (f s).roll = s.roll) : c.SameRoll (c.modify n f) := by
  intro i
  rw [schemas_modify]
  split
  · rw [Option.map_map]
    congr 1
    exact funext hf
  · rfl

theorem SameRoll.addItem {item : SchemaItem} (hitem : item.component? = none) :
    c.SameRoll (c.addItem n item) := by
  refine .modify fun s => Prod.ext rfl ?_
  rw [Schema.roll, Schema.listed_addItem, hitem, Option.toList_none, append_nil]
  rfl

/-- The names and the items of every schema but the first, the built-in one, are
in step. -/
def InStep (c : Collection) : Prop :=
  ∀ (n : Nat) (s : Schema), n ≠ 0 → c.schemas[n]? = some s → s.InStep

namespace InStep

/-- What registers and lists nothing. -/
theorem grow (h : c.InStep) (hplace : c.GrowsInPlace later) (hroll : c.SameRoll later) :
    later.InStep := by
  intro m s' hm hs'
  obtain ⟨s, hs, hgrows⟩ := hplace.exists_earlier hs'
  have hrolls := hroll m
  rw [hs, hs'] at hrolls
  exact (h m s hm hs).grow hgrows (Option.some.inj hrolls)

theorem push (h : c.InStep) {s : Schema} (hs : s.roll = ([], [])) : (c.push s).InStep := by
  intro m t hm ht
  rw [schemas_push] at ht
  split at ht
  · cases ht
    exact .of_roll_nil hs
  · exact h m t hm ht

/-- The component is registered and listed, or neither. -/
theorem enlist {kind : ComponentKind} {id : ComponentId kind} (h : c.InStep)
    (hc : c.enlist id = .ok later) : later.InStep := by
  have hplace := GrowsInPlace.enlist hc
  intro m s' hnonzero hs'
  obtain ⟨s, hs, hgrows⟩ := hplace.exists_earlier hs'
  have hstep := h m s hnonzero hs
  obtain ⟨c', hc', rfl⟩ := enlist_cases hc
  obtain ⟨t, ht, rfl⟩ := schemas_modify_some hs'
  rcases register_cases hc' with ⟨hnone, rfl⟩ | ⟨s₀, x, name, hs₀, hx, hname, hfree, rfl⟩
  · -- there is no such schema
    have hm : id.schema ≠ m := by
      rintro rfl
      rw [hs] at hnone
      cases hnone
    rw [if_neg hm] at hgrows ⊢
    cases Option.some.inj (hs.symm.trans ht)
    exact hstep
  · -- to settle declarations takes or gives no names
    have hsettle := (SameFrame.settle (c := c.enroll id name) name id).roll m
    rw [ht, enroll, schemas_modify, hs] at hsettle
    by_cases hm : id.schema = m
    · subst hm
      cases Option.some.inj (hs.symm.trans hs₀)
      rw [if_pos rfl] at hsettle hgrows ⊢
      obtain ⟨hnames, hlisted⟩ := Prod.mk.inj (Option.some.inj hsettle)
      refine hstep.enlist hgrows hx hname hfree (Prod.ext hnames ?_)
      have hlist : (t.addItem (.component ⟨kind, id⟩)).listed = t.listed ++ [⟨kind, id⟩] :=
        Schema.listed_addItem t _
      exact hlist.trans (congrArg (· ++ [_]) hlisted)
    · rw [if_neg hm] at hsettle hgrows ⊢
      exact hstep.grow hgrows (Option.some.inj hsettle)

end InStep

end Collection

end XmlSchema
