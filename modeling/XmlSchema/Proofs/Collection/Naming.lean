import XmlSchema.Proofs.Collection.Growth

/-!
# Registered names

A search finds nothing but what some schema has registered, and it finds
whatever is registered in a schema whose namespace is that of the name.
-/

namespace XmlSchema

namespace Schema

variable {s later : Schema} {kind : ComponentKind} {name : QName} {id : ComponentId kind}

theorem lookup?_eq_some_iff :
    s.lookup? kind name = some id ↔
      ∃ r, s.names.find? (fun r => r.kind == kind && r.name == name) = some r ∧
        (⟨s.number, r.index⟩ : ComponentId kind) = id :=
  Option.map_eq_some_iff

theorem schema_of_lookup? (h : s.lookup? kind name = some id) : id.schema = s.number := by
  obtain ⟨r, -, rfl⟩ := lookup?_eq_some_iff.1 h
  rfl

theorem mem_of_lookup? (h : s.lookup? kind name = some id) :
    ⟨kind, name, id.index⟩ ∈ s.names := by
  obtain ⟨r, hr, rfl⟩ := lookup?_eq_some_iff.1 h
  have hmatch := List.find?_some hr
  simp only [Bool.and_eq_true, beq_iff_eq] at hmatch
  obtain ⟨rfl, rfl⟩ := hmatch
  exact List.mem_of_find?_eq_some hr

theorem lookup?_isSome_of_mem {r : Registration} (h : r ∈ s.names) :
    (s.lookup? r.kind r.name).isSome := by
  rw [lookup?, Option.isSome_map, List.find?_isSome]
  exact ⟨r, h, by simp⟩

/-- A name keeps its meaning when more names are registered. -/
theorem Grows.lookup? (h : s.Grows later) (hid : s.lookup? kind name = some id) :
    later.lookup? kind name = some id := by
  obtain ⟨r, hr, rfl⟩ := lookup?_eq_some_iff.1 hid
  obtain ⟨more, hmore⟩ := h.names
  refine lookup?_eq_some_iff.2 ⟨r, ?_, ?_⟩
  · rw [← hmore, List.find?_append, hr, Option.some_or]
  · rw [h.number_eq]

/-- The name that has been registered last is found, the others as before. -/
theorem lookup?_register {other : ComponentKind} {fresh : QName}
    (hfree : s.lookup? other fresh = none) (index : Nat) :
    ({ s with names := s.names ++ [⟨other, fresh, index⟩] } : Schema).lookup? kind name =
      if kind = other ∧ name = fresh then some ⟨s.number, index⟩ else s.lookup? kind name := by
  have hfind : s.names.find? (fun r => r.kind == other && r.name == fresh) = none :=
    Option.map_eq_none_iff.1 hfree
  simp only [Schema.lookup?, List.find?_append]
  split
  · rename_i h
    obtain ⟨rfl, rfl⟩ := h
    simp [hfind]
  · rename_i h
    have : [(⟨other, fresh, index⟩ : Registration)].find?
        (fun r => r.kind == kind && r.name == name) = none := by
      simp only [List.find?_cons, List.find?_nil]
      split
      · rename_i hmatch
        simp only [Bool.and_eq_true, beq_iff_eq] at hmatch
        exact absurd ⟨hmatch.1.symm, hmatch.2.symm⟩ h
      · rfl
    rw [this, Option.or_none]

end Schema

/-- What a schema is known by, with the names that it has registered. -/
def Schema.naming (s : Schema) : Nat × SchemaKey × List Registration :=
  (s.number, s.key, s.names)

namespace Collection

variable {c later : Collection} {kind : ComponentKind} {name : QName} {id : ComponentId kind}

/-- A component is what its schema has registered under a name. -/
def Registers (c : Collection) (name : QName) {kind : ComponentKind} (id : ComponentId kind) :
    Prop :=
  ∃ s, c.schemas[id.schema]? = some s ∧ s.lookup? kind name = some id

/-- Every type is registered under a name of the namespace of its schema. -/
def Homed (c : Collection) : Prop :=
  ∀ (i : Nat) (s : Schema), c.schemas[i]? = some s → ∀ r ∈ s.names, r.kind = .type →
    r.name.namespaceName = s.logicalNamespace

theorem Grows.registers (h : c.Grows later) (hid : c.Registers name id) :
    later.Registers name id := by
  obtain ⟨s, hs, hlookup⟩ := hid
  obtain ⟨s', hs', hgrows⟩ := h _ s hs
  exact ⟨s', hs', hgrows.lookup? hlookup⟩

theorem registers_of_lookup? (h : c.Numbered) {i : Nat} {s : Schema}
    (hs : c.schemas[i]? = some s) (hid : s.lookup? kind name = some id) :
    c.Registers name id := by
  refine ⟨s, ?_, hid⟩
  rw [Schema.schema_of_lookup? hid, h i s hs]
  exact hs

theorem search_registers (h : c.Numbered) {fuel : Nat} {path : List Nat} {n : Nat}
    (hid : c.search kind name fuel path n = some id) : c.Registers name id := by
  induction fuel generalizing path n with
  | zero => cases hid
  | succ fuel ih =>
      unfold search at hid
      split at hid
      · cases hid
      · split at hid
        · cases hid
        · rename_i s hs
          split at hid
          · rename_i found hfound
            cases hid
            exact registers_of_lookup? h hs hfound
          · obtain ⟨target, -, htarget⟩ := List.exists_of_findSome?_eq_some hid
            exact ih htarget

/-- What a search finds is registered under the name. -/
theorem find?_registers (h : c.Numbered) (hid : c.find? kind name = some id) :
    c.Registers name id := by
  obtain ⟨n, -, hn⟩ := List.exists_of_findSome?_eq_some hid
  exact search_registers h hn

/-- A search finds what is registered in a schema with the namespace of the
name. -/
theorem find?_isSome (h : c.Numbered) {i : Nat} {s : Schema} (hs : c.schemas[i]? = some s)
    (hspace : s.logicalNamespace = name.namespaceName)
    (hlookup : (s.lookup? kind name).isSome) : (c.find? kind name).isSome := by
  rw [find?, List.findSome?_isSome_iff]
  refine ⟨i, ?_, ?_⟩
  · rw [startingPoints, List.mem_map]
    refine ⟨s, ?_, h i s hs⟩
    rw [List.mem_filter, beq_iff_eq]
    exact ⟨Array.mem_toList_iff.2 (Array.mem_of_getElem? hs), hspace⟩
  · obtain ⟨found, hfound⟩ := Option.isSome_iff_exists.1 hlookup
    simp [search, hs, hfound]

/-- A search for a type finds any that is registered. -/
theorem find?_isSome_of_registers (h : c.Numbered) (hhome : c.Homed) {id : TypeId}
    (hid : c.Registers name id) : (c.find? .type name).isSome := by
  obtain ⟨s, hs, hlookup⟩ := hid
  refine find?_isSome h hs ?_ (by rw [hlookup]; rfl)
  exact (hhome _ s hs _ (Schema.mem_of_lookup? hlookup) rfl).symm

section SameNaming

/-- Two collections have registered the same names in the same schemas. -/
def SameNaming (c later : Collection) : Prop :=
  ∀ i : Nat, (later.schemas[i]?).map Schema.naming = (c.schemas[i]?).map Schema.naming

theorem SameNaming.exists (h : c.SameNaming later) {i : Nat} {s' : Schema}
    (hs' : later.schemas[i]? = some s') :
    ∃ s, c.schemas[i]? = some s ∧ s'.naming = s.naming := by
  have hi := h i
  rw [hs', Option.map_some, eq_comm, Option.map_eq_some_iff] at hi
  obtain ⟨s, hs, hnaming⟩ := hi
  exact ⟨s, hs, hnaming.symm⟩

theorem SameNaming.symm (h : c.SameNaming later) : later.SameNaming c := fun i => (h i).symm

theorem SameNaming.of_schemas_eq (h : later.schemas = c.schemas) : c.SameNaming later := by
  intro i
  rw [h]

theorem SameFrame.naming (h : c.SameFrame later) : c.SameNaming later := by
  have hframe : Schema.naming ∘ Schema.frame = Schema.naming := rfl
  intro i
  rw [← hframe, ← Option.map_map, ← Option.map_map, h i]

theorem SameNaming.modify {n : Nat} {f : Schema → Schema}
    (hf : ∀ s, (f s).naming = s.naming) : c.SameNaming (c.modify n f) := by
  intro i
  rw [schemas_modify]
  split
  · rw [Option.map_map]
    congr 1
    exact funext hf
  · rfl

theorem SameNaming.numbered (h : c.SameNaming later) (hc : c.Numbered) : later.Numbered := by
  intro i s' hs'
  obtain ⟨s, hs, hnaming⟩ := h.exists hs'
  exact (congrArg Prod.fst hnaming).trans (hc i s hs)

theorem SameNaming.homed (h : c.SameNaming later) (hc : c.Homed) : later.Homed := by
  intro i s' hs' r hr hkind
  obtain ⟨s, hs, hnaming⟩ := h.exists hs'
  have hkey : s'.key = s.key := congrArg (·.2.1) hnaming
  have hnames : s'.names = s.names := congrArg (·.2.2) hnaming
  rw [Schema.logicalNamespace, hkey]
  exact hc i s hs r (hnames ▸ hr) hkind

theorem SameNaming.registers (h : c.SameNaming later) (hid : later.Registers name id) :
    c.Registers name id := by
  obtain ⟨s', hs', hlookup⟩ := hid
  obtain ⟨s, hs, hnaming⟩ := h.exists hs'
  have hnumber : s'.number = s.number := congrArg Prod.fst hnaming
  have hnames : s'.names = s.names := congrArg (·.2.2) hnaming
  refine ⟨s, hs, ?_⟩
  rw [← hlookup, Schema.lookup?, Schema.lookup?, hnames, hnumber]

end SameNaming

section SameGraph

/-- Two collections have registered the same names, and their schemas refer to
the same ones. -/
def SameGraph (c later : Collection) : Prop :=
  ∀ i : Nat, (later.schemas[i]?).map (fun s => (s.naming, later.targets s)) =
    (c.schemas[i]?).map fun s => (s.naming, c.targets s)

theorem SameGraph.map_eq (h : c.SameGraph later) :
    later.schemas.map (fun s => (s.naming, later.targets s)) =
      c.schemas.map fun s => (s.naming, c.targets s) :=
  Array.ext_getElem? fun i => by rw [Array.getElem?_map, Array.getElem?_map, h i]

theorem SameGraph.size_eq (h : c.SameGraph later) : later.schemas.size = c.schemas.size := by
  simpa using congrArg Array.size h.map_eq

theorem SameGraph.startingPoints_eq (h : c.SameGraph later) (name : QName) :
    later.startingPoints name = c.startingPoints name := by
  have hpoints : ∀ d : Collection, d.startingPoints name =
      ((d.schemas.map fun s => (s.naming, d.targets s)).toList.filter
        (·.1.2.1.namespaceName == name.namespaceName)).map (·.1.1) := by
    intro d
    rw [startingPoints, Array.toList_map, List.filter_map, List.map_map]
    rfl
  rw [hpoints, hpoints, h.map_eq]

theorem SameGraph.search_eq (h : c.SameGraph later) (kind : ComponentKind) (name : QName)
    (fuel : Nat) : ∀ (path : List Nat) (n : Nat),
      later.search kind name fuel path n = c.search kind name fuel path n := by
  induction fuel with
  | zero => exact fun _ _ => rfl
  | succ fuel ih =>
      intro path n
      unfold search
      have hn := h n
      cases hs : c.schemas[n]? with
      | none =>
          rw [hs] at hn
          rw [Option.map_eq_none_iff.1 hn]
      | some s =>
          rw [hs, Option.map_some] at hn
          obtain ⟨t, ht, heq⟩ := Option.map_eq_some_iff.1 hn
          obtain ⟨hnaming, htargets⟩ := Prod.mk.inj heq
          have hnumber : t.number = s.number := congrArg Prod.fst hnaming
          have hnames : t.names = s.names := congrArg (·.2.2) hnaming
          have hlookup : t.lookup? kind name = s.lookup? kind name := by
            rw [Schema.lookup?, Schema.lookup?, hnames, hnumber]
          have hinner : later.search kind name fuel (n :: path) =
              c.search kind name fuel (n :: path) := funext fun m => ih (n :: path) m
          rw [ht]
          simp only [hlookup, htargets, hinner]

/-- Nothing but the registered names and the references matters to a search. -/
theorem SameGraph.find?_eq (h : c.SameGraph later) (kind : ComponentKind) (name : QName) :
    later.find? kind name = c.find? kind name := by
  have hsearch : later.search kind name (c.schemas.size + 1) [] =
      c.search kind name (c.schemas.size + 1) [] := funext fun m => h.search_eq kind name _ [] m
  rw [find?, find?, h.startingPoints_eq, h.size_eq, hsearch]

theorem SameFrame.graph (h : c.SameFrame later) (hknown : later.known = c.known) :
    c.SameGraph later := by
  have htarget : later.externalTarget? = c.externalTarget? := by
    funext e
    unfold externalTarget? known?
    rw [hknown]
  have hview : ∀ s : Schema, (s.naming, later.targets s) = (s.frame.naming, c.targets s.frame) := by
    intro s
    unfold targets
    rw [htarget]
    rfl
  intro i
  have hi := congrArg (Option.map fun s => (s.naming, c.targets s)) (h i)
  rw [Option.map_map, Option.map_map] at hi
  rw [funext hview]
  exact hi

end SameGraph

section Enroll

/-- A collection in which a component has been given its name. -/
def enroll (c : Collection) {kind : ComponentKind} (id : ComponentId kind) (name : QName) :
    Collection :=
  c.modify id.schema fun s => { s with names := s.names ++ [⟨kind, name, id.index⟩] }

theorem GrowsInPlace.enroll (id : ComponentId kind) (name : QName) :
    c.GrowsInPlace (c.enroll id name) :=
  .modify fun _ _ => ⟨rfl, .refl _, List.prefix_append _ _, List.prefix_refl _⟩

theorem components_enroll (id : ComponentId kind) (name : QName) (i : Nat) :
    (c.enroll id name).components i = c.components i := by
  refine components_modify_of_eq ?_ i
  exact fun _ => rfl

theorem enroll_registers (h : c.Numbered) {s : Schema} (hs : c.schemas[id.schema]? = some s)
    (hfree : s.lookup? kind name = none) : (c.enroll id name).Registers name id := by
  refine ⟨_, by rw [enroll, schemas_modify, if_pos rfl, hs, Option.map_some], ?_⟩
  rw [Schema.lookup?_register hfree, if_pos ⟨rfl, rfl⟩, h _ s hs]

theorem Homed.enroll (h : c.Homed) {s : Schema} (hs : c.schemas[id.schema]? = some s)
    (hname : kind = .type → name.namespaceName = s.logicalNamespace) :
    (c.enroll id name).Homed := by
  intro i t' ht' r hr hkind
  obtain ⟨t, ht, rfl⟩ := schemas_modify_some ht'
  split at hr
  · rename_i heq
    cases Option.some.inj (hs.symm.trans (heq ▸ ht))
    rw [if_pos heq]
    rcases List.mem_append.1 hr with hr | hr
    · exact h i s ht r hr hkind
    · rw [List.mem_singleton.1 hr] at hkind ⊢
      exact hname hkind
  · rename_i hne
    rw [if_neg hne]
    exact h i t ht r hr hkind

/-- A component with a new name can be registered. -/
theorem register_of_free {s : Schema} {x : kind.Component} {name : QName}
    (hs : c.schemas[id.schema]? = some s) (hx : s.get? id = some x)
    (hname : kind.nameOf x = some name) (hfree : s.lookup? kind name = none) :
    c.register id = .ok ((c.enroll id name).settle name id) := by
  unfold register
  simp only [hs, hx, Option.bind_some, hname, hfree]
  rfl

/-- What registering a component comes to. -/
theorem register_cases (h : c.register id = .ok later) :
    (c.schemas[id.schema]? = none ∧ later = c) ∨
      ∃ s x name, c.schemas[id.schema]? = some s ∧ s.get? id = some x ∧
        kind.nameOf x = some name ∧ s.lookup? kind name = none ∧
        later = (c.enroll id name).settle name id := by
  unfold register at h
  split at h
  · rename_i hs
    exact .inl ⟨hs, (Except.ok.inj h).symm⟩
  · rename_i s hs
    split at h
    · cases h
    · rename_i name hname
      obtain ⟨x, hx, hname⟩ := Option.bind_eq_some_iff.1 hname
      split at h
      · cases h
      · rename_i hfree
        exact .inr ⟨s, x, name, hs, hx, hname, by simpa using hfree, (Except.ok.inj h).symm⟩

end Enroll

end Collection

end XmlSchema
