import XmlSchema.Proofs.Collection.Search
import XmlSchema.Proofs.Resolution.Refusal

/-!
# What is registered and what is found

A schema registers a component under whatever name the component bears, and
goes on listing it there.  A search starts from the schemas of the namespace of
the name, so what is registered at home is found for ever, and what is
registered under a foreign name is found only along the references of these
schemas.  Declarations that wait for a type are given it wherever it is
registered; a declaration that comes later gets what the search finds.
-/

namespace XmlSchema.Collection

variable {c later : Collection} {n : Nat} {kind : ComponentKind} {x : kind.Component}
  {name : QName} {r : Receiver}

section Waiting

theorem slot?_fillAll (type : TypeId) (receivers : List Receiver) (c : Collection) :
    (receivers.foldl (fun c r => c.fill type r) c).slot? r =
      if r ∈ receivers then (c.slot? r).map (·.fill type) else c.slot? r := by
  have hfill : ∀ slot : TypeSlot, (slot.fill type).fill type = slot.fill type := by
    intro slot
    cases slot <;> rfl
  induction receivers generalizing c with
  | nil => rfl
  | cons first rest ih =>
      rw [List.foldl_cons, ih, slot?_fill]
      by_cases hr : r = first
      · subst hr
        rw [if_pos rfl, if_pos List.mem_cons_self]
        split
        · rw [Option.map_map]
          exact congrArg (Option.map · _) (funext hfill)
        · rfl
      · simp only [hr, if_false, List.mem_cons, false_or]

/-- To settle a type fills the slots of what waits for its name. -/
theorem slot?_settle (c : Collection) (name : QName) (id : TypeId) :
    (c.settle name id).slot? r =
      if r ∈ c.receivers name then (c.slot? r).map (·.fill id) else c.slot? r :=
  slot?_fillAll id (c.receivers name) { c with waiting := c.waiting.filter (·.1 != name) }

/-- The table holds a declaration as long as it is pending. -/
theorem Tallied.mem_waits_iff (h : c.Tallied []) :
    (name, r) ∈ c.waits ↔ c.typeSlot? r = some (.named name none) := by
  have hcount := h.count_eq name r
  rw [List.append_nil] at hcount
  rw [typeSlot?_eq h.numbered, ← List.count_pos_iff, hcount, pendingName?]
  simp only [Option.bind_eq_some_iff, TypeSlot.pending?_eq_some_iff, exists_eq_right]
  split <;> simp_all

/-- Everything that waits for the name of a type is given the type. -/
theorem Tallied.mem_receivers (h : c.Tallied [])
    (hr : c.typeSlot? r = some (.named name none)) : r ∈ c.receivers name := by
  have hperm : c.waits.Perm (waitsOf (c.waiting.filter (·.1 != name)) ++
      (c.receivers name).map (name, ·)) := perm_waitsOf_filter h.keys_nodup
  have hmem := hperm.mem_iff.1 (h.mem_waits_iff.2 hr)
  rcases List.mem_append.1 hmem with hrest | hmem
  · exact absurd rfl (mem_waitsOf_filter.1 hrest).1
  · obtain ⟨r', hr', heq⟩ := List.mem_map.1 hmem
    cases heq
    exact hr'

end Waiting

section Add

/-- A component that is added is allocated and listed. -/
theorem enlist_of_add {id : ComponentId kind} (h : (c.add n kind x).1 = .ok id) :
    id = (c.allocate n kind (kind.markTopLevel x)).1 ∧
      (c.allocate n kind (kind.markTopLevel x)).2.enlist id = .ok (c.add n kind x).2 := by
  unfold add at h ⊢
  dsimp only at h ⊢
  split at h
  · cases h
  · rename_i hlater
    cases h
    refine ⟨rfl, ?_⟩
    rw [hlater]

theorem nameOf_markTopLevel : kind.nameOf (kind.markTopLevel x) = kind.nameOf x := by
  cases kind <;> rfl

/-- A component that is added to a schema is registered there under its own
name, and what waits for the name is served. -/
theorem registers_of_add (h : c.Numbered) (hn : n < c.schemas.size) {id : ComponentId kind}
    (hadd : (c.add n kind x).1 = .ok id) :
    id.schema = n ∧ ∃ name, kind.nameOf x = some name ∧ (c.add n kind x).2.Registers name id ∧
      (c.add n kind x).2 = (((c.allocate n kind (kind.markTopLevel x)).2.enroll id name).settle
        name id).addItem id.schema (.component ⟨kind, id⟩) := by
  obtain ⟨hid, henlist⟩ := enlist_of_add hadd
  have hgrows := GrowsInPlace.allocate h n kind (kind.markTopLevel x)
  have hnumbered := hgrows.numbered h
  have hschema : id.schema = n := by
    rw [hid]
    exact schema_allocate h n _
  refine ⟨hschema, ?_⟩
  obtain ⟨c', hc', hlater⟩ := enlist_cases henlist
  rcases register_cases hc' with ⟨hnone, -⟩ | ⟨s, y, name, hs, hy, hname, hfree, rfl⟩
  · rw [hschema, Array.getElem?_eq_none_iff, hgrows.size_eq] at hnone
    omega
  · refine ⟨name, ?_, ?_, hlater⟩
    · rw [hschema] at hs
      obtain ⟨-, z, hz, hzx⟩ := get?_allocate h hs
      rw [← hid] at hz
      cases Option.some.inj (hy.symm.trans hz)
      rw [← nameOf_markTopLevel, ← ComponentKind.nameOf_congr hzx, hname]
    · rw [hlater]
      have hregisters := enroll_registers hnumbered hs hfree
      have hsettle := (GrowsInPlace.settle name id).grows.registers hregisters
      exact (GrowsInPlace.addItem _ _ _).grows.registers hsettle

/-- What waits for a type is given the type as soon as it is added. -/
theorem Tallied.typeSlot?_add (h : c.Tallied []) (hn : n < c.schemas.size) {t : TypeDefinition}
    {id : TypeId} (hadd : (c.add n .type t).1 = .ok id)
    (hr : c.typeSlot? r = some (.named name none)) (hname : t.name = some name) :
    (c.add n .type t).2.typeSlot? r = some (.named name (some id)) := by
  obtain ⟨-, name', hname', -, heq⟩ := registers_of_add h.numbered hn hadd
  cases hname.symm.trans hname'
  have hnumbered : (c.add n .type t).2.Numbered :=
    (GrowsInPlace.add h.numbered n .type t).numbered h.numbered
  rw [typeSlot?_eq hnumbered, heq]
  have hmem := h.mem_receivers hr
  rw [typeSlot?_eq h.numbered] at hr
  have halloc := slot?_allocate h.numbered n (ComponentKind.type.markTopLevel t) hr
  have hwaiting := waiting_allocate h.numbered hn (ComponentKind.type.markTopLevel t)
  rw [ComponentId.newcomer?_of_none _ rfl] at hwaiting
  generalize (c.allocate n .type (ComponentKind.type.markTopLevel t)).2 = c' at halloc hwaiting ⊢
  have hreceivers : (c'.enroll id name).receivers name = c.receivers name := by
    have henroll : (c'.enroll id name).waiting = c'.waiting := rfl
    rw [receivers, henroll, hwaiting, receivers]
  have henroll : (c'.enroll id name).slot? r = c'.slot? r := by
    rw [slot?, components_enroll, slot?]
  rw [slot?, components_addItem, ← slot?, slot?_settle, hreceivers, if_pos hmem, henroll, halloc]
  rfl

/-- A declaration that is allocated takes the type that its name finds. -/
theorem slot?_allocate_of_pending (h : c.Numbered) (hn : n < c.schemas.size)
    (hr : (⟨n, (c.components n).count kind⟩ : ComponentId kind).receiver? = some r)
    (hx : kind.slot? x = some (.named name none)) :
    (c.allocate n kind x).2.slot? r = some (.named name (c.find? .type name)) := by
  have hnew : (⟨n, (c.components n).count kind⟩ : ComponentId kind).newcomer? x =
      some (name, r) := ComponentId.newcomer?_eq_some_iff.2 ⟨hr, by rw [hx]; rfl⟩
  have hplace := slot?_place hn kind x r
  rw [if_pos hr, hx] at hplace
  have hgraph : c.SameGraph (c.furnish n ((c.components n).push kind x)) :=
    (SameFrame.furnish n _).graph rfl
  rw [allocate_eq h hn, hnew, ← hgraph.find?_eq]
  show (attach _ name r).slot? r = _
  unfold attach
  split
  · rename_i hfound
    rw [slot?_fill, if_pos rfl, hplace, hfound]
    rfl
  · rename_i hnone
    rw [hnone]
    exact hplace

/-- To list a declaration changes no slots. -/
theorem slot?_enlist {kind : ComponentKind} {id : ComponentId kind} (h : c.enlist id = .ok later)
    (hkind : kind ≠ .type) : later.slot? r = c.slot? r := by
  obtain ⟨c', hc', rfl⟩ := enlist_cases h
  rw [slot?, components_addItem, ← slot?]
  rcases register_cases hc' with ⟨-, rfl⟩ | ⟨s, y, fresh, -, -, -, -, rfl⟩
  · rfl
  · have henroll : (c.enroll id fresh).slot? r = c.slot? r := by
      rw [slot?, components_enroll, slot?]
    cases kind with
    | type => exact absurd rfl hkind
    | _ => exact henroll

/-- A declaration that is added takes the type that its name finds, whether or
not it can be listed. -/
theorem typeSlot?_of_pending (h : c.Numbered) (hn : n < c.schemas.size)
    (hr : (⟨n, (c.components n).count kind⟩ : ComponentId kind).receiver? = some r)
    (hx : kind.slot? x = some (.named name none)) :
    (c.allocate n kind x).2.typeSlot? r = some (.named name (c.find? .type name)) ∧
      (c.add n kind x).2.typeSlot? r = some (.named name (c.find? .type name)) := by
  have hmark : kind.slot? (kind.markTopLevel x) = some (.named name none) := by
    rw [← hx]
    cases kind <;> rfl
  have hallocate := slot?_allocate_of_pending h hn hr hmark
  refine ⟨?_, ?_⟩
  · rw [typeSlot?_eq ((GrowsInPlace.allocate h n kind x).numbered h)]
    exact slot?_allocate_of_pending h hn hr hx
  · rw [typeSlot?_eq ((GrowsInPlace.add h n kind x).numbered h)]
    rcases c.add_cases n kind x with ⟨-, heq⟩ | ⟨later, hlater, heq⟩
    · rw [heq, hallocate]
    · have hkind : kind ≠ .type := by
        rintro rfl
        cases hx
      rw [heq, slot?_enlist hlater hkind, hallocate]

end Add

/-- What a collection says of a name under which some schema, known by its
namespace, has registered a component. -/
structure Files (c : Collection) (home : String) (name : QName) (id : ComponentId kind) :
    Prop where
  registers : c.Registers name id
  find_iff : (c.find? kind name).isSome ↔
    ∃ m s, c.Reaches name m ∧ c.schemas[m]? = some s ∧ (s.lookup? kind name).isSome
  find_home : name.namespaceName = home → (c.find? kind name).isSome

/-- What becomes of the declarations that name a type, when a schema has
registered one under that name in the meantime: those that were waiting have
it, and none has found anything but a type of that name.  A later declaration
takes what is found at that moment. -/
structure Serves (c later : Collection) (home : String) (name : QName) (id : TypeId) : Prop where
  before : ∀ r resolved, c.typeSlot? r = some (.named name resolved) →
    later.typeSlot? r = some (.named name (some (resolved.getD id)))
  found : ∀ r type, later.typeSlot? r = some (.named name (some type)) → later.Registers name type
  waits_iff : ∀ r, (name, r) ∈ later.waits ↔ later.typeSlot? r = some (.named name none)
  served_home : name.namespaceName = home →
    ∀ r resolved, later.typeSlot? r = some (.named name resolved) → resolved.isSome
  afterwards : ∀ (n : Nat) (kind : ComponentKind) (x : kind.Component) (r : Receiver),
    n < later.schemas.size → kind.slot? x = some (.named name none) →
    (⟨n, (later.components n).count kind⟩ : ComponentId kind).receiver? = some r →
    (later.allocate n kind x).2.typeSlot? r = some (.named name (later.find? .type name)) ∧
      (later.add n kind x).2.typeSlot? r = some (.named name (later.find? .type name))

theorem Reachable.performAll {allowed : Collection → Operation → Prop} (h : c.Reachable allowed)
    {ops : List Operation} (hops : ∀ op ∈ ops, ∀ c, allowed c op) :
    (c.performAll ops).Reachable allowed := by
  induction ops generalizing c with
  | nil => exact h
  | cons op rest ih =>
      exact ih (.perform h op (hops op List.mem_cons_self c)) fun op hop =>
        hops op (List.mem_cons_of_mem _ hop)

/-- A type that has been found stays where it is. -/
theorem Continues.typeSlot? (h : c.Continues later) (hc : c.Numbered) (hlater : later.Numbered)
    {type : TypeId} (hr : c.typeSlot? r = some (.named name (some type))) :
    later.typeSlot? r = some (.named name (some type)) := by
  rw [typeSlot?_eq hc] at hr
  obtain ⟨slot, hslot, hsettles⟩ := h.attaches.slots r _ hr
  cases hsettles
  rw [typeSlot?_eq hlater, hslot]

/-- A component that has been added stays registered, and is found whenever the
search comes to a schema that has registered its name; it does so for ever if
the name is of the namespace of its schema.  A type is given to every
declaration that is waiting for it, whatever namespace its name is of, and
later declarations take what is found. -/
theorem Reachable.add_files (h : c.Reachable fun _ op => op.Unresolved) {s : Schema}
    (hs : c.schemas[n]? = some s) (hx : kind.unresolved x = x) {id : ComponentId kind}
    (hadd : (c.add n kind x).1 = .ok id) (ops : List Operation)
    (hops : ∀ op ∈ ops, op.Unresolved) :
    ∃ name, kind.nameOf x = some name ∧
      ((c.perform (.add n kind x)).performAll ops).Files s.logicalNamespace name id ∧
      ∀ type : TypeId, (⟨kind, id⟩ : ComponentRef) = ⟨.type, type⟩ →
        c.Serves ((c.perform (.add n kind x)).performAll ops) s.logicalNamespace name type := by
  have hn : n < c.schemas.size := (Array.getElem?_eq_some_iff.1 hs).1
  have hc := h.tallied fun _ _ hop => hop
  have hadded : (c.perform (.add n kind x)).Reachable fun _ op => op.Unresolved :=
    .perform h _ hx
  obtain ⟨hschema, name, hname, hregisters, -⟩ := registers_of_add hc.numbered hn hadd
  obtain ⟨-, hcontinues⟩ := hadded.any.continues ops
  have hlater := (hadded.performAll fun op hop _ => hops op hop).tallied fun _ _ hop => hop
  have hwhole : c.Continues ((c.perform (.add n kind x)).performAll ops) :=
    (h.any.continues (.add n kind x :: ops)).2
  replace hregisters := hcontinues.grows.registers hregisters
  generalize hdone : (c.perform (.add n kind x)).performAll ops = later at *
  -- the schema that has registered the name is still of its namespace
  have ⟨t, ht, hlookup⟩ := hregisters
  have hspace : t.logicalNamespace = s.logicalNamespace := by
    obtain ⟨t', ht', hst⟩ := hwhole.grows n s hs
    rw [hschema] at ht
    cases Option.some.inj (ht.symm.trans ht')
    rw [Schema.logicalNamespace, hst.key_eq]
    rfl
  refine ⟨name, hname, ⟨hregisters, find?_isSome_iff hlater.numbered, fun hhome => ?_⟩,
    fun type htype => ?_⟩
  · exact find?_isSome hlater.numbered ht (hspace.trans hhome.symm) (by rw [hlookup]; rfl)
  · cases htype
    refine ⟨fun r resolved hr => ?_, fun r type hr => ?_, fun r => hlater.mem_waits_iff, ?_, ?_⟩
    · cases resolved with
      | some type => exact hwhole.typeSlot? hc.numbered hlater.numbered hr
      | none =>
          exact hcontinues.typeSlot? hadded.keyed.numbered hlater.numbered
            (hc.typeSlot?_add hn hadd hr hname)
    · exact hlater.resolved r name type (typeSlot?_eq hlater.numbered r ▸ hr)
    · intro hhome r resolved hr
      cases resolved with
      | some type => rfl
      | none =>
          have hvacant := hlater.vacant name r (hlater.mem_waits_iff.2 hr)
          rw [hvacant _ t ht (hspace.trans hhome.symm)] at hlookup
          cases hlookup
    · intro m kind' y r hm hy hr
      exact typeSlot?_of_pending hlater.numbered hm hr hy

/-- A schema with an element that names a type of a foreign namespace. -/
def foreignReference : Collection :=
  (Collection.empty.perform (.addSchema ⟨"urn:a", "a.xsd"⟩ (some "urn:a"))).perform
    (.add 1 .element { name := some ⟨"urn:a", "e"⟩, type := .named ⟨"urn:b", "T"⟩ none })

/-- The type, which the schema itself defines. -/
def foreignType : TypeDefinition := { name := some ⟨"urn:b", "T"⟩, body := .simple .unspecified }

/-- One more element that names the type. -/
def furtherReference : ElementDecl :=
  { name := some ⟨"urn:a", "f"⟩, type := .named ⟨"urn:b", "T"⟩ none }

/-- The first element gets the type; the second one, which comes after the type,
waits for it in vain, for no schema is of the namespace. -/
theorem add_files_foreignReference :
    foreignReference.Reachable (fun _ op => op.Unresolved) ∧
      (foreignReference.add 1 .type foreignType).1 = .ok ⟨1, 0⟩ ∧
      let later := (foreignReference.perform (.add 1 .type foreignType)).performAll
        [.add 1 .element furtherReference]
      later.Registers ⟨"urn:b", "T"⟩ (⟨1, 0⟩ : TypeId) ∧
      later.find? .type ⟨"urn:b", "T"⟩ = none ∧
      later.typeSlot? (.element ⟨1, 0⟩) = some (.named ⟨"urn:b", "T"⟩ (some ⟨1, 0⟩)) ∧
      later.typeSlot? (.element ⟨1, 1⟩) = some (.named ⟨"urn:b", "T"⟩ none) ∧
      (⟨"urn:b", "T"⟩, .element ⟨1, 1⟩) ∈ later.waits := by
  have hreach : foreignReference.Reachable fun _ op => op.Unresolved :=
    .perform (.perform .empty _ trivial) _ rfl
  have hadd : (foreignReference.add 1 .type foreignType).1 = .ok ⟨1, 0⟩ := by rfl
  obtain ⟨name, hname, hfiles, hserves⟩ := hreach.add_files (n := 1) rfl rfl hadd
    [.add 1 .element furtherReference] (fun op hop => by
      cases List.mem_singleton.1 hop
      rfl)
  cases hname
  have hserved := hserves ⟨1, 0⟩ rfl
  have hpending : ((foreignReference.perform (.add 1 .type foreignType)).performAll
      [.add 1 .element furtherReference]).typeSlot? (.element ⟨1, 1⟩) =
        some (.named ⟨"urn:b", "T"⟩ none) := by decide +kernel
  exact ⟨hreach, hadd, hfiles.registers, by decide +kernel,
    hserved.before _ none (by decide +kernel), hpending, (hserved.waits_iff _).2 hpending⟩

end XmlSchema.Collection
