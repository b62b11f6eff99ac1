import XmlSchema.Proofs.Collection.Naming

/-!
# The type slots of declarations

What adding components and giving types to declarations do to the slots of all
declarations of a collection.  Everything else that a collection does leaves
the slots alone.

Giving types to declarations changes nothing but the slots in which they are
found.  What else a schema is made of, and how many components it has, stays.
-/

namespace XmlSchema

/-- The schema of a declaration that may wait for a type. -/
def Receiver.schema : Receiver → Nat
  | element id => id.schema
  | .attribute id => id.schema

/-- The type slot of a component, if it is a declaration. -/
def ComponentKind.slot? : (kind : ComponentKind) → kind.Component → Option TypeSlot
  | .element, e => some e.type
  | .attribute, a => some a.type
  | _, _ => none

theorem ComponentKind.pending?_eq (kind : ComponentKind) (x : kind.Component) :
    kind.pending? x = (kind.slot? x).bind TypeSlot.pending? := by
  cases kind <;> rfl

/-- The type of a declaration is not found before it is supplied. -/
theorem ComponentKind.slot?_of_unresolved {kind : ComponentKind} {x : kind.Component}
    (h : kind.unresolved x = x) (name : QName) (id : TypeId) :
    kind.slot? x ≠ some (.named name (some id)) := by
  intro hslot
  cases kind with
  | element =>
      have htype : (show ElementDecl from x).type.unresolved = (show ElementDecl from x).type :=
        congrArg ElementDecl.type h
      rw [Option.some.inj hslot] at htype
      cases htype
  | «attribute» =>
      have htype : (show AttributeDecl from x).type.unresolved =
          (show AttributeDecl from x).type := congrArg AttributeDecl.type h
      rw [Option.some.inj hslot] at htype
      cases htype
  | _ => cases hslot

/-- A new declaration that has to be attached, with the name of its type. -/
def ComponentId.newcomer? {kind : ComponentKind} (id : ComponentId kind) (x : kind.Component) :
    Option (QName × Receiver) :=
  match kind.pending? x, id.receiver? with
  | some name, some r => some (name, r)
  | _, _ => none

theorem TypeSlot.pending?_eq_some_iff {slot : TypeSlot} {name : QName} :
    slot.pending? = some name ↔ slot = .named name none := by
  cases slot with
  | named n resolved => cases resolved <;> simp [pending?]
  | _ => simp [pending?]

theorem ComponentId.newcomer?_eq_some_iff {kind : ComponentKind} {id : ComponentId kind}
    {x : kind.Component} {name : QName} {r : Receiver} :
    id.newcomer? x = some (name, r) ↔
      id.receiver? = some r ∧ (kind.slot? x).bind TypeSlot.pending? = some name := by
  unfold newcomer?
  rw [ComponentKind.pending?_eq]
  cases (kind.slot? x).bind TypeSlot.pending? <;> cases id.receiver? <;>
    simp [and_comm]

namespace Components

/-- The type slot of a declaration. -/
def slot? (cs : Components) : Receiver → Option TypeSlot
  | .element id => (cs.get? id).map ElementDecl.type
  | .attribute id => (cs.get? id).map AttributeDecl.type

/-- Give a declaration its type. -/
def fill (type : TypeId) (cs : Components) : Receiver → Components
  | .element id =>
      { cs with elements := cs.elements.modify id.index fun e =>
          { e with type := e.type.fill type } }
  | .attribute id =>
      { cs with attributes := cs.attributes.modify id.index fun a =>
          { a with type := a.type.fill type } }

variable (cs : Components) {type : TypeId} {r r' : Receiver}

theorem slot?_fill (h : r'.schema = r.schema) :
    (cs.fill type r).slot? r' =
      if r' = r then (cs.slot? r').map (·.fill type) else cs.slot? r' := by
  cases r with
  | element id =>
      cases r' with
      | element id' =>
          have hid : id.index = id'.index ↔ Receiver.element id' = .element id := by
            obtain ⟨n, i⟩ := id
            obtain ⟨n', i'⟩ := id'
            cases (show n' = n from h)
            simp [eq_comm]
          simp only [slot?, get?, fill, ofKind, Array.getElem?_modify, hid]
          split
          · simp only [Option.map_map]
            rfl
          · rfl
      | «attribute» id' => rfl
  | «attribute» id =>
      cases r' with
      | element id' => rfl
      | «attribute» id' =>
          have hid : id.index = id'.index ↔ Receiver.attribute id' = .attribute id := by
            obtain ⟨n, i⟩ := id
            obtain ⟨n', i'⟩ := id'
            cases (show n' = n from h)
            simp [eq_comm]
          simp only [slot?, get?, fill, ofKind, Array.getElem?_modify, hid]
          split
          · simp only [Option.map_map]
            rfl
          · rfl

/-- Giving a type to a declaration only finds a type. -/
theorem extends_fill (type : TypeId) (r : Receiver) : cs.Extends (cs.fill type r) := by
  intro kind i x hx
  cases r with
  | element id =>
      cases kind with
      | element =>
          simp only [fill, ofKind, Array.getElem?_modify] at hx ⊢
          split
          · refine ⟨{ x with type := TypeSlot.fill (ElementDecl.type x) type }, by rw [hx]; rfl, ?_⟩
            simp [ComponentKind.unresolved]
          · exact ⟨x, hx, rfl⟩
      | _ => exact ⟨x, hx, rfl⟩
  | «attribute» id =>
      cases kind with
      | «attribute» =>
          simp only [fill, ofKind, Array.getElem?_modify] at hx ⊢
          split
          · refine ⟨{ x with type := TypeSlot.fill (AttributeDecl.type x) type }, by rw [hx]; rfl,
              ?_⟩
            simp [ComponentKind.unresolved]
          · exact ⟨x, hx, rfl⟩
      | _ => exact ⟨x, hx, rfl⟩

theorem slot?_push (kind : ComponentKind) (x : kind.Component) :
    (cs.push kind x).slot? r =
      if (⟨r.schema, cs.count kind⟩ : ComponentId kind).receiver? = some r then kind.slot? x
      else cs.slot? r := by
  cases kind with
  | element =>
      cases r with
      | element id =>
          obtain ⟨n, i⟩ := id
          simp only [slot?, get?, push, ofKind, count, Array.getElem?_push,
            ComponentId.receiver?, Receiver.schema, Option.some.injEq, Receiver.element.injEq,
            ComponentId.mk.injEq, true_and]
          split
          · rename_i h
            rw [if_pos h.symm]
            rfl
          · rename_i h
            rw [if_neg fun h' => h h'.symm]
      | «attribute» id => rfl
  | «attribute» =>
      cases r with
      | element id => rfl
      | «attribute» id =>
          obtain ⟨n, i⟩ := id
          simp only [slot?, get?, push, ofKind, count, Array.getElem?_push,
            ComponentId.receiver?, Receiver.schema, Option.some.injEq, Receiver.attribute.injEq,
            ComponentId.mk.injEq, true_and]
          split
          · rename_i h
            rw [if_pos h.symm]
            rfl
          · rename_i h
            rw [if_neg fun h' => h h'.symm]
  | _ =>
      rw [if_neg (by simp [ComponentId.receiver?])]
      cases r <;> rfl

theorem slot?_count {kind : ComponentKind}
    (h : (⟨r.schema, cs.count kind⟩ : ComponentId kind).receiver? = some r) :
    cs.slot? r = none := by
  cases kind with
  | element =>
      rw [← Option.some.inj h]
      simp [slot?, get?, ofKind, count]
  | «attribute» =>
      rw [← Option.some.inj h]
      simp [slot?, get?, ofKind, count]
  | _ => cases h

end Components

namespace Collection

variable {c : Collection} {r : Receiver}

/-- The type slot of a declaration. -/
def slot? (c : Collection) (r : Receiver) : Option TypeSlot :=
  (c.components r.schema).slot? r

/-- The name of the type that a declaration still looks for. -/
def pendingName? (c : Collection) (r : Receiver) : Option QName :=
  (c.slot? r).bind TypeSlot.pending?

/-- Exchange the components of a schema. -/
def furnish (c : Collection) (n : Nat) (cs : Components) : Collection :=
  c.modify n fun s => { s with components := cs }

theorem fill_eq (c : Collection) (type : TypeId) (r : Receiver) :
    c.fill type r =
      c.modify r.schema fun s => { s with components := s.components.fill type r } := by
  cases r <;> rfl

theorem components_furnish {n : Nat} {cs : Components} (hn : n < c.schemas.size) (i : Nat) :
    (c.furnish n cs).components i = if n = i then cs else c.components i := by
  rw [furnish, components_modify]
  by_cases h : n = i
  · subst h
    rw [if_pos rfl, if_pos rfl, Array.getElem?_eq_getElem hn]
    rfl
  · rw [if_neg h, if_neg h]

theorem slot?_furnish {n : Nat} {cs : Components} (hn : n < c.schemas.size) :
    (c.furnish n cs).slot? r = if r.schema = n then cs.slot? r else c.slot? r := by
  unfold slot?
  rw [components_furnish hn]
  by_cases h : r.schema = n
  · rw [if_pos h, if_pos h.symm]
  · rw [if_neg h, if_neg fun h' => h h'.symm]

theorem slot?_eq_none (h : c.schemas.size ≤ r.schema) : c.slot? r = none := by
  unfold slot? components
  rw [Array.getElem?_eq_none h]
  cases r <;> rfl

theorem slot?_fill (type : TypeId) (r r' : Receiver) :
    (c.fill type r).slot? r' =
      if r' = r then (c.slot? r').map (·.fill type) else c.slot? r' := by
  rw [fill_eq]
  unfold slot?
  rw [components_modify]
  by_cases hs : r.schema = r'.schema
  · rw [if_pos hs]
    unfold components
    cases hget : c.schemas[r'.schema]? with
    | none => cases r' <;> simp [Components.slot?, Components.get?, Components.ofKind]
    | some s => exact s.components.slot?_fill hs.symm
  · rw [if_neg hs, if_neg fun h : r' = r => hs (h ▸ rfl)]

section Place

variable {n : Nat} {kind : ComponentKind}

/-- A component that is to be added has no slot yet. -/
theorem slot?_eq_none_of_fresh
    (h : (⟨n, (c.components n).count kind⟩ : ComponentId kind).receiver? = some r) :
    c.slot? r = none := by
  have hschema : r.schema = n := by cases kind <;> cases h <;> rfl
  subst hschema
  exact Components.slot?_count _ h

/-- A component that is added brings its own slot and leaves the others. -/
theorem slot?_place (hn : n < c.schemas.size) (kind : ComponentKind) (x : kind.Component)
    (r : Receiver) :
    (c.furnish n ((c.components n).push kind x)).slot? r =
      if (⟨n, (c.components n).count kind⟩ : ComponentId kind).receiver? = some r then
        kind.slot? x
      else c.slot? r := by
  rw [slot?_furnish hn, Components.slot?_push]
  by_cases hr : r.schema = n
  · subst hr
    rw [if_pos rfl]
    rfl
  · rw [if_neg hr, if_neg fun hid => hr ?_]
    cases kind <;> cases hid <;> rfl

end Place

section SameFrame

theorem SameFrame.furnish (n : Nat) (cs : Components) : c.SameFrame (c.furnish n cs) := by
  refine .modify ?_
  exact fun _ => rfl

theorem SameFrame.fill (type : TypeId) (r : Receiver) : c.SameFrame (c.fill type r) := by
  rw [fill_eq]
  exact .modify fun _ => rfl

theorem SameFrame.attach (name : QName) (r : Receiver) : c.SameFrame (c.attach name r) := by
  unfold Collection.attach
  split
  · exact .fill _ r
  · exact .of_schemas_eq rfl

theorem SameFrame.attachAll (entries : List (QName × Receiver)) :
    c.SameFrame (entries.foldl (fun c p => c.attach p.1 p.2) c) := by
  induction entries generalizing c with
  | nil => exact .refl c
  | cons entry rest ih => exact (SameFrame.attach entry.1 entry.2).trans ih

theorem SameFrame.settle (name : QName) {kind : ComponentKind} (id : ComponentId kind) :
    c.SameFrame (c.settle name id) := by
  have hfill : ∀ (receivers : List Receiver) (c : Collection) (type : TypeId),
      c.SameFrame (receivers.foldl (fun c r => c.fill type r) c) := by
    intro receivers
    induction receivers with
    | nil => exact fun c _ => .refl c
    | cons r rest ih => exact fun c type => (SameFrame.fill type r).trans (ih _ type)
  cases kind with
  | type =>
      have hfilter : c.SameFrame { c with waiting := c.waiting.filter (·.1 != name) } :=
        .of_schemas_eq rfl
      exact hfilter.trans (hfill _ _ id)
  | _ => exact .refl c

end SameFrame

section SameCounts

/-- Two collections have equally many components of each kind in each schema. -/
def SameCounts (c later : Collection) : Prop :=
  ∀ (n : Nat) (kind : ComponentKind), (later.components n).count kind = (c.components n).count kind

theorem SameCounts.of_components {later : Collection}
    (h : ∀ n, later.components n = c.components n) : c.SameCounts later := by
  intro n kind
  rw [h]

theorem SameCounts.trans {c' later : Collection} (h : c.SameCounts c')
    (h' : c'.SameCounts later) : c.SameCounts later :=
  fun n kind => (h' n kind).trans (h n kind)

theorem SameCounts.fill (type : TypeId) (r : Receiver) : c.SameCounts (c.fill type r) := by
  intro n kind
  rw [fill_eq, components_modify]
  split
  · rename_i hn
    subst hn
    unfold components
    cases c.schemas[r.schema]? with
    | none => rfl
    | some s =>
        cases r <;> cases kind <;>
          simp [Components.count, Components.ofKind, Components.fill]
  · rfl

theorem SameCounts.attachAll (entries : List (QName × Receiver)) :
    c.SameCounts (entries.foldl (fun c p => c.attach p.1 p.2) c) := by
  induction entries generalizing c with
  | nil => exact .of_components fun _ => rfl
  | cons entry rest ih =>
      have hattach : c.SameCounts (c.attach entry.1 entry.2) := by
        unfold Collection.attach
        split
        · exact .fill _ _
        · exact .of_components fun _ => rfl
      exact hattach.trans ih

theorem SameCounts.settle (name : QName) {kind : ComponentKind} (id : ComponentId kind) :
    c.SameCounts (c.settle name id) := by
  have hfill : ∀ (receivers : List Receiver) (c : Collection) (type : TypeId),
      c.SameCounts (receivers.foldl (fun c r => c.fill type r) c) := by
    intro receivers
    induction receivers with
    | nil => exact fun c _ => .of_components fun _ => rfl
    | cons r rest ih => exact fun c type => (SameCounts.fill type r).trans (ih _ type)
  cases kind with
  | type =>
      have hfilter : c.SameCounts { c with waiting := c.waiting.filter (·.1 != name) } :=
        .of_components fun _ => rfl
      exact hfilter.trans (hfill _ _ id)
  | _ => exact .of_components fun _ => rfl

end SameCounts

section Growth

theorem GrowsInPlace.fill (type : TypeId) (r : Receiver) : c.GrowsInPlace (c.fill type r) := by
  rw [fill_eq]
  exact .modify fun s _ => .of_components s (s.components.extends_fill type r)

theorem Grows.fill (type : TypeId) (r : Receiver) : c.Grows (c.fill type r) :=
  (GrowsInPlace.fill type r).grows

theorem GrowsInPlace.attach (name : QName) (r : Receiver) :
    c.GrowsInPlace (c.attach name r) := by
  unfold Collection.attach
  split
  · exact .fill _ r
  · exact .of_schemas_eq rfl

theorem GrowsInPlace.attachAll (entries : List (QName × Receiver)) :
    c.GrowsInPlace (entries.foldl (fun c p => c.attach p.1 p.2) c) := by
  induction entries generalizing c with
  | nil => exact .refl c
  | cons entry rest ih => exact (GrowsInPlace.attach entry.1 entry.2).trans ih

theorem GrowsInPlace.fillAll (type : TypeId) (receivers : List Receiver) :
    c.GrowsInPlace (receivers.foldl (fun c r => c.fill type r) c) := by
  induction receivers generalizing c with
  | nil => exact .refl c
  | cons r rest ih => exact (GrowsInPlace.fill type r).trans ih

theorem GrowsInPlace.settle (name : QName) {kind : ComponentKind} (id : ComponentId kind) :
    c.GrowsInPlace (c.settle name id) := by
  cases kind with
  | type =>
      have hfilter : c.GrowsInPlace { c with waiting := c.waiting.filter (·.1 != name) } :=
        .of_schemas_eq rfl
      exact hfilter.trans (.fillAll id _)
  | _ => exact .refl c

theorem GrowsInPlace.register {later : Collection} {kind : ComponentKind}
    {id : ComponentId kind} (h : c.register id = .ok later) : c.GrowsInPlace later := by
  rcases register_cases h with ⟨-, rfl⟩ | ⟨s, x, name, -, -, -, -, rfl⟩
  · exact .refl _
  · exact (GrowsInPlace.enroll id name).trans (.settle name id)

/-- Listing a component is registering it and appending an item. -/
theorem enlist_cases {later : Collection} {kind : ComponentKind} {id : ComponentId kind}
    (h : c.enlist id = .ok later) :
    ∃ c', c.register id = .ok c' ∧ later = c'.addItem id.schema (.component ⟨kind, id⟩) := by
  unfold enlist at h
  cases hc : c.register id with
  | error e =>
      rw [hc] at h
      cases h
  | ok c' =>
      rw [hc] at h
      exact ⟨c', rfl, (Except.ok.inj h).symm⟩

/-- Adding a component is allocating it and, unless this fails, listing it. -/
theorem add_cases (c : Collection) (n : Nat) (kind : ComponentKind) (x : kind.Component) :
    ((∃ e, (c.add n kind x).1 = .error e) ∧
        (c.add n kind x).2 = (c.allocate n kind (kind.markTopLevel x)).2) ∨
      ∃ later, (c.allocate n kind (kind.markTopLevel x)).2.enlist
          (c.allocate n kind (kind.markTopLevel x)).1 = .ok later ∧
        (c.add n kind x).2 = later := by
  unfold add
  dsimp only
  split
  · exact .inl ⟨⟨_, rfl⟩, rfl⟩
  · exact .inr ⟨_, ‹_›, rfl⟩

theorem GrowsInPlace.enlist {later : Collection} {kind : ComponentKind}
    {id : ComponentId kind} (h : c.enlist id = .ok later) : c.GrowsInPlace later := by
  obtain ⟨c', hc', rfl⟩ := enlist_cases h
  exact (GrowsInPlace.register hc').trans (.addItem _ _ _)

end Growth

end Collection

end XmlSchema

namespace XmlSchema

/-- Two tables have the same components, types aside that have been found. -/
def Components.Alike (cs later : Components) : Prop :=
  ∀ kind, (later.ofKind kind).map kind.unresolved = (cs.ofKind kind).map kind.unresolved

theorem Components.Extends.alike {cs later : Components} (h : cs.Extends later)
    (hcount : ∀ kind, later.count kind = cs.count kind) : cs.Alike later := by
  intro kind
  refine Array.ext_getElem? fun i => ?_
  rw [Array.getElem?_map, Array.getElem?_map]
  cases hx : (cs.ofKind kind)[i]? with
  | none =>
      have hi : (later.ofKind kind).size ≤ i := by
        have hle := Array.getElem?_eq_none_iff.1 hx
        have hsize := hcount kind
        unfold Components.count at hsize
        omega
      rw [Array.getElem?_eq_none hi]
  | some x =>
      obtain ⟨y, hy, hyx⟩ := h kind i x hx
      rw [hy, Option.map_some, Option.map_some, hyx]

namespace Collection

variable {c later : Collection}

/-- Nothing but types has been found, as far as schemas are concerned. -/
structure FindsTypes (c later : Collection) : Prop where
  frame : c.SameFrame later
  components : ∀ n, (c.components n).Alike (later.components n)

namespace FindsTypes

theorem of_grows (hframe : c.SameFrame later) (hgrows : c.GrowsInPlace later)
    (hcounts : c.SameCounts later) : c.FindsTypes later :=
  ⟨hframe, fun n => (hgrows.grows.components n).alike (hcounts n)⟩

theorem attachAll (entries : List (QName × Receiver)) :
    c.FindsTypes (entries.foldl (fun c p => c.attach p.1 p.2) c) :=
  .of_grows (.attachAll entries) (.attachAll entries) (.attachAll entries)

theorem settle (name : QName) {kind : ComponentKind} (id : ComponentId kind) :
    c.FindsTypes (c.settle name id) :=
  .of_grows (.settle name id) (.settle name id) (.settle name id)

/-- A schema is still there. -/
theorem exists_later (h : c.FindsTypes later) {i : Nat} {s : Schema}
    (hs : c.schemas[i]? = some s) :
    ∃ s', later.schemas[i]? = some s' ∧ s'.frame = s.frame ∧ s.components.Alike s'.components := by
  have hframe := h.frame i
  rw [hs, Option.map_some, Option.map_eq_some_iff] at hframe
  obtain ⟨s', hs', hframe⟩ := hframe
  refine ⟨s', hs', hframe, ?_⟩
  have hcs := h.components i
  unfold Collection.components at hcs
  rw [hs, hs'] at hcs
  exact hcs

end FindsTypes

end Collection

end XmlSchema
