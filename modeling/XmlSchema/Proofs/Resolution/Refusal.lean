import XmlSchema.Proofs.Collection.Views
import XmlSchema.Proofs.Resolution.Permanence
import XmlSchema.Proofs.Resolution.Registry

/-!
# Components that are refused

A top-level component is owned before it is registered.  When its registration
fails, no schema lists or names it, whatever is found is found as before, and
no identity denotes anything else.  What is left of it is one entry in the table
of waiting declarations, if it names a type that is not there yet.
-/

namespace XmlSchema

/-- Two components that differ in nothing but what their slots have found are
the same when their slots are. -/
theorem ComponentKind.eq_of_unresolved {kind : ComponentKind} {x y : kind.Component}
    (h : kind.unresolved y = kind.unresolved x)
    (hslot : ∀ slot, kind.slot? x = some slot → kind.slot? y = some slot) : y = x := by
  have hsettles : kind.Settles x y :=
    kind.settles_of_unresolved h fun slot hx => ⟨slot, hslot slot hx, .same slot⟩
  cases kind with
  | element | «attribute» =>
      obtain ⟨slot, -, rfl⟩ := hsettles
      cases hslot _ rfl
      rfl
  | _ => exact hsettles

/-- Whether a declaration is global does not matter to the type that it waits
for. -/
theorem ComponentId.newcomer?_markTopLevel {kind : ComponentKind} (id : ComponentId kind)
    (x : kind.Component) : id.newcomer? (kind.markTopLevel x) = id.newcomer? x := by
  cases kind <;> rfl

/-- A component that waits for a type is a declaration. -/
theorem ComponentId.newcomer?_of_pending {kind : ComponentKind} (id : ComponentId kind)
    {x : kind.Component} {name : QName} (h : kind.pending? x = some name) :
    ∃ r, id.receiver? = some r ∧ id.newcomer? x = some (name, r) := by
  rw [ComponentKind.pending?_eq] at h
  obtain ⟨slot, hslot, -⟩ := Option.bind_eq_some_iff.1 h
  obtain ⟨r, hr, -⟩ := id.exists_receiver hslot
  exact ⟨r, hr, ComponentId.newcomer?_eq_some_iff.2 ⟨hr, h⟩⟩

theorem ComponentId.newcomer?_of_none {kind : ComponentKind} (id : ComponentId kind)
    {x : kind.Component} (h : kind.pending? x = none) : id.newcomer? x = none := by
  rw [newcomer?, h]

namespace Collection

variable {c later : Collection} {n : Nat} {kind : ComponentKind} {x : kind.Component}
  {name : QName} {r r' : Receiver}

section Attach

theorem waiting_attach (c : Collection) (name : QName) (r : Receiver) :
    (c.attach name r).waiting =
      if (c.find? .type name).isSome then c.waiting else parkIn name r c.waiting := by
  unfold attach
  split
  · rename_i id hid
    rw [hid, if_pos (show (some id).isSome = true from rfl)]
    cases r <;> rfl
  · rename_i hnone
    rw [hnone, if_neg nofun]

/-- Attaching a declaration leaves the slots of all others. -/
theorem slot?_attach_of_ne (h : r' ≠ r) : (c.attach name r).slot? r' = c.slot? r' := by
  unfold attach
  split
  · rw [slot?_fill, if_neg h]
  · rfl

/-- A declaration that waits makes the table longer. -/
theorem parkIn_ne_self (name : QName) (r : Receiver) (waiting : List (QName × List Receiver)) :
    parkIn name r waiting ≠ waiting := by
  intro h
  have hperm : (waitsOf (parkIn name r waiting)).Perm ((name, r) :: waitsOf waiting) :=
    perm_waitsOf_parkIn
  have hlength := hperm.length_eq
  rw [h, List.length_cons] at hlength
  omega

end Attach

/-- What can be seen of a collection, but for the table of waiting
declarations, is as before: the items and names of every schema, what stands in
for a namespace, what is looked up and found, and what an identity denotes. -/
structure Undisturbed (c later : Collection) : Prop where
  frame : c.SameFrame later
  known : later.known = c.known
  lookup : ∀ (n : Nat) (kind : ComponentKind) (name : QName),
    later.lookupAt? kind name n = c.lookupAt? kind name n
  find : ∀ (kind : ComponentKind) (name : QName), later.find? kind name = c.find? kind name
  component : ∀ {kind : ComponentKind} (id : ComponentId kind) (x : kind.Component),
    c.get? id = some x → later.get? id = some x

theorem known_allocate (h : c.Numbered) (n : Nat) (x : kind.Component) :
    (c.allocate n kind x).2.known = c.known := by
  by_cases hn : n < c.schemas.size
  · rw [allocate_eq h hn]
    exact known_attachAll _
  · rw [allocate_of_le (Nat.le_of_not_lt hn)]

/-- A declaration that is there keeps its slot when another one is added. -/
theorem slot?_allocate (h : c.Numbered) (n : Nat) (x : kind.Component) {slot : TypeSlot}
    (hr : c.slot? r = some slot) : (c.allocate n kind x).2.slot? r = some slot := by
  by_cases hn : n < c.schemas.size
  · have hold : (⟨n, (c.components n).count kind⟩ : ComponentId kind).receiver? ≠ some r := by
      intro hfresh
      rw [slot?_eq_none_of_fresh hfresh] at hr
      cases hr
    have hplace : (c.furnish n ((c.components n).push kind x)).slot? r = some slot := by
      rw [slot?_place hn kind x r, if_neg hold, hr]
    rw [allocate_eq h hn]
    cases hnew : (⟨n, (c.components n).count kind⟩ : ComponentId kind).newcomer? x with
    | none => exact hplace
    | some entry =>
        have hother : r ≠ entry.2 := by
          rintro rfl
          exact hold (ComponentId.newcomer?_eq_some_iff.1 hnew).1
        exact (slot?_attach_of_ne hother).trans hplace
  · rw [allocate_of_le (Nat.le_of_not_lt hn), hr]

theorem undisturbed_allocate (h : c.Numbered) (n : Nat) (x : kind.Component) :
    c.Undisturbed (c.allocate n kind x).2 := by
  have hframe : c.SameFrame (c.allocate n kind x).2 := .allocate h n x
  have hknown := known_allocate h n x
  refine ⟨hframe, hknown, fun m kind' name => ?_, (hframe.graph hknown).find?_eq, ?_⟩
  · have hlookup : (fun s : Schema => s.lookup? kind' name) =
        (fun s => s.lookup? kind' name) ∘ Schema.frame := rfl
    have hm := congrArg (Option.bind · fun s => s.lookup? kind' name) (hframe m)
    rwa [Option.bind_map, Option.bind_map, ← hlookup] at hm
  · intro kind' id y hy
    have hlater := (SameFrame.naming hframe).numbered h
    rw [get?_eq h] at hy
    obtain ⟨z, hz, hzy⟩ := (GrowsInPlace.allocate h n kind x).grows.components id.schema kind'
      id.index y hy
    have hsame : z = y := by
      refine ComponentKind.eq_of_unresolved hzy fun slot hslot => ?_
      obtain ⟨r, hr, hschema⟩ := id.exists_receiver hslot
      have hbefore : c.slot? r = some slot := by
        rw [slot?, hschema, Components.slot?_eq hr hy, hslot]
      have hafter := slot?_allocate h n x hbefore
      rwa [slot?, hschema, Components.slot?_eq hr hz] at hafter
    rw [get?_eq hlater, ← hsame]
    exact hz

/-- What is left in the table of waiting declarations by a component that is
added. -/
theorem waiting_allocate (h : c.Numbered) (hn : n < c.schemas.size) (x : kind.Component) :
    (c.allocate n kind x).2.waiting =
      match (⟨n, (c.components n).count kind⟩ : ComponentId kind).newcomer? x with
      | some (name, r) =>
          if (c.find? .type name).isSome then c.waiting else parkIn name r c.waiting
      | none => c.waiting := by
  rw [allocate_eq h hn]
  cases (⟨n, (c.components n).count kind⟩ : ComponentId kind).newcomer? x with
  | none => rfl
  | some entry =>
      have hgraph : c.SameGraph (c.furnish n ((c.components n).push kind x)) :=
        (SameFrame.furnish n _).graph rfl
      show (attach _ entry.1 entry.2).waiting = _
      rw [waiting_attach, hgraph.find?_eq]
      rfl

/-- A component can be refused only by a schema that is there. -/
theorem lt_size_of_add_error {e : SchemaError} (h : (c.add n kind x).1 = .error e) :
    n < c.schemas.size := by
  by_contra hn
  rw [not_lt] at hn
  have hok : (c.add n kind x).1 = .ok ⟨n, 0⟩ := by
    unfold add
    rw [allocate_of_le hn]
    dsimp only
    unfold enlist register
    rw [Array.getElem?_eq_none (show c.schemas.size ≤ (⟨n, 0⟩ : ComponentId kind).schema from hn)]
    rfl
  cases h.symm.trans hok

theorem snd_of_add_error {e : SchemaError} (h : (c.add n kind x).1 = .error e) :
    (c.add n kind x).2 = (c.allocate n kind (kind.markTopLevel x)).2 := by
  unfold add at h ⊢
  dsimp only at h ⊢
  split
  · rfl
  · rename_i hok
    rw [hok] at h
    cases h

/-- A refused component leaves what can be seen of a collection as it was, but
that it waits for a type that it names and that is not there.  The table of
waiting declarations is as before exactly when there is no such type. -/
theorem Reachable.add_refused {allowed : Collection → Operation → Prop} (h : c.Reachable allowed)
    {e : SchemaError} (herror : (c.add n kind x).1 = .error e) :
    c.Undisturbed (c.add n kind x).2 ∧
    ((c.add n kind x).2.waiting = c.waiting ↔
      ∀ name, kind.pending? x = some name → (c.find? .type name).isSome) ∧
    ∀ name, kind.pending? x = some name → c.find? .type name = none →
      ∃ r, (⟨n, (c.components n).count kind⟩ : ComponentId kind).receiver? = some r ∧
        (c.add n kind x).2.waiting = parkIn name r c.waiting := by
  have hc := h.keyed.numbered
  have hn := lt_size_of_add_error herror
  have hwaiting := waiting_allocate hc (lt_size_of_add_error herror) (kind.markTopLevel x)
  rw [ComponentId.newcomer?_markTopLevel] at hwaiting
  rw [snd_of_add_error herror]
  refine ⟨undisturbed_allocate hc n _, ?_⟩
  cases hpending : kind.pending? x with
  | none =>
      rw [ComponentId.newcomer?_of_none _ hpending] at hwaiting
      exact ⟨⟨fun _ => nofun, fun _ => hwaiting⟩, nofun⟩
  | some name =>
      obtain ⟨r, hr, hnew⟩ := ComponentId.newcomer?_of_pending
        (⟨n, (c.components n).count kind⟩ : ComponentId kind) hpending
      rw [hnew] at hwaiting
      dsimp only at hwaiting
      refine ⟨⟨fun hsame name' hname' => ?_, fun hfound => ?_⟩, fun name' hname' hnone => ?_⟩
      · cases hname'
        by_contra hnone
        rw [if_neg hnone] at hwaiting
        exact parkIn_ne_self name r c.waiting (hwaiting.symm.trans hsame)
      · rw [hwaiting, if_pos (hfound name rfl)]
      · cases hname'
        rw [hnone, if_neg nofun] at hwaiting
        exact ⟨r, hr, hwaiting⟩

/-- A schema with an element. -/
def declaredElement : Collection :=
  (Collection.empty.perform (.addSchema ⟨"urn:a", "a.xsd"⟩ (some "urn:a"))).perform
    (.add 1 .element { name := some ⟨"urn:a", "e"⟩ })

/-- A second element of that name is refused; a type that it names and that is
not there is waited for nevertheless. -/
theorem add_refused_declaredElement :
    declaredElement.Reachable (fun _ _ => True) ∧
      (declaredElement.add 1 .element
        { name := some ⟨"urn:a", "e"⟩, type := .named ⟨"urn:a", "T"⟩ none }).1 =
          .error (.duplicateComponent .element ⟨"urn:a", "e"⟩ ⟨"urn:a", "a.xsd"⟩) ∧
      declaredElement.waiting = [] ∧
      (declaredElement.add 1 .element
        { name := some ⟨"urn:a", "e"⟩, type := .named ⟨"urn:a", "T"⟩ none }).2.waiting ≠
          declaredElement.waiting := by
  have hreach : declaredElement.Reachable fun _ _ => True :=
    .perform (.perform .empty _ trivial) _ trivial
  have herror : (declaredElement.add 1 .element
      { name := some ⟨"urn:a", "e"⟩, type := .named ⟨"urn:a", "T"⟩ none }).1 =
        .error (.duplicateComponent .element ⟨"urn:a", "e"⟩ ⟨"urn:a", "a.xsd"⟩) := by
    rfl
  refine ⟨hreach, herror, by rfl, fun hsame => ?_⟩
  have hfound := (hreach.add_refused herror).2.1.1 hsame ⟨"urn:a", "T"⟩ rfl
  revert hfound
  decide +kernel

end Collection

end XmlSchema
