import XmlSchema.Proofs.Collection.Permanence
import XmlSchema.Proofs.Resolution.Origin

/-!
# What calls never change

Identities are handed out once.  Whatever calls are made, and whether or not
they succeed, an identity goes on denoting the component that it denoted, a
registered name leads where it led, a key leads to its schema, and the items
of a schema stay in front of those that are added.
-/

namespace XmlSchema

open Attempt

namespace Compose.Plan

open Collection

variable {env : Environment} {P : Plan env} {c later : Collection}

theorem attaches_furnish {n : Nat}
    {ok : Components → (kind : ComponentKind) → kind.Component → Prop} {b : Workbench}
    (h : c.Parked []) (hn : n < c.schemas.size)
    (hrun : Workbench.Run n ok { components := c.components n } b) :
    c.Attaches (c.furnish n b.components) b.pending := by
  induction hrun with
  | refl =>
      refine h.attaches (fun r => ?_) h.keys_nodup (.refl _)
      rw [slot?_furnish hn]
      split
      · rename_i hr
        rw [← hr]
        rfl
      · rfl
  | @tail b b' _ step ih =>
      cases step with
      | own kind x _ =>
          have hsize : n < (c.furnish n b.components).schemas.size := by
            rw [furnish, size_modify]
            exact hn
          have hcs : (c.furnish n b.components).components n = b.components := by
            rw [components_furnish hn, if_pos rfl]
          have hplace := ih.parked.place hsize kind x
          rw [hcs, furnish_furnish] at hplace
          rw [Workbench.components_allocate, newcomers_allocate]
          exact ih.trans hplace
      | meet content => exact ih

theorem Change.attaches (step : P.Change c later) (h : c.Parked []) : c.Attaches later [] := by
  cases step with
  | begin source parent inherited hnew hkey => exact h.push rfl
  | meet n t kids ht => exact h.modify fun _ => rfl
  | absorb cx bench hcx hrun =>
      have hfurnish := attaches_furnish h hcx.lt_size hrun
      exact hfurnish.trans hfurnish.parked.attachAll
  | note => exact h.modify fun _ => rfl
  | external => exact h.modify fun _ => rfl
  | enlist _ cx construct role ref hcx hrole href hc => exact h.enlist hc
  | finish n => exact h.modify fun _ => rfl

theorem Run.attaches (hrun : P.Run c later) (h : c.Parked []) : c.Attaches later [] := by
  induction hrun with
  | refl => exact .refl h
  | tail _ step ih => exact ih.trans (step.attaches ih.parked)

end Compose.Plan

namespace Collection

variable {c : Collection} {n : Nat} {kind : ComponentKind} {x : kind.Component}

theorem Parked.allocate (h : c.Parked []) (hc : c.Numbered) (n : Nat) (x : kind.Component) :
    c.Attaches (c.allocate n kind x).2 [] := by
  by_cases hn : n < c.schemas.size
  · rw [allocate_eq hc hn]
    have hplace := h.place hn kind x
    exact hplace.trans hplace.parked.attachAll
  · rw [allocate_of_le (Nat.le_of_not_lt hn)]
    exact .refl h

theorem Parked.add (h : c.Parked []) (hc : c.Numbered) (n : Nat) (x : kind.Component) :
    c.Attaches (c.add n kind x).2 [] := by
  have hall := h.allocate hc n (kind.markTopLevel x)
  rcases c.add_cases n kind x with ⟨-, heq⟩ | ⟨later, hlater, heq⟩
  · rw [heq]
    exact hall
  · rw [heq]
    exact hall.trans (hall.parked.enlist hlater)

/-- A later time of a collection, with nothing of the earlier one lost. -/
structure Continues (c later : Collection) : Prop where
  grows : c.Grows later
  attaches : c.Attaches later []

theorem Continues.trans {c' later : Collection} (h : c.Continues c') (h' : c'.Continues later) :
    c.Continues later :=
  ⟨h.grows.trans h'.grows, h.attaches.trans h'.attaches⟩

theorem Parked.continues (h : c.Parked []) (hc : c.Numbered) (op : Operation) :
    c.Continues (c.perform op) := by
  have hbuild : op.Builds → c.Continues (c.perform op) := fun hop =>
    have ⟨_, hrun⟩ := exists_grounded_run hc hop
    ⟨hrun.grows, hrun.attaches h⟩
  cases op with
  | addSchema key target =>
      rcases c.perform_addSchema key target with heq | ⟨-, heq⟩
      · rw [heq]
        exact ⟨.refl c, .refl h⟩
      · rw [heq]
        exact ⟨.push c _, h.push rfl⟩
  | mapNamespace uri number =>
      have hmap : c.Continues (c.mapNamespace uri number) :=
        ⟨.of_schemas_eq rfl, h.attaches (fun _ => rfl) h.keys_nodup (.refl _)⟩
      exact hmap
  | addNote number a => exact ⟨(GrowsInPlace.addItem _ _ _).grows, h.modify fun _ => rfl⟩
  | addExternal number e => exact ⟨(GrowsInPlace.addItem _ _ _).grows, h.modify fun _ => rfl⟩
  | allocate number kind x => exact ⟨(GrowsInPlace.allocate hc _ _ _).grows, h.allocate hc _ x⟩
  | add number kind x => exact ⟨(GrowsInPlace.add hc _ _ _).grows, h.add hc _ x⟩
  | build | buildText | readLocation => exact hbuild trivial

/-- In every collection that calls lead to, what waits is pending. -/
theorem Reachable.parked {allowed : Collection → Operation → Prop} (h : c.Reachable allowed) :
    c.Parked [] := by
  induction h with
  | empty => exact ⟨.nil, .nil, fun _ _ hmem => absurd hmem List.not_mem_nil⟩
  | perform hc op _ ih => exact (ih.continues hc.keyed.numbered op).attaches.parked

/-- The collection after some calls. -/
def performAll (c : Collection) (ops : List Operation) : Collection :=
  ops.foldl Collection.perform c

theorem Reachable.any {allowed : Collection → Operation → Prop} (h : c.Reachable allowed) :
    c.Reachable fun _ _ => True := by
  induction h with
  | empty => exact .empty
  | perform _ op _ ih => exact .perform ih op trivial

theorem Reachable.continues (h : c.Reachable fun _ _ => True) (ops : List Operation) :
    (c.performAll ops).Reachable (fun _ _ => True) ∧ c.Continues (c.performAll ops) := by
  induction ops generalizing c with
  | nil => exact ⟨h, .refl c, .refl h.parked⟩
  | cons op rest ih =>
      obtain ⟨hreach, hrest⟩ := ih (.perform h op trivial)
      exact ⟨hreach, (h.parked.continues h.keyed.numbered op).trans hrest⟩

/-- The numbers of the schemas are dense, and numbers and keys belong together
one to one. -/
structure Indexed (c : Collection) : Prop where
  number_eq : ∀ (n : Nat) (s : Schema), c.schemas[n]? = some s → s.number = n
  number?_iff : ∀ key n, c.number? key = some n ↔ ∃ s, c.schemas[n]? = some s ∧ s.key = key
  exists_key : ∀ n, n < c.schemas.size → ∃! key, c.number? key = some n

theorem Keyed.indexed (h : c.Keyed) : c.Indexed := by
  have hiff : ∀ key n, c.number? key = some n ↔ ∃ s, c.schemas[n]? = some s ∧ s.key = key := by
    intro key n
    rw [number?, Option.map_eq_some_iff]
    constructor
    · rintro ⟨s, hs, rfl⟩
      obtain ⟨i, hi⟩ :=
        Array.mem_iff_getElem?.1 (Array.mem_toList_iff.1 (List.mem_of_find?_eq_some hs))
      have hkey := List.find?_some hs
      exact ⟨s, by rw [h.numbered i s hi, hi], by simpa using hkey⟩
    · rintro ⟨s, hs, rfl⟩
      exact ⟨s, h.schema?_eq hs, h.numbered n s hs⟩
  refine ⟨h.numbered, hiff, fun n hn => ⟨c.schemas[n].key, ?_, ?_⟩⟩
  · exact (hiff _ n).2 ⟨_, Array.getElem?_eq_getElem hn, rfl⟩
  · intro key hkey
    obtain ⟨s, hs, rfl⟩ := (hiff key n).1 hkey
    cases Option.some.inj (hs.symm.trans (Array.getElem?_eq_getElem hn))
    rfl

/-- What a collection goes on saying at a later time.  A component is the same
but that a pending slot may have found its type, a name leads to the component
that it led to, and the items of a schema begin with those that it had. -/
structure Retains (c later : Collection) : Prop where
  component : ∀ {kind : ComponentKind} (id : ComponentId kind) (x : kind.Component),
    c.get? id = some x → ∃ y, later.get? id = some y ∧ kind.Settles x y
  number : ∀ key n, c.number? key = some n → later.number? key = some n
  schema : ∀ (n : Nat) (s : Schema), c.schemas[n]? = some s →
    ∃ s', later.schemas[n]? = some s' ∧ s'.key = s.key ∧
      (∀ (kind : ComponentKind) (name : QName) (id : ComponentId kind),
        s.lookup? kind name = some id → s'.lookup? kind name = some id) ∧
      s.items <+: s'.items ∧ s.externals <+: s'.externals

theorem Continues.retains {later : Collection} (h : c.Continues later) (hc : c.Keyed)
    (hlater : later.Keyed) : c.Retains later where
  component _ _ hx := h.attaches.get? h.grows hc.numbered hlater.numbered hx
  number key n hn := by
    obtain ⟨s, hs, rfl⟩ := (hc.indexed.number?_iff key n).1 hn
    obtain ⟨s', hs', hgrows⟩ := h.grows n s hs
    exact (hlater.indexed.number?_iff _ n).2 ⟨s', hs', hgrows.key_eq⟩
  schema n s hs := by
    obtain ⟨s', hs', hgrows⟩ := h.grows n s hs
    exact ⟨s', hs', hgrows.key_eq, fun _ _ _ hid => hgrows.lookup? hid, hgrows.items,
      hgrows.items.filterMap _⟩

/-- Identity is permanent: before and after any further calls schemas, numbers
and keys belong together one to one, and nothing that the collection said of
its components, names, keys and items is taken back. -/
theorem Reachable.retained {allowed : Collection → Operation → Prop} (h : c.Reachable allowed)
    (ops : List Operation) :
    c.Indexed ∧ (c.performAll ops).Indexed ∧ c.Retains (c.performAll ops) := by
  obtain ⟨hreach, hcontinues⟩ := h.any.continues ops
  exact ⟨h.keyed.indexed, hreach.keyed.indexed, hcontinues.retains h.keyed hreach.keyed⟩

/-- A collection with an element whose type is still to be added. -/
def waitingElement : Collection :=
  (Collection.empty.perform (.addSchema ⟨"urn:a", "a.xsd"⟩ (some "urn:a"))).perform
    (.add 1 .element { name := some ⟨"urn:a", "e"⟩, type := .named ⟨"urn:a", "T"⟩ none })

/-- An element of a name that is taken, which is refused, and the type. -/
def refusedThenType : List Operation :=
  [.add 1 .element { name := some ⟨"urn:a", "e"⟩ },
   .add 1 .type { name := some ⟨"urn:a", "T"⟩, body := .simple .unspecified }]

/-- The element keeps its identity and finds its type, and the items that were
there come first. -/
theorem retained_waitingElement :
    waitingElement.Reachable (fun _ _ => True) ∧
      waitingElement.Retains (waitingElement.performAll refusedThenType) ∧
      waitingElement.typeSlot? (.element ⟨1, 0⟩) = some (.named ⟨"urn:a", "T"⟩ none) ∧
      (waitingElement.performAll refusedThenType).typeSlot? (.element ⟨1, 0⟩) =
        some (.named ⟨"urn:a", "T"⟩ (some ⟨1, 0⟩)) := by
  have hreach : waitingElement.Reachable fun _ _ => True :=
    .perform (.perform .empty _ trivial) _ trivial
  refine ⟨hreach, (hreach.retained refusedThenType).2.2, ?_, ?_⟩
  · decide
  · decide

end Collection

end XmlSchema
