import XmlSchema.Proofs.Collection.Waiting
import XmlSchema.Proofs.Document.Grounding
import XmlSchema.Proofs.Resolution.Operation

/-!
# The registry of forward references to types

A declaration may name a type before the type is there.  In every collection
that calls lead to, in whatever order they come and whether or not they
succeed, the declarations that wait are exactly those whose type has not been
registered yet, and all others have found the type of that name.
-/

namespace XmlSchema

open Attempt

namespace Collection

variable {c : Collection}

theorem furnish_furnish (c : Collection) (n : Nat) (cs cs' : Components) :
    (c.furnish n cs).furnish n cs' = c.furnish n cs' := by
  have h : ((c.schemas.modify n fun s => { s with components := cs }).modify n fun s =>
      { s with components := cs' }) = c.schemas.modify n fun s => { s with components := cs' } := by
    apply Array.ext_getElem?
    intro i
    simp only [Array.getElem?_modify]
    split
    · cases c.schemas[i]? <;> rfl
    · rfl
  rw [furnish, furnish, modify, modify, h]
  rfl

theorem newcomers_allocate (n : Nat) (b : Workbench) (kind : ComponentKind)
    (x : kind.Component) :
    (b.allocate n kind x).2.pending =
      b.pending ++ ((⟨n, b.components.count kind⟩ : ComponentId kind).newcomer? x).toList := by
  unfold Workbench.allocate ComponentId.newcomer?
  dsimp only
  split <;> simp_all

namespace Tallied

/-- What a document supplies is accounted for, the new declarations as ones
that are to be attached. -/
theorem furnish {n : Nat} {ok : Components → (kind : ComponentKind) → kind.Component → Prop}
    {b : Workbench} (h : c.Tallied []) (hn : n < c.schemas.size)
    (hok : ∀ cs kind x, ok cs kind x → kind.unresolved x = x)
    (hrun : Workbench.Run n ok { components := c.components n } b) :
    (c.furnish n b.components).Tallied b.pending := by
  induction hrun with
  | refl =>
      refine h.congr (.modify fun _ => rfl) (fun r => ?_) rfl (.refl _)
      rw [slot?_furnish hn]
      split
      · rename_i hr
        rw [← hr]
        rfl
      · rfl
  | @tail b b' _ step ih =>
      cases step with
      | own kind x hx =>
          have hsize : n < (c.furnish n b.components).schemas.size := by
            rw [Collection.furnish, size_modify]
            exact hn
          have hcs : (c.furnish n b.components).components n = b.components := by
            rw [components_furnish hn, if_pos rfl]
          have hplace := ih.place hsize kind x (ComponentKind.slot?_of_unresolved (hok _ kind x hx))
          rw [hcs, furnish_furnish] at hplace
          rw [Workbench.components_allocate, newcomers_allocate]
          exact hplace
      | meet content => exact ih

theorem absorb {n : Nat} {ok : Components → (kind : ComponentKind) → kind.Component → Prop}
    {b : Workbench} (h : c.Tallied []) (hn : n < c.schemas.size)
    (hok : ∀ cs kind x, ok cs kind x → kind.unresolved x = x)
    (hrun : Workbench.Run n ok { components := c.components n } b) :
    (c.absorb n b).Tallied [] :=
  (h.furnish hn hok hrun).attachAll

/-- What is not about components or names does not matter. -/
theorem modify {n : Nat} {f : Schema → Schema} (h : c.Tallied [])
    (hnaming : ∀ s, (f s).naming = s.naming) (hcs : ∀ s, (f s).components = s.components) :
    (c.modify n f).Tallied [] := by
  refine h.congr (.modify hnaming) (fun r => ?_) rfl (.refl _)
  rw [slot?, components_modify_of_eq hcs, slot?]

theorem addItem (h : c.Tallied []) (n : Nat) (item : SchemaItem) :
    (c.addItem n item).Tallied [] :=
  h.modify (fun _ => rfl) fun _ => rfl

theorem enlist {later : Collection} {kind : ComponentKind} {id : ComponentId kind}
    (h : c.Tallied []) (hc : c.enlist id = .ok later) : later.Tallied [] := by
  obtain ⟨c', hc', rfl⟩ := enlist_cases hc
  exact (h.register hc').addItem _ _

end Tallied

/-- A type that is listed is registered at home if its name is of the namespace
of its schema. -/
theorem Homed.enlist {later : Collection} {kind : ComponentKind} {id : ComponentId kind}
    (h : c.Homed) (hc : c.enlist id = .ok later)
    (hspace : ∀ s x name, c.schemas[id.schema]? = some s → s.get? id = some x →
      kind.nameOf x = some name → kind = .type → name.namespaceName = s.logicalNamespace) :
    later.Homed := by
  obtain ⟨c', hc', rfl⟩ := enlist_cases hc
  refine SameNaming.homed (.modify fun _ => rfl) ?_
  rcases register_cases hc' with ⟨-, rfl⟩ | ⟨s, x, name, hs, hx, hname, -, rfl⟩
  · exact h
  · exact (SameFrame.settle name id).naming.homed (h.enroll hs (hspace s x name hs hx hname))

end Collection

namespace Compose.Plan

/-- The plan of which nothing is known but that documents supply what they
define. -/
def grounded (env : Environment) : Plan env where
  cacheless := False
  reading := Reader.grounding
  key _ := True
  admits _ _ := True
  first := 0
  tag_of_admits _ _ := ⟨trivial, Xml.Node.everyIn_of_forall (fun _ => trivial) _⟩
  opened_reference _ _ := ⟨rfl, trivial⟩
  schema_of_part h := (h.1 _ List.mem_cons_self).schema_eq
  key_of_offers _ _ := trivial
  admits_of_offers _ _ := trivial

section Steps

open Collection

variable {env : Environment} {c later : Collection}

theorem Change.tallied (step : (grounded env).Change c later) (h : c.Tallied []) :
    later.Tallied [] := by
  cases step with
  | begin source parent inherited hnew hkey => exact h.push rfl rfl rfl
  | meet n t kids ht => exact h.modify (fun _ => rfl) fun _ => rfl
  | absorb cx bench hcx hrun =>
      exact h.absorb hcx.lt_size (fun _ _ _ hx => hx.unresolved) hrun
  | note => exact h.addItem _ _
  | external => exact h.addItem _ _
  | enlist _ cx construct role ref hcx hrole href hc => exact h.enlist hc
  | finish n => exact h.modify (fun _ => rfl) fun _ => rfl

/-- Documents register what they define under names of their namespace. -/
theorem Change.homed (step : (grounded env).Change c later) (hc : c.Numbered) (h : c.Homed) :
    later.Homed := by
  cases step with
  | begin source parent inherited hnew hkey => exact h.push rfl
  | meet n t kids ht => exact SameNaming.homed (.modify fun _ => rfl) h
  | absorb cx bench hcx hrun => exact (SameFrame.absorb _ bench).naming.homed h
  | note => exact SameNaming.homed (.modify fun _ => rfl) h
  | external => exact SameNaming.homed (.modify fun _ => rfl) h
  | enlist _ cx construct role ref hcx hrole href hlater =>
      refine h.enlist hlater fun s x name hs hx hname hkind => ?_
      obtain ⟨kind, id⟩ := ref
      obtain ⟨hschema, ⟨y, hy, hhome⟩, -⟩ := href.1 ⟨kind, id⟩ List.mem_cons_self
      have hget : c.get? id = s.get? id := by
        rw [Collection.get?, hs]
        rfl
      rw [Collection.get?_eq hc, show id.schema = cx.schema from hschema, hy, hx] at hget
      cases hget
      subst hkind
      rw [hhome name hname, hcx.key_eq (hschema ▸ hs)]
      rfl
  | finish n => exact SameNaming.homed (.modify fun _ => rfl) h

/-- Composing documents keeps all declarations accounted for. -/
theorem Run.tallied (hrun : (grounded env).Run c later) (h : c.Tallied []) :
    later.Tallied [] := by
  induction hrun with
  | refl => exact h
  | tail _ step ih => exact step.tallied ih

theorem Run.homed (hrun : (grounded env).Run c later) (hc : c.Tallied []) (h : c.Homed) :
    later.Homed := by
  induction hrun with
  | refl => exact h
  | tail hrun step ih => exact step.homed (Run.tallied hrun hc).numbered ih

end Steps

end Compose.Plan

/-- What is supplied to a collection by hand are declarations whose types are
still to be found. -/
def Operation.Unresolved : Operation → Prop
  | .allocate _ kind x => kind.unresolved x = x
  | .add _ kind x => kind.unresolved x = x
  | _ => True

/-- What is supplied to a collection: declarations whose types are still to be
found, and types under names of the namespace of their schema. -/
def Operation.Supplied (c : Collection) : Operation → Prop
  | .allocate _ kind x => kind.unresolved x = x
  | .add number kind x =>
      kind.unresolved x = x ∧
        (kind = .type → ∀ name s, kind.nameOf x = some name → c.schemas[number]? = some s →
          name.namespaceName = s.logicalNamespace)
  | _ => True

theorem Operation.Supplied.unresolved {c : Collection} {op : Operation} (h : op.Supplied c) :
    op.Unresolved := by
  cases op with
  | allocate => exact h
  | add => exact h.1
  | _ => trivial

namespace Compose.Plan

variable {env : Environment}

theorem grounded_lax (env : Environment) : (grounded env).Lax :=
  ⟨id, fun _ => trivial, fun _ _ => trivial, rfl⟩

end Compose.Plan

namespace Collection

variable {c : Collection} {n : Nat} {kind : ComponentKind} {x : kind.Component}

theorem exists_grounded_run (h : c.Numbered) {op : Operation} (hop : op.Builds) :
    ∃ env, (Compose.Plan.grounded env).Run c (c.perform op) :=
  Compose.Plan.exists_run Compose.Plan.grounded_lax h hop

/-- Adding a component by hand is placing it and attaching what is new. -/
theorem allocate_eq (h : c.Numbered) (hn : n < c.schemas.size) :
    c.allocate n kind x =
      (⟨n, (c.components n).count kind⟩,
        ((⟨n, (c.components n).count kind⟩ : ComponentId kind).newcomer? x).toList.foldl
          (fun c p => c.attach p.1 p.2) (c.furnish n ((c.components n).push kind x))) := by
  have hs : c.schemas[n]? = some c.schemas[n] := Array.getElem?_eq_getElem hn
  have hcs : c.components n = c.schemas[n].components := components_of_schema hs
  have hfurnish : (c.modify n fun _ =>
      { c.schemas[n] with components := c.schemas[n].components.push kind x }) =
      c.furnish n ((c.components n).push kind x) := by
    have harray : (c.schemas.modify n fun _ =>
        { c.schemas[n] with components := c.schemas[n].components.push kind x }) =
        c.schemas.modify n fun s =>
          { s with components := c.schemas[n].components.push kind x } := by
      apply Array.ext_getElem?
      intro i
      rw [Array.getElem?_modify, Array.getElem?_modify]
      split
      · rename_i hi
        subst hi
        rw [hs]
        rfl
      · rfl
    rw [furnish, hcs, modify, modify, harray]
  unfold allocate
  rw [hs]
  dsimp only [Schema.allocate]
  rw [hfurnish, h n _ hs, ← hcs]
  unfold ComponentId.newcomer?
  split <;> simp_all

/-- Nothing is added to a schema that is not there. -/
theorem allocate_of_le (hn : c.schemas.size ≤ n) : c.allocate n kind x = (⟨n, 0⟩, c) := by
  unfold allocate
  rw [Array.getElem?_eq_none hn]

/-- A component that is added by hand is attached at once. -/
theorem Tallied.allocate (h : c.Tallied []) (hx : kind.unresolved x = x) :
    (c.allocate n kind x).2.Tallied [] := by
  by_cases hn : n < c.schemas.size
  · rw [allocate_eq h.numbered hn]
    exact (h.place hn kind x (ComponentKind.slot?_of_unresolved hx)).attachAll
  · rw [allocate_of_le (Nat.le_of_not_lt hn)]
    exact h

theorem SameFrame.allocate (h : c.Numbered) (n : Nat) (x : kind.Component) :
    c.SameFrame (c.allocate n kind x).2 := by
  by_cases hn : n < c.schemas.size
  · rw [allocate_eq h hn]
    exact (SameFrame.furnish n _).trans (.attachAll _)
  · rw [allocate_of_le (Nat.le_of_not_lt hn)]
    exact .refl c

/-- A component that has been added is there, with its type found perhaps. -/
theorem get?_allocate (h : c.Numbered) {s : Schema}
    (hs : (c.allocate n kind x).2.schemas[n]? = some s) :
    (∃ s₀, c.schemas[n]? = some s₀ ∧ s.key = s₀.key) ∧
      ∃ y, s.get? (c.allocate n kind x).1 = some y ∧ kind.unresolved y = kind.unresolved x := by
  by_cases hn : n < c.schemas.size
  · have hfurnish : (c.furnish n ((c.components n).push kind x)).schemas[n]? =
        some { c.schemas[n] with components := (c.components n).push kind x } := by
      rw [furnish, schemas_modify, if_pos rfl, Array.getElem?_eq_getElem hn]
      rfl
    rw [allocate_eq h hn] at hs ⊢
    obtain ⟨s', hs', hgrows⟩ := (GrowsInPlace.attachAll _).grows n _ hfurnish
    cases Option.some.inj (hs.symm.trans hs')
    refine ⟨⟨_, Array.getElem?_eq_getElem hn, hgrows.key_eq⟩, ?_⟩
    obtain ⟨y, hy, hyx⟩ := hgrows.components kind _ _ (Components.getElem?_push_count _ kind x)
    have hnumber : n = s.number := by
      rw [hgrows.number_eq]
      exact (h n _ (Array.getElem?_eq_getElem hn)).symm
    exact ⟨y, by rw [Schema.get?, if_pos hnumber, hy], hyx⟩
  · rw [allocate_of_le (Nat.le_of_not_lt hn), Array.getElem?_eq_none (Nat.le_of_not_lt hn)] at hs
    cases hs

theorem schema_allocate (h : c.Numbered) (n : Nat) (x : kind.Component) :
    (c.allocate n kind x).1.schema = n := by
  by_cases hn : n < c.schemas.size
  · rw [allocate_eq h hn]
  · rw [allocate_of_le (Nat.le_of_not_lt hn)]

theorem unresolved_markTopLevel {kind : ComponentKind} {x : kind.Component}
    (h : kind.unresolved x = x) :
    kind.unresolved (kind.markTopLevel x) = kind.markTopLevel x := by
  cases kind with
  | element => exact congrArg (fun e : ElementDecl => { e with topLevel := true }) h
  | «attribute» => exact congrArg (fun a : AttributeDecl => { a with topLevel := true }) h
  | _ => rfl

theorem Tallied.add (h : c.Tallied []) (hx : kind.unresolved x = x) :
    (c.add n kind x).2.Tallied [] := by
  have hall : (c.allocate n kind (kind.markTopLevel x)).2.Tallied [] :=
    h.allocate (unresolved_markTopLevel hx)
  rcases c.add_cases n kind x with ⟨-, heq⟩ | ⟨later, hlater, heq⟩
  · rw [heq]
    exact hall
  · rw [heq]
    exact hall.enlist hlater

theorem Homed.add (h : c.Homed) (hc : c.Numbered)
    (hspace : kind = .type → ∀ name s, kind.nameOf x = some name → c.schemas[n]? = some s →
      name.namespaceName = s.logicalNamespace) : (c.add n kind x).2.Homed := by
  have hall : (c.allocate n kind (kind.markTopLevel x)).2.Homed :=
    (SameFrame.allocate hc n _).naming.homed h
  rcases c.add_cases n kind x with ⟨-, heq⟩ | ⟨later, hlater, heq⟩
  · rw [heq]
    exact hall
  · rw [heq]
    refine hall.enlist hlater fun s y name hs hy hname hkind => ?_
    rw [schema_allocate hc] at hs
    obtain ⟨⟨s₀, hs₀, hkey⟩, y', hy', hyx⟩ := get?_allocate hc hs
    cases Option.some.inj (hy.symm.trans hy')
    subst hkind
    cases (show y = x from hyx)
    rw [Schema.logicalNamespace, hkey]
    exact hspace rfl name s₀ hname hs₀

theorem Tallied.perform (h : c.Tallied []) (op : Operation) (hop : op.Unresolved) :
    (c.perform op).Tallied [] := by
  have hbuild : op.Builds → (c.perform op).Tallied [] := fun hop =>
    have ⟨_, hrun⟩ := exists_grounded_run h.numbered hop
    hrun.tallied h
  cases op with
  | addSchema key target =>
      rcases c.perform_addSchema key target with heq | ⟨-, heq⟩
      · rw [heq]
        exact h
      · rw [heq]
        exact h.push rfl rfl rfl
  | mapNamespace uri number =>
      have hmap : c.Tallied [] → (c.mapNamespace uri number).Tallied [] := fun h =>
        h.congr (.of_schemas_eq rfl) (fun _ => rfl) rfl (.refl _)
      exact hmap h
  | addNote number a => exact h.addItem _ _
  | addExternal number e => exact h.addItem _ _
  | allocate number kind x => exact h.allocate hop
  | add number kind x => exact h.add hop
  | build | buildText | readLocation => exact hbuild trivial

theorem Tallied.homed_perform (hc : c.Tallied []) (h : c.Homed) (op : Operation)
    (hop : op.Supplied c) : (c.perform op).Homed := by
  have hbuild : op.Builds → (c.perform op).Homed := fun hop =>
    have ⟨_, hrun⟩ := exists_grounded_run hc.numbered hop
    hrun.homed hc h
  cases op with
  | addSchema key target =>
      rcases c.perform_addSchema key target with heq | ⟨-, heq⟩
      · rw [heq]
        exact h
      · rw [heq]
        exact h.push rfl
  | mapNamespace uri number => exact h
  | addNote number a => exact SameNaming.homed (.modify fun _ => rfl) h
  | addExternal number e => exact SameNaming.homed (.modify fun _ => rfl) h
  | allocate number kind x => exact (SameFrame.allocate hc.numbered _ x).naming.homed h
  | add number kind x => exact h.add hc.numbered hop.2
  | build | buildText | readLocation => exact hbuild trivial

theorem tallied_empty : Collection.empty.Tallied [] := by
  have hslot : ∀ r, Collection.empty.slot? r = none := by
    intro r
    cases hr : r.schema with
    | zero =>
        rw [slot?, hr]
        cases r <;> rfl
    | succ n => exact slot?_eq_none (by rw [hr]; exact Nat.le_add_left 1 n)
  refine ⟨?_, .nil, ?_, fun _ _ hmem => absurd hmem List.not_mem_nil, ?_⟩
  · intro i s hs
    obtain ⟨rfl, rfl⟩ := schemas_empty hs
    rfl
  · intro name r
    rw [pendingName?, hslot]
    rfl
  · intro r name id hr
    rw [hslot] at hr
    cases hr

theorem homed_empty : Collection.empty.Homed := by
  intro i s hs r hr _
  obtain ⟨rfl, rfl⟩ := schemas_empty hs
  obtain ⟨entry, -, rfl⟩ := List.mem_map.1 hr
  rfl

theorem Reachable.tallied {allowed : Collection → Operation → Prop} (h : c.Reachable allowed)
    (hallowed : ∀ c op, allowed c op → op.Unresolved) : c.Tallied [] := by
  induction h with
  | empty => exact tallied_empty
  | perform _ op hop ih => exact ih.perform op (hallowed _ op hop)

theorem Reachable.accounted (h : c.Reachable Operation.Supplied) : c.Accounted [] := by
  refine (h.tallied fun _ _ hop => Operation.Supplied.unresolved hop).accounted ?_
  induction h with
  | empty => exact homed_empty
  | perform h op hop ih =>
      exact (h.tallied fun _ _ hop => Operation.Supplied.unresolved hop).homed_perform ih op hop

/-- The type slot of a declaration that is in the collection. -/
def typeSlot? (c : Collection) : Receiver → Option TypeSlot
  | .element id => (c.get? id).map ElementDecl.type
  | .attribute id => (c.get? id).map AttributeDecl.type

/-- At most one schema has registered a type under a name. -/
def Sole (c : Collection) (name : QName) : Prop :=
  ∀ (i j : Nat) (s t : Schema), c.schemas[i]? = some s → c.schemas[j]? = some t →
    (s.lookup? .type name).isSome → (t.lookup? .type name).isSome → i = j

/-- The table of waiting declarations is exact, and the declarations that do
not wait have found their types. -/
structure ForwardTypesExact (c : Collection) : Prop where
  waits_once : ∀ r name,
    c.waits.count (name, r) = if c.typeSlot? r = some (.named name none) then 1 else 0
  unregistered : ∀ r name, (name, r) ∈ c.waits →
    ∀ (i : Nat) (s : Schema), c.schemas[i]? = some s → s.lookup? .type name = none
  registered : ∀ r name id, c.typeSlot? r = some (.named name (some id)) →
    ∃ s, c.schemas[id.schema]? = some s ∧ s.lookup? .type name = some id
  found : ∀ r name resolved, c.typeSlot? r = some (.named name resolved) → c.Sole name →
    resolved = c.find? .type name

theorem typeSlot?_eq (h : c.Numbered) (r : Receiver) : c.typeSlot? r = c.slot? r := by
  cases r with
  | element id => rw [typeSlot?, get?_eq h]; rfl
  | «attribute» id => rw [typeSlot?, get?_eq h]; rfl

theorem Registers.eq_of_sole {name : QName} {id id' : TypeId} (h : c.Registers name id)
    (h' : c.Registers name id') (hsole : c.Sole name) : id = id' := by
  obtain ⟨s, hs, hlookup⟩ := h
  obtain ⟨t, ht, hlookup'⟩ := h'
  have hij := hsole _ _ s t hs ht (by rw [hlookup]; rfl) (by rw [hlookup']; rfl)
  rw [hij] at hs
  cases Option.some.inj (hs.symm.trans ht)
  exact Option.some.inj (hlookup.symm.trans hlookup')

theorem Accounted.exact (h : c.Accounted []) : c.ForwardTypesExact where
  waits_once r name := by
    have hcount := h.count_eq name r
    rw [List.append_nil] at hcount
    rw [hcount, typeSlot?_eq h.numbered, pendingName?]
    cases hslot : c.slot? r with
    | none =>
        have hnone : ∀ {α : Type} (a : α), none ≠ some a := fun a => (Option.some_ne_none a).symm
        rw [Option.bind_none, if_neg (hnone _), if_neg (hnone _)]
    | some slot =>
        have hiff : slot.pending? = some name ↔ some slot = some (.named name none) := by
          rw [TypeSlot.pending?_eq_some_iff, Option.some.injEq]
        simp only [Option.bind_some, hiff]
  unregistered r name hmem i s hs := by
    refine Option.eq_none_iff_forall_ne_some.2 fun id hid => ?_
    exact h.unregistered name r hmem id (registers_of_lookup? h.numbered hs hid)
  registered r name id hr := h.resolved r name id (typeSlot?_eq h.numbered r ▸ hr)
  found r name resolved hr hsole := by
    rw [typeSlot?_eq h.numbered] at hr
    cases hfind : c.find? .type name with
    | some id =>
        have hid := find?_registers h.numbered hfind
        cases resolved with
        | some id' => rw [(h.resolved r name id' hr).eq_of_sole hid hsole]
        | none =>
            have hcount : c.waits.count (name, r) = 1 := by
              rw [← List.append_nil c.waits, h.count_eq, pendingName?, hr]
              exact if_pos rfl
            have hmem : (name, r) ∈ c.waits := List.count_pos_iff.1 (by omega)
            exact (h.unregistered name r hmem id hid).elim
    | none =>
        cases resolved with
        | none => rfl
        | some id' =>
            have hsome := find?_isSome_of_registers h.numbered h.homed (h.resolved r name id' hr)
            rw [hfind] at hsome
            cases hsome

/-- In every collection that calls lead to, the waiting declarations are exactly
those whose types are not registered, and the others have found theirs.  What a
declaration finds depends on the registered names alone, not on the order of
the calls. -/
theorem Reachable.forwardTypesExact (h : c.Reachable Operation.Supplied) :
    c.ForwardTypesExact ∧
      ∀ later : Collection, later.Reachable Operation.Supplied →
        ∀ r r' name resolved resolved',
          c.typeSlot? r = some (.named name resolved) →
          later.typeSlot? r' = some (.named name resolved') →
          c.Sole name → later.Sole name →
          (∀ id : TypeId, c.Registers name id ↔ later.Registers name id) →
          resolved = resolved' := by
  refine ⟨h.accounted.exact, ?_⟩
  intro later hlater r r' name resolved resolved' hr hr' hsole hsole' hsame
  have hc := h.accounted
  have hl := hlater.accounted
  have hfound := hc.exact.found r name resolved hr hsole
  have hfound' := hl.exact.found r' name resolved' hr' hsole'
  cases resolved with
  | some id =>
      obtain ⟨id', hid'⟩ := Option.isSome_iff_exists.1 (find?_isSome_of_registers hl.numbered
        hl.homed ((hsame id).1 (hc.exact.registered r name id hr)))
      rw [hfound', hid']
      have hreg := (hsame id).1 (hc.exact.registered r name id hr)
      rw [hreg.eq_of_sole (find?_registers hl.numbered hid') hsole']
  | none =>
      cases resolved' with
      | none => rfl
      | some id' =>
          have hreg := (hsame id').2 (hl.exact.registered r' name id' hr')
          have hsome := find?_isSome_of_registers hc.numbered hc.homed hreg
          rw [← hfound] at hsome
          cases hsome

/-- A collection in which an element has been added before the type that it
names. -/
def elementBeforeType : Collection :=
  ((Collection.empty.perform (.addSchema ⟨"urn:a", "a.xsd"⟩ (some "urn:a"))).perform
    (.add 1 .element { name := some ⟨"urn:a", "e"⟩, type := .named ⟨"urn:a", "T"⟩ none })).perform
    (.add 1 .type { name := some ⟨"urn:a", "T"⟩, body := .simple .unspecified })

/-- The element has found the type and waits no longer. -/
theorem forwardTypesExact_elementBeforeType :
    elementBeforeType.Reachable Operation.Supplied ∧
      elementBeforeType.waits.count (⟨"urn:a", "T"⟩, .element ⟨1, 0⟩) = 0 ∧
      elementBeforeType.find? .type ⟨"urn:a", "T"⟩ = some ⟨1, 0⟩ := by
  have hreach : elementBeforeType.Reachable Operation.Supplied := by
    refine .perform (.perform (.perform .empty _ trivial) _ ⟨rfl, nofun⟩) _ ⟨rfl, ?_⟩
    rintro - name s hname hs
    cases hname
    cases hs
    rfl
  have hexact := hreach.forwardTypesExact.1
  have hslot : elementBeforeType.typeSlot? (.element ⟨1, 0⟩) =
      some (.named ⟨"urn:a", "T"⟩ (some ⟨1, 0⟩)) := by decide
  refine ⟨hreach, ?_, (hexact.found _ _ _ hslot ?_).symm⟩
  · rw [hexact.waits_once, hslot]
    exact if_neg (by decide)
  · have htypes : ∀ (i : Nat) (s : Schema), elementBeforeType.schemas[i]? = some s →
        (s.lookup? .type ⟨"urn:a", "T"⟩).isSome → i = 1 := by
      intro i s hs hsome
      match i with
      | 0 =>
          cases hs
          exact absurd hsome (by decide)
      | 1 => rfl
      | i + 2 => cases hs
    intro i j s t hs ht hi hj
    rw [htypes i s hs hi, htypes j t ht hj]

end Collection

end XmlSchema
