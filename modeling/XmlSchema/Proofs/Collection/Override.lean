import Mathlib.Data.Option.Basic
import XmlSchema.Proofs.Collection.Views
import XmlSchema.Proofs.Component.Ledger

/-!
# Collections with and without an override

A schema can be made to stand in for the imports of a namespace.  Of two
collections into which the same is read, one has been given such an override
before, the other has not.  They differ in the targets of those imports that
are left to the override, and in the types that are found with their help.
-/

namespace XmlSchema

/-- A schema without its components and its items. -/
def Schema.shell (s : Schema) : Schema := { s with components := {}, items := [] }

/-- The number of a schema that is made to stand in for the imports of a
namespace; `known` are those that stand in for namespaces without it.  The
schemas from the number `first` on are read after that. -/
structure Override where
  resolver : Resolver
  uri : String
  number : Nat
  known : List (String × Nat)
  first : Nat

namespace Override

variable (o : Override)

/-- The schema that stands in for the namespace without the override. -/
def before? : Option Nat := o.known.lookup o.uri

/-- An import of the namespace, in a schema with some key, that is left to the
override: the resolver finds nothing at its location, if it has one. -/
structure Serves (key : SchemaKey) (e : ExternalRef) : Prop where
  kind_eq : e.kind = .importation
  uri_eq : e.namespaceName.getD "" = o.uri
  unlocated : ∀ l, e.location = some l → o.resolver.answer (e.requestIn key l) = .ok none

/-- An item of a schema read with the override, and the one read without it. -/
inductive TwinItems (n : Nat) (key : SchemaKey) : SchemaItem → SchemaItem → Prop
  | same (item : SchemaItem) : TwinItems n key item item
  | served (e : ExternalRef) (hn : o.first ≤ n) (he : o.Serves key e) :
      TwinItems n key (.external { e with target := some o.number })
        (.external { e with target := o.before? })

/-- A schema read with the override, and the one read without it. -/
structure Twins (n : Nat) (s t : Schema) : Prop where
  shell_eq : s.shell = t.shell
  items : List.Forall₂ (o.TwinItems n t.key) s.items t.items
  components : s.components.Alike t.components

/-- A collection with the override beside one without it. -/
structure Beside (c d : Collection) : Prop where
  schemas : ∀ n : Nat, Option.Rel (o.Twins n) c.schemas[n]? d.schemas[n]?
  early : c.known = (o.uri, o.number) :: o.known
  late : d.known = o.known

variable {o} {n : Nat} {s t : Schema} {c d c' d' : Collection}

theorem twinItems_refl (o : Override) (n : Nat) (key : SchemaKey) (items : List SchemaItem) :
    List.Forall₂ (o.TwinItems n key) items items :=
  List.forall₂_same.2 fun item _ => .same item

namespace Twins

theorem refl (s : Schema) : o.Twins n s s := ⟨rfl, o.twinItems_refl n _ _, .refl _⟩

theorem key_eq (h : o.Twins n s t) : s.key = t.key := (congrArg Schema.key h.shell_eq :)

theorem number_eq (h : o.Twins n s t) : s.number = t.number :=
  (congrArg Schema.number h.shell_eq :)

theorem lookup?_eq (h : o.Twins n s t) (kind : ComponentKind) (name : QName) :
    s.lookup? kind name = t.lookup? kind name := by
  have hnames : s.names = t.names := (congrArg Schema.names h.shell_eq :)
  rw [Schema.lookup?, Schema.lookup?, hnames, h.number_eq]

/-- The name of a component does not depend on the types that were found. -/
theorem nameOf_eq (h : o.Twins n s t) {kind : ComponentKind} (id : ComponentId kind) :
    (s.get? id).bind kind.nameOf = (t.get? id).bind kind.nameOf := by
  have hname : ∀ x : Option kind.Component,
      x.bind kind.nameOf = (x.map kind.unresolved).bind kind.nameOf := by
    intro x
    cases x with
    | none => rfl
    | some x => cases kind <;> rfl
  have hi := congrArg (fun xs : Array kind.Component => xs[id.index]?) (h.components kind)
  simp only [Array.getElem?_map] at hi
  unfold Schema.get?
  rw [h.number_eq]
  split
  · rw [hname, ← hi, ← hname]
  · rfl

end Twins

namespace Beside

theorem refl {c : Collection} (first : Nat) (resolver : Resolver) (uri : String) (number : Nat) :
    Beside ⟨resolver, uri, number, c.known, first⟩ (c.mapNamespace uri number) c where
  schemas n := by
    show Option.Rel _ c.schemas[n]? c.schemas[n]?
    cases c.schemas[n]? with
    | none => exact .none
    | some s => exact .some (.refl s)
  early := rfl
  late := rfl

section Lookup

variable (h : o.Beside c d)
include h

theorem exists_early (ht : d.schemas[n]? = some t) :
    ∃ s, c.schemas[n]? = some s ∧ o.Twins n s t := by
  have hn := h.schemas n
  rw [ht] at hn
  generalize c.schemas[n]? = x at hn
  cases hn with
  | some htwins => exact ⟨_, rfl, htwins⟩

theorem schemas_eq_none (ht : d.schemas[n]? = none) : c.schemas[n]? = none := by
  have hn := h.schemas n
  rw [ht] at hn
  generalize c.schemas[n]? = x at hn
  cases hn
  rfl

theorem known?_eq (uri : String) :
    c.known? uri = if uri = o.uri then some o.number else d.known? uri := by
  unfold Collection.known?
  rw [h.early, h.late]
  split
  · rename_i huri
    rw [huri, List.lookup_cons_self]
  · rename_i huri
    rw [List.lookup_cons, beq_false_of_ne huri]

theorem map_shell_eq : c.schemas.map Schema.shell = d.schemas.map Schema.shell := by
  refine Array.ext_getElem? fun n => ?_
  rw [Array.getElem?_map, Array.getElem?_map]
  have hn := h.schemas n
  generalize c.schemas[n]? = x at hn
  generalize d.schemas[n]? = y at hn
  cases hn with
  | none => rfl
  | some htwins => exact congrArg some htwins.shell_eq

theorem size_eq : c.schemas.size = d.schemas.size := by
  simpa using congrArg Array.size h.map_shell_eq

theorem schema?_eq (key : SchemaKey) :
    (c.schema? key).map Schema.shell = (d.schema? key).map Schema.shell := by
  have hfind : ∀ e : Collection, (e.schema? key).map Schema.shell =
      (e.schemas.map Schema.shell).toList.find? (·.key == key) := by
    intro e
    rw [Array.toList_map, List.find?_map]
    rfl
  rw [hfind, hfind, h.map_shell_eq]

theorem number?_eq (key : SchemaKey) : c.number? key = d.number? key := by
  have hnumber : Schema.number ∘ Schema.shell = Schema.number := rfl
  have hkey := congrArg (Option.map Schema.number) (h.schema?_eq key)
  rw [Option.map_map, Option.map_map, hnumber] at hkey
  exact hkey

theorem bindings_eq (key : SchemaKey) :
    (c.schema? key).map Schema.bindings = (d.schema? key).map Schema.bindings := by
  have hbindings : Schema.bindings ∘ Schema.shell = Schema.bindings := rfl
  have hkey := congrArg (Option.map Schema.bindings) (h.schema?_eq key)
  rw [Option.map_map, Option.map_map, hbindings] at hkey
  exact hkey

theorem ticketsOf_eq : Workspace.ticketsOf c = Workspace.ticketsOf d := by
  have htickets : ∀ e : Collection, Workspace.ticketsOf e =
      (e.schemas.map Schema.shell).toList.filterMap fun s => s.source.map Source.ticket := by
    intro e
    rw [Array.toList_map, List.filterMap_map]
    rfl
  rw [htickets, htickets, h.map_shell_eq]

theorem components (n : Nat) : (c.components n).Alike (d.components n) := by
  have hn := h.schemas n
  unfold Collection.components
  generalize c.schemas[n]? = x at hn
  generalize d.schemas[n]? = y at hn
  cases hn with
  | none => exact .refl _
  | some htwins => exact htwins.components

end Lookup

section Change

theorem modify (h : o.Beside c d) {f g : Schema → Schema}
    (hfg : ∀ s t, d.schemas[n]? = some t → o.Twins n s t → o.Twins n (f s) (g t)) :
    o.Beside (c.modify n f) (d.modify n g) where
  schemas i := by
    rw [Collection.schemas_modify, Collection.schemas_modify]
    split
    · rename_i hn
      subst hn
      cases ht : d.schemas[n]? with
      | none =>
          rw [h.schemas_eq_none ht]
          exact .none
      | some t =>
          obtain ⟨s, hs, htwins⟩ := h.exists_early ht
          rw [hs]
          exact .some (hfg s t ht htwins)
    · exact h.schemas i
  early := h.early
  late := h.late

/-- A change that leaves items and components alone. -/
theorem modify_shell (h : o.Beside c d) {f : Schema → Schema}
    (hf : ∀ s, (f s).shell = f s.shell) (hitems : ∀ s, (f s).items = s.items)
    (hkey : ∀ s, (f s).key = s.key) (hcomponents : ∀ s, (f s).components = s.components) :
    o.Beside (c.modify n f) (d.modify n f) := by
  refine h.modify fun s t _ htwins => ⟨?_, ?_, ?_⟩
  · rw [hf, hf, htwins.shell_eq]
  · rw [hitems, hitems, hkey]
    exact htwins.items
  · rw [hcomponents, hcomponents]
    exact htwins.components

theorem findsTypes (h : o.Beside c d) (hc : c.FindsTypes c') (hd : d.FindsTypes d')
    (hearly : c'.known = c.known) (hlate : d'.known = d.known) : o.Beside c' d' where
  schemas n := by
    have habsent : ∀ {a b : Collection}, a.FindsTypes b → a.schemas[n]? = none →
        b.schemas[n]? = none := by
      intro a b hab ha
      have hframe := hab.frame n
      rw [ha, Option.map_none] at hframe
      exact Option.map_eq_none_iff.1 hframe
    cases ht : d.schemas[n]? with
    | none =>
        rw [habsent hc (h.schemas_eq_none ht), habsent hd ht]
        exact .none
    | some t =>
        obtain ⟨s, hs, htwins⟩ := h.exists_early ht
        obtain ⟨s', hs', hframe, halike⟩ := hc.exists_later hs
        obtain ⟨t', ht', hframe', halike'⟩ := hd.exists_later ht
        rw [hs', ht']
        have hshell : ∀ {a b : Schema}, a.frame = b.frame → a.shell = b.shell :=
          fun hab => (congrArg Schema.shell hab :)
        have hitems : s'.items = s.items := (congrArg Schema.items hframe :)
        have hitems' : t'.items = t.items := (congrArg Schema.items hframe' :)
        have hkey' : t'.key = t.key := (congrArg Schema.key hframe' :)
        refine .some ⟨(hshell hframe).trans (htwins.shell_eq.trans (hshell hframe').symm), ?_, ?_⟩
        · rw [hitems, hitems', hkey']
          exact htwins.items
        · exact fun kind => (halike' kind).trans ((htwins.components kind).trans (halike kind).symm)
  early := hearly.trans h.early
  late := hlate.trans h.late

/-- What is read alike on two workbenches is taken over by the collections. -/
theorem absorb (h : o.Beside c d) (n : Nat) {b b' : Workbench}
    (hb : b.components.Alike b'.components) : o.Beside (c.absorb n b) (d.absorb n b') := by
  have hfurnish : o.Beside (c.furnish n b.components) (d.furnish n b'.components) := by
    refine h.modify fun s t _ htwins => ?_
    exact ⟨htwins.shell_eq, htwins.items, hb⟩
  exact hfurnish.findsTypes (.attachAll _) (.attachAll _) (Collection.known_attachAll _)
    (Collection.known_attachAll _)

theorem addItem (h : o.Beside c d) {item item' : SchemaItem}
    (hitem : ∀ t, d.schemas[n]? = some t → o.TwinItems n t.key item item') :
    o.Beside (c.addItem n item) (d.addItem n item') := by
  refine h.modify fun s t ht htwins => ⟨htwins.shell_eq, ?_, htwins.components⟩
  exact List.rel_append htwins.items (.cons (hitem t ht) .nil)

theorem push (h : o.Beside c d) (s : Schema) : o.Beside (c.push s) (d.push s) where
  schemas n := by
    rw [Collection.schemas_push, Collection.schemas_push, h.size_eq]
    split
    · exact .some (.refl s)
    · exact h.schemas n
  early := h.early
  late := h.late

/-- A component is registered in both collections or refused by both. -/
theorem register (h : o.Beside c d) {kind : ComponentKind} (id : ComponentId kind) :
    (∃ e, c.register id = .error e ∧ d.register id = .error e) ∨
      ∃ c' d', c.register id = .ok c' ∧ d.register id = .ok d' ∧ o.Beside c' d' := by
  unfold Collection.register
  cases ht : d.schemas[id.schema]? with
  | none =>
      rw [h.schemas_eq_none ht]
      exact .inr ⟨c, d, rfl, rfl, h⟩
  | some t =>
      obtain ⟨s, hs, htwins⟩ := h.exists_early ht
      rw [hs]
      dsimp only
      rw [htwins.nameOf_eq]
      cases (t.get? id).bind kind.nameOf with
      | none =>
          rw [htwins.key_eq]
          exact .inl ⟨_, rfl, rfl⟩
      | some name =>
          dsimp only
          rw [htwins.lookup?_eq]
          split
          · rw [htwins.key_eq]
            exact .inl ⟨_, rfl, rfl⟩
          · refine .inr ⟨_, _, rfl, rfl, ?_⟩
            have henroll : o.Beside (c.enroll id name) (d.enroll id name) := by
              refine h.modify_shell ?_ ?_ ?_ ?_
              all_goals exact fun _ => rfl
            exact henroll.findsTypes (.settle name id) (.settle name id)
              (Collection.known_settle name id) (Collection.known_settle name id)

theorem enlist (h : o.Beside c d) {kind : ComponentKind} (id : ComponentId kind) :
    (∃ e, c.enlist id = .error e ∧ d.enlist id = .error e) ∨
      ∃ c' d', c.enlist id = .ok c' ∧ d.enlist id = .ok d' ∧ o.Beside c' d' := by
  unfold Collection.enlist
  rcases h.register id with ⟨e, hc, hd⟩ | ⟨c', d', hc, hd, h'⟩
  · rw [hc, hd]
    exact .inl ⟨e, rfl, rfl⟩
  · rw [hc, hd]
    exact .inr ⟨_, _, rfl, rfl, h'.addItem fun _ _ => .same _⟩

end Change

end Beside

end Override

end XmlSchema
