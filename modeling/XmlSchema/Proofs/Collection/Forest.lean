import Mathlib.Data.List.Induction
import XmlSchema.Proofs.Collection.Ownership
import XmlSchema.Proofs.Collection.Writable

/-!
# Components as a forest

In balanced schemas the components that are defined in place form a forest:
each of them stands in one place, after everything that it is made of.  To
follow the parts of a component therefore comes to an end, and comes upon no
component twice.
-/

namespace XmlSchema

open List

/-- The component that an item lists. -/
def SchemaItem.component? : SchemaItem → Option ComponentRef
  | component ref => some ref
  | _ => none

theorem ComponentKind.unresolved_unresolved (kind : ComponentKind) (x : kind.Component) :
    kind.unresolved (kind.unresolved x) = kind.unresolved x := by
  have hslot : ∀ slot : TypeSlot, slot.unresolved.unresolved = slot.unresolved := by
    intro slot
    cases slot <;> rfl
  cases kind with
  | element => exact congrArg (fun slot => { x with type := slot }) (hslot (ElementDecl.type x))
  | «attribute» =>
      exact congrArg (fun slot => { x with type := slot }) (hslot (AttributeDecl.type x))
  | _ => rfl

theorem Components.Alike.nested_eq {cs later : Components} (h : cs.Alike later) :
    later.nested = cs.nested := by
  -- the parts of a component do not depend on the type that its slot has found
  have hparts : ∀ (kind : ComponentKind) (xs : List kind.Component),
      xs.flatMap kind.parts = (xs.map kind.unresolved).flatMap kind.parts := by
    intro kind xs
    rw [flatMap_map]
    refine flatMap_congr fun x _ => ?_
    exact (ComponentKind.parts_congr (kind.unresolved_unresolved x)).symm
  refine flatMap_congr fun kind _ => ?_
  have hkind := congrArg Array.toList (h kind)
  rw [Array.toList_map, Array.toList_map] at hkind
  rw [hparts, hkind, ← hparts]

namespace Schema

variable {s : Schema} {log before after : List AnyComponent} {ref : ComponentRef}

/-- The components that the items of a schema list, in order. -/
def listed (s : Schema) : List ComponentRef := s.items.filterMap SchemaItem.component?

/-- The identities that stand inside the components of a schema and in its
redefinitions, as often as they stand there. -/
def nested (s : Schema) : List ComponentRef :=
  s.components.nested ++ s.externals.flatMap ExternalRef.redefined

theorem refs_perm (s : Schema) :
    s.refs ~ s.listed ++ s.externals.flatMap ExternalRef.redefined := by
  unfold refs listed externals
  induction s.items with
  | nil => exact .refl _
  | cons item rest ih =>
      rw [flatMap_cons]
      cases item with
      | note a => exact ih
      | component ref => exact ih.cons ref
      | external e =>
          refine (ih.append_left e.redefined).trans ?_
          have hfront : e.redefined ++ (rest.filterMap SchemaItem.component? ++
              (rest.filterMap SchemaItem.external?).flatMap ExternalRef.redefined) ~
              rest.filterMap SchemaItem.component? ++ (e.redefined ++
              (rest.filterMap SchemaItem.external?).flatMap ExternalRef.redefined) := by
            rw [← append_assoc, ← append_assoc]
            exact perm_append_comm.append_right _
          exact hfront

/-- An order in which the components of a balanced schema can have been owned. -/
structure Ledger (s : Schema) (log : List AnyComponent) : Prop where
  alike : (({} : Components).pushAll log).Alike s.components
  founded : Components.Founded s.number {} log
  once : s.refs ++ Components.taken log <+~ Components.issued s.number {} log

theorem Balanced.exists_ledger (h : s.Balanced []) : ∃ log, s.Ledger log := by
  obtain ⟨log, halike, hfounded, honce⟩ := h
  exact ⟨log, halike, hfounded, honce⟩

namespace Ledger

theorem mem_issued_iff (h : s.Ledger log) :
    ref ∈ Components.issued s.number {} log ↔ s.components.Has s.number ref := by
  rw [Components.mem_issued_iff, Components.has_congr h.alike.count_eq, Components.count_empty]
  exact and_iff_left (Nat.zero_le _)

theorem total_eq (h : s.Ledger log) : s.components.total = log.length := by
  rw [h.alike.total_eq, Components.total_pushAll]
  exact Nat.zero_add _

/-- Everything that is listed, redefined or part of a component stands in one
place. -/
theorem nodup (h : s.Ledger log) : (s.listed ++ s.nested).Nodup := by
  have hnested : s.components.nested ~ Components.taken log := by
    rw [h.alike.nested_eq]
    exact Components.nested_pushAll_perm
  have hperm : s.listed ++ s.nested ~ s.refs ++ Components.taken log := by
    refine (Perm.append_left s.listed ?_).trans
      ((append_assoc _ _ _) ▸ (s.refs_perm.symm.append_right (Components.taken log)))
    exact perm_append_comm.trans (hnested.append_left _)
  obtain ⟨issued, hissued, hsub⟩ := h.once
  exact (hperm.trans hissued.symm).nodup_iff.2 (Components.nodup_issued.sublist hsub)

/-- Everything that is listed, redefined or part of a component is a component
of the schema. -/
theorem has_of_mem (h : s.Ledger log) (href : ref ∈ s.listed ++ s.nested) :
    s.components.Has s.number ref := by
  rw [← h.mem_issued_iff]
  refine h.once.subset ?_
  rcases mem_append.1 href with hlisted | hnested
  · exact mem_append_left _ (s.refs_perm.symm.subset (mem_append_left _ hlisted))
  rcases mem_append.1 hnested with hpart | hredefined
  · rw [h.alike.nested_eq] at hpart
    exact mem_append_right _ (Components.nested_pushAll_perm.subset hpart)
  · exact mem_append_left _ (s.refs_perm.symm.subset (mem_append_right _ hredefined))

theorem exists_component (h : s.Ledger log) {x : AnyComponent} (hlog : log = before ++ x :: after) :
    ∃ y, s.components.get? (⟨s.number, (({} : Components).pushAll before).count x.1⟩ :
      ComponentId x.1) = some y ∧ x.1.parts y = x.parts := by
  subst hlog
  obtain ⟨y, hy, hyx⟩ := Components.exists_get?_pushAll {} before x after
  obtain ⟨z, hz, hzy⟩ := Components.Alike.exists_earlier (fun kind => (h.alike kind).symm) hy
  exact ⟨z, hz, ComponentKind.parts_congr (hzy.symm.trans hyx)⟩

/-- What is inherited from the parts of a component, step by step, holds of
every component. -/
theorem induct (h : s.Ledger log) {P : Nat → ComponentRef → Prop}
    (hmono : ∀ k ref, P k ref → P (k + 1) ref)
    (hstep : ∀ k ref x, ref.id.schema = s.number → s.components.get? ref.id = some x →
      (∀ part ∈ ref.kind.parts x, P k part) → P (k + 1) ref) :
    ∀ ref, s.components.Has s.number ref → P log.length ref := by
  -- by induction on the first components of the ledger
  have hbefore : ∀ before after, log = before ++ after →
      ∀ ref ∈ Components.issued s.number {} before, P before.length ref := by
    intro before
    induction before using List.reverseRecOn with
    | nil => exact fun _ _ _ href => absurd href not_mem_nil
    | append_singleton before x ih =>
        intro after hlog ref href
        have hlog' : log = before ++ x :: after := by rw [hlog, append_assoc, singleton_append]
        rw [length_append, length_singleton]
        rw [Components.issued_concat] at href
        rcases mem_append.1 href with hold | hnew
        · exact hmono _ _ (ih (x :: after) hlog' ref hold)
        · obtain ⟨y, hy, hparts⟩ := h.exists_component hlog'
          rw [mem_singleton.1 hnew]
          refine hstep _ _ y rfl hy fun part hpart => ih (x :: after) hlog' part ?_
          rw [hparts] at hpart
          exact Components.mem_issued_iff.2 ⟨h.founded.parts_before hlog' part hpart,
            Components.count_empty part.kind ▸ Nat.zero_le _⟩
  exact fun ref href => hbefore log [] (append_nil log).symm ref (h.mem_issued_iff.2 href)

/-- To follow the parts of what stands in one place each comes upon nothing
twice. -/
theorem flatMap_subperm (h : s.Ledger log) {V : ComponentRef → List ComponentRef}
    (hV : ∀ ref x, ref.id.schema = s.number → s.components.get? ref.id = some x →
      V ref = ref :: (ref.kind.parts x).flatMap V) {refs : List ComponentRef}
    (hrefs : refs ++ Components.taken log <+~ Components.issued s.number {} log) :
    refs.flatMap V <+~ Components.issued s.number {} log := by
  have hbefore : ∀ before after, log = before ++ after → ∀ refs,
      refs ++ Components.taken before <+~ Components.issued s.number {} before →
      refs.flatMap V <+~ Components.issued s.number {} before := by
    intro before
    induction before using List.reverseRecOn with
    | nil =>
        intro after _ refs hle
        have hnil : refs = [] := append_eq_nil_iff.1 (subperm_nil.1 hle) |>.1
        subst hnil
        exact .refl _
    | append_singleton before x ih =>
        intro after hlog refs hle
        have hlog' : log = before ++ x :: after := by rw [hlog, append_assoc, singleton_append]
        obtain ⟨y, hy, hparts⟩ := h.exists_component hlog'
        have hroot := hV ⟨x.1, s.number, (({} : Components).pushAll before).count x.1⟩ y rfl hy
        rw [hparts] at hroot
        rw [Components.issued_concat, Components.taken_concat] at *
        generalize hnew : (⟨x.1, s.number, (({} : Components).pushAll before).count x.1⟩ :
          ComponentRef) = new at *
        by_cases hmem : new ∈ refs
        · -- the last component is one of those to follow: its parts take its place
          have hperm := perm_cons_erase hmem
          have hrest := ih (x :: after) hlog' (refs.erase new ++ x.parts) <| by
            refine subperm_ext_iff.2 fun ref _ => ?_
            have hcount := hle.count_le ref
            rw [count_append, hperm.count_eq] at hcount
            simp only [count_append, count_cons, count_nil] at hcount ⊢
            omega
          refine subperm_ext_iff.2 fun ref _ => ?_
          have hcount := hrest.count_le ref
          rw [(hperm.flatMap_right V).count_eq, flatMap_cons, hroot]
          simp only [flatMap_append, count_append, count_cons, count_nil, cons_append] at hcount ⊢
          omega
        · -- nothing of the last component is to be followed
          refine (ih (x :: after) hlog' refs ?_).trans (sublist_append_left _ _).subperm
          refine subperm_ext_iff.2 fun ref href => ?_
          have hne : new ≠ ref := by
            rintro rfl
            rcases mem_append.1 href with href | href
            · exact hmem href
            · have hfounded : Components.Founded s.number {} before :=
                (Components.founded_append.1 (hlog' ▸ h.founded)).1
              have hlt := (hfounded.has_of_mem_taken href).2
              subst hnew
              exact absurd hlt (Nat.lt_irrefl _)
          have hcount := hle.count_le ref
          simp only [count_append, count_singleton, beq_iff_eq, hne, if_false] at hcount ⊢
          omega
  exact hbefore log [] (append_nil log).symm refs hrefs

end Ledger

end Schema

namespace Collection

variable {c : Collection} {first n : Nat} {s : Schema} {ref : ComponentRef}

/-- The parts of a component that is there. -/
def partsOf (c : Collection) (ref : ComponentRef) : List ComponentRef :=
  ((c.get? ref.id).map ref.kind.parts).getD []

/-- A component, and what is defined in place inside it down to some depth, in
document order. -/
def descent (c : Collection) : Nat → ComponentRef → List ComponentRef
  | 0, _ => []
  | depth + 1, ref => ref :: (c.partsOf ref).flatMap (c.descent depth)

/-- A component with everything that is defined in place inside it. -/
def tree (c : Collection) (ref : ComponentRef) : List ComponentRef :=
  c.descent (c.components ref.id.schema).total ref

/-- The components of a schema in the order of its document, references to
other documents first. -/
def visited (c : Collection) (s : Schema) : List ComponentRef :=
  ((Writer.writtenItems s.items).flatMap SchemaItem.refs).flatMap c.tree

/-- The components of the schemas are owned one by one.  Whatever is listed as
an item, redefined or nested in a component stands in no second place of the
collection; what is nested is a component of the same schema, and there is an
order in which every component comes after its parts. -/
structure Forest (c : Collection) : Prop where
  nodup : (c.schemas.toList.flatMap fun s => s.listed ++ s.nested).Nodup
  owned : ∀ (n : Nat) (s : Schema), c.schemas[n]? = some s → ∀ ref ∈ s.nested,
    ref.id.schema = n ∧ ∃ x, c.get? ref.id = some x
  ordered : ∀ (n : Nat) (s : Schema), c.schemas[n]? = some s → ∃ log : List AnyComponent,
    (({} : Components).pushAll log).Alike s.components ∧
      ∀ before x after, log = before ++ x :: after →
        ∀ part ∈ x.parts, (({} : Components).pushAll before).Has n part

theorem get?_of_schema (hc : c.Numbered) (hs : c.schemas[n]? = some s) (href : ref.id.schema = n) :
    c.get? ref.id = s.components.get? ref.id := by
  rw [get?_eq hc, href, components_of_schema hs]

namespace Balanced

theorem exists_ledger (h : c.Balanced first n []) {m : Nat} (hm : first ≤ m)
    (hs : c.schemas[m]? = some s) : ∃ log, s.Ledger log :=
  (h.elsewhere m |>.onHand hm hs).exists_ledger

theorem has_of_mem (h : c.Balanced first n []) {m : Nat} (hm : first ≤ m)
    (hs : c.schemas[m]? = some s) (href : ref ∈ s.listed ++ s.nested) :
    s.components.Has m ref := by
  obtain ⟨log, hlog⟩ := h.exists_ledger hm hs
  have hhas := hlog.has_of_mem href
  rwa [h.numbered m s hs] at hhas

/-- The components of balanced schemas form a forest. -/
theorem forest (h : c.Balanced 0 n []) : c.Forest where
  nodup := by
    refine nodup_flatMap.2 ⟨fun s hs => ?_, pairwise_iff_getElem.2 fun i j hi hj hij => ?_⟩
    · obtain ⟨m, hm⟩ := Array.mem_iff_getElem?.1 (Array.mem_toList_iff.1 hs)
      obtain ⟨log, hlog⟩ := h.exists_ledger (Nat.zero_le m) hm
      exact hlog.nodup
    · -- two schemas have no component in common
      intro ref href href'
      have hs : c.schemas[i]? = some c.schemas.toList[i] := Array.getElem?_eq_getElem hi
      have hs' : c.schemas[j]? = some c.schemas.toList[j] := Array.getElem?_eq_getElem hj
      have heq := (h.has_of_mem (Nat.zero_le i) hs href).1.symm.trans
        (h.has_of_mem (Nat.zero_le j) hs' href').1
      omega
  owned m s hs ref href := by
    have hhas := h.has_of_mem (Nat.zero_le m) hs (mem_append_right _ href)
    refine ⟨hhas.1, ?_⟩
    rw [get?_of_schema h.numbered hs hhas.1]
    exact hhas.exists_get
  ordered m s hs := by
    obtain ⟨log, hlog⟩ := h.exists_ledger (Nat.zero_le m) hs
    refine ⟨log, hlog.alike, fun before x after hsplit part hpart => ?_⟩
    rw [← h.numbered m s hs]
    exact hlog.founded.parts_before hsplit part hpart

/-- To go from components to their parts comes to an end. -/
theorem wellFounded (h : c.Balanced 0 n []) : WellFounded fun part ref => c.IsPart ref part := by
  refine ⟨fun ref => ?_⟩
  by_cases hx : ∃ x, c.get? ref.id = some x
  · obtain ⟨x, hx⟩ := hx
    obtain ⟨s, hs, hget⟩ := Option.bind_eq_some_iff.1 hx
    obtain ⟨log, hlog⟩ := h.exists_ledger (Nat.zero_le _) hs
    have hnumber := h.numbered _ s hs
    refine hlog.induct (P := fun _ ref => Acc (fun part ref => c.IsPart ref part) ref)
      (fun _ _ h => h) ?_ ref ?_
    · intro _ ref' y hschema hy hparts
      refine ⟨_, fun part => ?_⟩
      rintro ⟨z, hz, hpart⟩
      rw [get?_of_schema h.numbered hs (hschema.trans hnumber)] at hz
      cases Option.some.inj (hy.symm.trans hz)
      exact hparts part hpart
    · refine ⟨hnumber.symm, ?_⟩
      rw [get?_of_schema h.numbered hs rfl] at hx
      exact (Array.getElem?_eq_some_iff.1 hx).1
  · exact ⟨_, fun part hpart => absurd (hpart.imp fun _ h => h.1) hx⟩

/-- A tree consists of its root and of the trees of the parts. -/
theorem tree_eq (h : c.Balanced first n []) (hfirst : first ≤ ref.id.schema)
    {x : ref.kind.Component} (hx : c.get? ref.id = some x) :
    c.tree ref = ref :: (ref.kind.parts x).flatMap c.tree := by
  obtain ⟨s, hs, hget⟩ := Option.bind_eq_some_iff.1 hx
  obtain ⟨log, hlog⟩ := h.exists_ledger hfirst hs
  have hnumber := h.numbered _ s hs
  have htotal : (c.components ref.id.schema).total = log.length := by
    rw [components_of_schema hs]
    exact hlog.total_eq
  -- deeper than there are components, nothing more is found
  have hstable := hlog.induct (P := fun k ref => ∀ depth, k ≤ depth →
    c.descent depth ref = c.descent k ref) ?_ ?_
  · have hhas : s.components.Has s.number ref := by
      refine ⟨hnumber.symm, ?_⟩
      rw [get?_of_schema h.numbered hs rfl] at hx
      exact (Array.getElem?_eq_some_iff.1 hx).1
    have hparts : c.partsOf ref = ref.kind.parts x := by rw [partsOf, hx]; rfl
    rw [tree, htotal, ← hstable ref hhas (log.length + 1) (Nat.le_succ _), descent, hparts]
    refine congrArg _ (flatMap_congr fun part hpart => ?_)
    -- a part belongs to the same schema, so that its tree is as deep at most
    rw [get?_of_schema h.numbered hs rfl] at hx
    have hpart := hlog.has_of_mem (mem_append_right _
      (mem_append_left _ (Components.mem_nested hx hpart)))
    rw [tree, hpart.1, hnumber, htotal]
  · intro k ref hk depth hdepth
    rw [hk depth (by omega), hk (k + 1) (by omega)]
  · intro k ref' y hschema hy hparts depth hdepth
    obtain ⟨depth, rfl⟩ : ∃ d, depth = d + 1 := ⟨depth - 1, by omega⟩
    have hpartsOf : c.partsOf ref' = ref'.kind.parts y := by
      rw [partsOf, get?_of_schema h.numbered hs (hschema.trans hnumber), hy]
      rfl
    rw [descent, descent, hpartsOf]
    exact congrArg _ (flatMap_congr fun part hpart => hparts part hpart depth (by omega))

/-- What is met while a schema is written are components of the schema, none of
them twice. -/
theorem visited_once (h : c.Balanced first n []) {m : Nat} (hm : first ≤ m)
    (hs : c.schemas[m]? = some s) :
    (c.visited s).Nodup ∧ ∀ ref ∈ c.visited s, ref.id.schema = m ∧ ∃ x, c.get? ref.id = some x := by
  obtain ⟨log, hlog⟩ := h.exists_ledger hm hs
  have hnumber := h.numbered m s hs
  -- the order in which items are written does not matter here
  have hwritten : (Writer.writtenItems s.items).flatMap SchemaItem.refs ~ s.refs := by
    refine Perm.flatMap_right _ ?_
    have hrest : ∀ item : SchemaItem, item.external?.isNone = !item.external?.isSome :=
      fun item => (Option.not_isSome item.external?).symm
    unfold Writer.writtenItems
    simp only [hrest]
    exact filter_append_perm _ _
  have hsub : c.visited s <+~ Components.issued s.number {} log := by
    refine hlog.flatMap_subperm (fun ref x hschema hx => ?_)
      ((hwritten.append_right _).subperm.trans hlog.once)
    have hschema' : ref.id.schema = m := hschema.trans hnumber
    refine h.tree_eq (hschema' ▸ hm) ?_
    rw [get?_of_schema h.numbered hs hschema', hx]
  refine ⟨?_, fun ref href => ?_⟩
  · obtain ⟨issued, hissued, hsublist⟩ := hsub
    exact hissued.nodup_iff.1 (Components.nodup_issued.sublist hsublist)
  · have hhas := hlog.mem_issued_iff.1 (hsub.subset href)
    rw [hnumber] at hhas
    refine ⟨hhas.1, ?_⟩
    rw [get?_of_schema h.numbered hs hhas.1]
    exact hhas.exists_get

end Balanced

end Collection

end XmlSchema
