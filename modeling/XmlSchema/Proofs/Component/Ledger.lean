import Mathlib.Algebra.Order.Group.Multiset
import XmlSchema.Proofs.Collection.Slots
import XmlSchema.Proofs.Component.Parts

/-!
# The order in which components are owned

A ledger lists the components of a schema in the order in which they were
owned.  It settles which identities were issued, and with them whether every
component comes after its parts.
-/

namespace XmlSchema

/-- A component with its kind. -/
abbrev AnyComponent := (kind : ComponentKind) × kind.Component

/-- The parts of a component. -/
def AnyComponent.parts (x : AnyComponent) : List ComponentRef := x.1.parts x.2

namespace Components

variable {n : Nat} {cs cs' : Components} {ref : ComponentRef} {log more : List AnyComponent}

/-- A table in which the components of a ledger have been owned. -/
def pushAll (cs : Components) (log : List AnyComponent) : Components :=
  log.foldl (fun cs x => cs.push x.1 x.2) cs

/-- The identities that the components of a ledger get. -/
def issued (n : Nat) : Components → List AnyComponent → List ComponentRef
  | _, [] => []
  | cs, x :: rest => ⟨x.1, n, cs.count x.1⟩ :: issued n (cs.push x.1 x.2) rest

/-- An identity of a schema that has been issued. -/
def Has (cs : Components) (n : Nat) (ref : ComponentRef) : Prop :=
  ref.id.schema = n ∧ ref.id.index < cs.count ref.kind

/-- In a ledger every component comes after its parts. -/
def Founded (n : Nat) : Components → List AnyComponent → Prop
  | _, [] => True
  | cs, x :: rest => (∀ part ∈ x.parts, cs.Has n part) ∧ Founded n (cs.push x.1 x.2) rest

/-- Everything that the components of a ledger are made of. -/
def taken (log : List AnyComponent) : List ComponentRef := log.flatMap AnyComponent.parts

theorem pushAll_append : cs.pushAll (log ++ more) = (cs.pushAll log).pushAll more :=
  List.foldl_append

theorem extends_pushAll : cs.Extends (cs.pushAll log) := by
  induction log generalizing cs with
  | nil => exact .refl cs
  | cons x rest ih => exact (Extends.push cs x.1 x.2).trans ih

theorem count_empty (kind : ComponentKind) : ({} : Components).count kind = 0 := by
  cases kind <;> rfl

theorem count_push_eq (cs : Components) (kind other : ComponentKind) (x : kind.Component) :
    (cs.push kind x).count other = if other = kind then cs.count other + 1 else cs.count other := by
  split
  · rename_i h
    subst h
    exact cs.count_push other x
  · rename_i h
    exact cs.count_push_of_ne x h

section Alike

theorem Alike.refl (cs : Components) : cs.Alike cs := fun _ => rfl

theorem Alike.trans {cs'' : Components} (h : cs.Alike cs') (h' : cs'.Alike cs'') :
    cs.Alike cs'' := fun kind => (h' kind).trans (h kind)

theorem Alike.count_eq (h : cs.Alike cs') (kind : ComponentKind) :
    cs'.count kind = cs.count kind := by
  have hsize := congrArg Array.size (h kind)
  rw [Array.size_map, Array.size_map] at hsize
  exact hsize

theorem Alike.push (h : cs.Alike cs') (kind : ComponentKind) (x : kind.Component) :
    (cs.push kind x).Alike (cs'.push kind x) := by
  intro other
  by_cases ho : other = kind
  · subst ho
    rw [ofKind_push, ofKind_push, Array.map_push, Array.map_push, h other]
  · rw [ofKind_push_of_ne cs x ho, ofKind_push_of_ne cs' x ho, h other]

theorem Alike.pushAll (h : cs.Alike cs') : (cs.pushAll log).Alike (cs'.pushAll log) := by
  induction log generalizing cs cs' with
  | nil => exact h
  | cons x rest ih => exact ih (h.push x.1 x.2)

theorem Alike.exists_earlier (h : cs.Alike cs') {kind : ComponentKind} {i : Nat}
    {y : kind.Component} (hy : (cs'.ofKind kind)[i]? = some y) :
    ∃ x, (cs.ofKind kind)[i]? = some x ∧ kind.unresolved y = kind.unresolved x := by
  have hi := congrArg (fun a : Array kind.Component => a[i]?) (h kind)
  simp only [Array.getElem?_map, hy, Option.map_some] at hi
  obtain ⟨x, hx, hyx⟩ := Option.map_eq_some_iff.1 hi.symm
  exact ⟨x, hx, hyx.symm⟩

end Alike

section Counts

variable (hcounts : ∀ kind, cs'.count kind = cs.count kind)
include hcounts

theorem has_congr : cs'.Has n ref ↔ cs.Has n ref := by
  rw [Has, Has, hcounts]

theorem count_push_congr (kind other : ComponentKind) (x : kind.Component) :
    (cs'.push kind x).count other = (cs.push kind x).count other := by
  rw [count_push_eq, count_push_eq, hcounts]

/-- Which identities are issued depends only on how many there are. -/
theorem issued_congr : issued n cs' log = issued n cs log := by
  induction log generalizing cs cs' with
  | nil => rfl
  | cons x rest ih =>
      rw [issued, issued, hcounts, ih fun other => count_push_congr hcounts x.1 other x.2]

theorem founded_congr : Founded n cs' log ↔ Founded n cs log := by
  induction log generalizing cs cs' with
  | nil => rfl
  | cons x rest ih =>
      rw [Founded, Founded, ih fun other => count_push_congr hcounts x.1 other x.2]
      simp only [has_congr hcounts]

end Counts

theorem issued_append :
    issued n cs (log ++ more) = issued n cs log ++ issued n (cs.pushAll log) more := by
  induction log generalizing cs with
  | nil => rfl
  | cons x rest ih => rw [List.cons_append, issued, issued, ih, List.cons_append]; rfl

theorem founded_append :
    Founded n cs (log ++ more) ↔ Founded n cs log ∧ Founded n (cs.pushAll log) more := by
  induction log generalizing cs with
  | nil => exact ⟨fun h => ⟨trivial, h⟩, And.right⟩
  | cons x rest ih =>
      rw [List.cons_append, Founded, Founded, ih, and_assoc]
      rfl

theorem founded_of_parts (h : ∀ x ∈ log, x.parts = []) : Founded n cs log := by
  induction log generalizing cs with
  | nil => trivial
  | cons x rest ih =>
      refine ⟨?_, ih fun y hy => h y (List.mem_cons_of_mem x hy)⟩
      rw [h x List.mem_cons_self]
      exact nofun

theorem taken_append : taken (log ++ more) = taken log ++ taken more := List.flatMap_append

/-- The identities that have been issued are those that were not there before. -/
theorem mem_issued_iff :
    ref ∈ issued n cs log ↔ (cs.pushAll log).Has n ref ∧ cs.count ref.kind ≤ ref.id.index := by
  induction log generalizing cs with
  | nil =>
      refine ⟨nofun, fun ⟨⟨_, hlt⟩, hle⟩ => ?_⟩
      exact absurd hlt (Nat.not_lt.2 hle)
  | cons x rest ih =>
      rw [issued, List.mem_cons, ih, count_push_eq]
      have hcount : (cs.push x.1 x.2).count x.1 ≤ ((cs.push x.1 x.2).pushAll rest).count x.1 :=
        extends_pushAll.count_le x.1
      rw [cs.count_push] at hcount
      constructor
      · rintro (rfl | ⟨hhas, hle⟩)
        · exact ⟨⟨rfl, hcount⟩, Nat.le_refl _⟩
        · refine ⟨hhas, ?_⟩
          split at hle <;> omega
      · rintro ⟨hhas, hle⟩
        obtain ⟨kind, schema, index⟩ := ref
        by_cases hnew : kind = x.1 ∧ index = cs.count x.1
        · obtain ⟨rfl, rfl⟩ := hnew
          obtain ⟨rfl, -⟩ := hhas
          exact .inl rfl
        · refine .inr ⟨hhas, ?_⟩
          dsimp only at hle ⊢
          split
          · rename_i hkind
            subst hkind
            have hne : index ≠ cs.count x.1 := fun h => hnew ⟨rfl, h⟩
            omega
          · exact hle

theorem Has.extend (h : cs.Has n ref) (hcs : cs.Extends cs') : cs'.Has n ref :=
  ⟨h.1, Nat.lt_of_lt_of_le h.2 (hcs.count_le ref.kind)⟩

theorem Has.exists_get (h : cs.Has n ref) : ∃ x, cs.get? ref.id = some x :=
  ⟨_, Array.getElem?_eq_getElem h.2⟩

/-- No identity is issued twice. -/
theorem nodup_issued : (issued n cs log).Nodup := by
  induction log generalizing cs with
  | nil => exact .nil
  | cons x rest ih =>
      refine List.nodup_cons.2 ⟨fun hmem => ?_, ih⟩
      have hle := (mem_issued_iff.1 hmem).2
      rw [cs.count_push] at hle
      exact absurd hle (by simp)

theorem issued_concat (x : AnyComponent) :
    issued n cs (log ++ [x]) = issued n cs log ++ [⟨x.1, n, (cs.pushAll log).count x.1⟩] :=
  issued_append

theorem taken_concat (x : AnyComponent) : taken (log ++ [x]) = taken log ++ x.parts := by
  rw [taken_append]
  exact congrArg (taken log ++ ·) (List.flatMap_singleton _ _)

/-- Nothing is made of what has not been issued. -/
theorem Founded.has_of_mem_taken (h : Founded n cs log) (href : ref ∈ taken log) :
    (cs.pushAll log).Has n ref := by
  induction log generalizing cs with
  | nil => cases href
  | cons x rest ih =>
      rcases List.mem_append.1 href with hpart | hrest
      · exact (h.1 ref hpart).extend ((Extends.push cs x.1 x.2).trans extends_pushAll)
      · exact ih h.2 hrest

/-- The component at each place of a ledger comes after its parts. -/
theorem Founded.parts_before (h : Founded n cs log) {before after : List AnyComponent}
    {x : AnyComponent} (hlog : log = before ++ x :: after) :
    ∀ part ∈ x.parts, (cs.pushAll before).Has n part := by
  subst hlog
  exact (founded_append.1 h).2.1

/-- A component is found under the identity that it got. -/
theorem exists_get?_pushAll (cs : Components) (before : List AnyComponent) (x : AnyComponent)
    (after : List AnyComponent) :
    ∃ y, ((cs.pushAll (before ++ x :: after)).ofKind x.1)[(cs.pushAll before).count x.1]? =
      some y ∧ x.1.unresolved y = x.1.unresolved x.2 := by
  have hsplit : cs.pushAll (before ++ x :: after) =
      ((cs.pushAll before).push x.1 x.2).pushAll after := pushAll_append
  rw [hsplit]
  exact extends_pushAll _ _ _ ((cs.pushAll before).getElem?_push_count x.1 x.2)

/-- The number of components of all kinds. -/
def total (cs : Components) : Nat := (ComponentKind.listed.map cs.count).foldr (· + ·) 0

theorem total_push (cs : Components) (kind : ComponentKind) (x : kind.Component) :
    (cs.push kind x).total = cs.total + 1 := by
  simp only [total, ComponentKind.listed, List.map_cons, List.map_nil, List.foldr_cons,
    List.foldr_nil, count_push_eq]
  cases kind <;> simp <;> omega

theorem total_pushAll : (cs.pushAll log).total = cs.total + log.length := by
  induction log generalizing cs with
  | nil => rfl
  | cons x rest ih =>
      have hrest : (cs.pushAll (x :: rest)).total = (cs.push x.1 x.2).total + rest.length := ih
      rw [hrest, total_push, List.length_cons, Nat.add_assoc, Nat.add_comm 1]

theorem Alike.total_eq (h : cs.Alike cs') : cs'.total = cs.total := by
  rw [total, total, List.map_congr_left fun kind _ => h.count_eq kind]

/-- Everything that the components of a table are made of. -/
def nested (cs : Components) : List ComponentRef :=
  ComponentKind.listed.flatMap fun kind => (cs.ofKind kind).toList.flatMap kind.parts

theorem mem_nested {kind : ComponentKind} {id : ComponentId kind} {x : kind.Component}
    (hx : cs.get? id = some x) (hpart : ref ∈ kind.parts x) : ref ∈ cs.nested := by
  have hlisted : kind ∈ ComponentKind.listed := by cases kind <;> decide
  refine List.mem_flatMap.2 ⟨kind, hlisted, List.mem_flatMap.2 ⟨x, ?_, hpart⟩⟩
  exact Array.mem_toList_iff.2 (Array.mem_of_getElem? hx)

theorem count_nested_push (cs : Components) (kind : ComponentKind) (x : kind.Component)
    (ref : ComponentRef) :
    (cs.push kind x).nested.count ref = cs.nested.count ref + (kind.parts x).count ref := by
  cases kind
  all_goals
    simp only [nested, ComponentKind.listed, List.flatMap_cons, List.flatMap_nil, ofKind, push,
      Array.toList_push, List.flatMap_append, List.count_append, List.append_nil]
    omega

theorem nested_pushAll_perm : (cs.pushAll log).nested.Perm (cs.nested ++ taken log) := by
  refine List.perm_iff_count.2 fun ref => ?_
  induction log generalizing cs with
  | nil => exact congrArg (List.count ref) (List.append_nil _).symm
  | cons x rest ih =>
      have hrest : List.count ref (cs.pushAll (x :: rest)).nested =
          List.count ref ((cs.push x.1 x.2).nested ++ taken rest) := ih
      have htaken : taken (x :: rest) = x.parts ++ taken rest := rfl
      rw [hrest, htaken, List.count_append, List.count_append, List.count_append,
        count_nested_push, Nat.add_assoc]
      rfl

end Components

end XmlSchema
