import Mathlib.Data.List.Basic
import Mathlib.Logic.Relation
import XmlSchema.Proofs.Collection.Emission
import XmlSchema.Proofs.Collection.Naming

/-!
# The search for a name

A search forgets a schema as soon as it backs out of it, and so may enter one
schema many times along different ways.  It answers nevertheless what a walk
answers that enters each schema once: a schema that has been backed out of
holds nothing, and whatever can be reached from it without passing through the
schemas on the way has been looked at as well.
-/

namespace XmlSchema.Collection

/-- What a schema has registered under a name. -/
def lookupAt? (c : Collection) (kind : ComponentKind) (name : QName) (n : Nat) :
    Option (ComponentId kind) :=
  (c.schemas[n]?).bind (·.lookup? kind name)

/-- A schema refers to another one. -/
def Refers (c : Collection) (n target : Nat) : Prop :=
  ∃ s, c.schemas[n]? = some s ∧ target ∈ c.targets s

/-- The search of some schemas one after the other, without a bound on its
depth; `path` holds the schemas on the way to them. -/
inductive Searches (c : Collection) (kind : ComponentKind) (name : QName) :
    List Nat → List Nat → Option (ComponentId kind) → Prop
  | nothing {path} : Searches c kind name path [] none
  | onPath {path n rest found} (hn : n ∈ path) (hrest : Searches c kind name path rest found) :
      Searches c kind name path (n :: rest) found
  | missing {path n rest found} (hn : n ∉ path) (hs : c.schemas[n]? = none)
      (hrest : Searches c kind name path rest found) :
      Searches c kind name path (n :: rest) found
  | here {path n rest s id} (hn : n ∉ path) (hs : c.schemas[n]? = some s)
      (hid : s.lookup? kind name = some id) :
      Searches c kind name path (n :: rest) (some id)
  | inside {path n rest s id} (hn : n ∉ path) (hs : c.schemas[n]? = some s)
      (hnone : s.lookup? kind name = none)
      (hinner : Searches c kind name (n :: path) (c.targets s) (some id)) :
      Searches c kind name path (n :: rest) (some id)
  | backOut {path n rest s found} (hn : n ∉ path) (hs : c.schemas[n]? = some s)
      (hnone : s.lookup? kind name = none)
      (hinner : Searches c kind name (n :: path) (c.targets s) none)
      (hrest : Searches c kind name path rest found) :
      Searches c kind name path (n :: rest) found

/-- The schemas in the order in which a walk enters them that goes depth first,
follows references in item order and enters no schema twice; `seen` holds those
that it has entered before. -/
def preorder (c : Collection) (seen : List Nat) : List Nat → List Nat
  | [] => []
  | n :: rest =>
      if n ∈ seen then c.preorder seen rest
      else
        match _hs : c.schemas[n]? with
        | none => c.preorder seen rest
        | some s => n :: c.preorder (n :: seen) (c.targets s ++ rest)
termination_by pending => (Emission.remaining c seen, pending.length)
decreasing_by
  · exact .right _ (Nat.lt_succ_self _)
  · exact .right _ (Nat.lt_succ_self _)
  · exact .left _ _ (Emission.remaining_cons_lt (Array.getElem?_eq_some_iff.1 _hs).1 ‹n ∉ seen›)

variable {c : Collection} {kind : ComponentKind} {name : QName}
  {path seen pending rest : List Nat} {n m : Nat} {s : Schema} {found : Option (ComponentId kind)}

section Walk

@[simp] theorem preorder_nil : c.preorder seen [] = [] := by rw [preorder]

theorem preorder_seen (hn : n ∈ seen) : c.preorder seen (n :: rest) = c.preorder seen rest := by
  rw [preorder, if_pos hn]

theorem preorder_missing (hs : c.schemas[n]? = none) :
    c.preorder seen (n :: rest) = c.preorder seen rest := by
  rw [preorder]
  split
  · rfl
  · split
    · rfl
    · rename_i hs'
      rw [hs] at hs'
      cases hs'

theorem preorder_enter (hn : n ∉ seen) (hs : c.schemas[n]? = some s) :
    c.preorder seen (n :: rest) = n :: c.preorder (n :: seen) (c.targets s ++ rest) := by
  rw [preorder, if_neg hn]
  split
  · rename_i hs'
    rw [hs] at hs'
    cases hs'
  · rename_i t hs'
    cases Option.some.inj (hs.symm.trans hs')
    rfl

/-- What follows from the three ways in which a walk goes on holds of the whole
walk. -/
theorem preorder_induct {motive : List Nat → List Nat → Prop}
    (nil : ∀ seen, motive seen [])
    (pass : ∀ seen n rest, (n ∈ seen ∨ c.schemas[n]? = none) → motive seen rest →
      motive seen (n :: rest))
    (enter : ∀ seen n rest s, n ∉ seen → c.schemas[n]? = some s →
      motive (n :: seen) (c.targets s ++ rest) → motive seen (n :: rest))
    (seen pending : List Nat) : motive seen pending := by
  induction seen, pending using preorder.induct c with
  | case1 seen => exact nil seen
  | case2 seen n rest hn ih => exact pass seen n rest (.inl hn) ih
  | case3 seen n rest hn hs ih => exact pass seen n rest (.inr hs) ih
  | case4 seen n rest hn s hs ih => exact enter seen n rest s hn hs ih

theorem preorder_pass (h : n ∈ seen ∨ c.schemas[n]? = none) :
    c.preorder seen (n :: rest) = c.preorder seen rest :=
  h.elim preorder_seen preorder_missing

/-- A walk enters only registered schemas, and none that it has seen. -/
theorem of_mem_preorder (hm : m ∈ c.preorder seen pending) :
    m ∉ seen ∧ m < c.schemas.size := by
  induction seen, pending using preorder_induct (c := c) with
  | nil seen => simp at hm
  | pass seen n rest h ih =>
      rw [preorder_pass h] at hm
      exact ih hm
  | enter seen n rest s hn hs ih =>
      rw [preorder_enter hn hs] at hm
      rcases List.mem_cons.1 hm with rfl | hm
      · exact ⟨hn, (Array.getElem?_eq_some_iff.1 hs).1⟩
      · exact ⟨fun hmem => (ih hm).1 (List.mem_cons_of_mem n hmem), (ih hm).2⟩

/-- A walk enters no schema twice. -/
theorem nodup_preorder (c : Collection) (seen pending : List Nat) :
    (c.preorder seen pending).Nodup := by
  induction seen, pending using preorder_induct (c := c) with
  | nil seen => simp
  | pass seen n rest h ih =>
      rw [preorder_pass h]
      exact ih
  | enter seen n rest s hn hs ih =>
      rw [preorder_enter hn hs]
      exact List.nodup_cons.2 ⟨fun hmem => (of_mem_preorder hmem).1 List.mem_cons_self, ih⟩

/-- Every schema that a walk enters can be reached from where it starts. -/
theorem exists_of_mem_preorder (hm : m ∈ c.preorder seen pending) :
    ∃ n ∈ pending, Relation.ReflTransGen c.Refers n m := by
  induction seen, pending using preorder_induct (c := c) with
  | nil seen => simp at hm
  | pass seen n rest h ih =>
      rw [preorder_pass h] at hm
      obtain ⟨k, hk, hreach⟩ := ih hm
      exact ⟨k, List.mem_cons_of_mem n hk, hreach⟩
  | enter seen n rest s hn hs ih =>
      rw [preorder_enter hn hs] at hm
      rcases List.mem_cons.1 hm with rfl | hm
      · exact ⟨m, List.mem_cons_self, .refl⟩
      · obtain ⟨k, hk, hreach⟩ := ih hm
        rcases List.mem_append.1 hk with hk | hk
        · exact ⟨n, List.mem_cons_self, .head ⟨s, hs, hk⟩ hreach⟩
        · exact ⟨k, List.mem_cons_of_mem n hk, hreach⟩

/-- What a walk comes upon is seen before it or entered by it. -/
theorem mem_preorder_of_mem (hn : n ∈ pending) (hsize : n < c.schemas.size) :
    n ∈ seen ∨ n ∈ c.preorder seen pending := by
  induction seen, pending using preorder_induct (c := c) with
  | nil seen => cases hn
  | pass seen k rest h ih =>
      rw [preorder_pass h]
      rcases List.mem_cons.1 hn with rfl | hn
      · rcases h with h | h
        · exact .inl h
        · rw [Array.getElem?_eq_none_iff] at h
          omega
      · exact ih hn
  | enter seen k rest s hk hs ih =>
      rw [preorder_enter hk hs]
      rcases List.mem_cons.1 hn with rfl | hn
      · exact .inr List.mem_cons_self
      · rcases ih (List.mem_append_right _ hn) with h | h
        · rcases List.mem_cons.1 h with rfl | h
          · exact .inr List.mem_cons_self
          · exact .inl h
        · exact .inr (List.mem_cons_of_mem k h)

/-- What a schema that a walk enters refers to is seen before or entered as
well. -/
theorem mem_preorder_of_refers (hn : n ∈ c.preorder seen pending) (href : c.Refers n m)
    (hm : m < c.schemas.size) : m ∈ seen ∨ m ∈ c.preorder seen pending := by
  induction seen, pending using preorder_induct (c := c) with
  | nil seen => simp at hn
  | pass seen k rest h ih =>
      rw [preorder_pass h] at hn ⊢
      exact ih hn
  | enter seen k rest s hk hs ih =>
      rw [preorder_enter hk hs] at hn ⊢
      have hinner : m ∈ k :: seen ∨ m ∈ c.preorder (k :: seen) (c.targets s ++ rest) := by
        rcases List.mem_cons.1 hn with rfl | hn
        · obtain ⟨s', hs', hmem⟩ := href
          cases Option.some.inj (hs.symm.trans hs')
          exact mem_preorder_of_mem (List.mem_append_left _ hmem) hm
        · exact ih hn
      rcases hinner with h | h
      · rcases List.mem_cons.1 h with rfl | h
        · exact .inr List.mem_cons_self
        · exact .inl h
      · exact .inr (List.mem_cons_of_mem k h)

end Walk

section Search

theorem lookupAt?_eq (hs : c.schemas[n]? = some s) :
    c.lookupAt? kind name n = s.lookup? kind name := by
  rw [lookupAt?, hs, Option.bind_some]

/-- A search has one answer. -/
theorem Searches.unique {other : Option (ComponentId kind)}
    (h : c.Searches kind name path pending found) (h' : c.Searches kind name path pending other) :
    found = other := by
  induction h generalizing other with
  | nothing =>
      cases h'
      rfl
  | onPath hn _ ih =>
      cases h' with
      | onPath _ hrest => exact ih hrest
      | _ => contradiction
  | missing hn hs _ ih =>
      cases h' with
      | onPath => contradiction
      | missing _ _ hrest => exact ih hrest
      | _ => simp_all
  | here hn hs hid =>
      cases h' with
      | onPath => contradiction
      | _ => simp_all
  | inside hn hs hnone _ ih =>
      cases h' with
      | onPath => contradiction
      | inside _ hs' _ hinner =>
          cases Option.some.inj (hs.symm.trans hs')
          exact ih hinner
      | backOut _ hs' _ hinner =>
          cases Option.some.inj (hs.symm.trans hs')
          cases ih hinner
      | _ => simp_all
  | backOut hn hs hnone _ _ ih ihRest =>
      cases h' with
      | onPath => contradiction
      | inside _ hs' _ hinner =>
          cases Option.some.inj (hs.symm.trans hs')
          cases ih hinner
      | backOut _ _ _ _ hrest => exact ihRest hrest
      | _ => simp_all

/-- Within a bound that exceeds the number of schemas that are not on the way,
the bounded search is the search without a bound. -/
theorem searches_search (kind : ComponentKind) (name : QName) (fuel : Nat) :
    ∀ (path pending : List Nat), Emission.remaining c path < fuel →
      c.Searches kind name path pending (pending.findSome? (c.search kind name fuel path)) := by
  induction fuel with
  | zero => exact fun _ _ h => absurd h (Nat.not_lt_zero _)
  | succ fuel ih =>
      intro path pending hfuel
      induction pending with
      | nil => exact .nothing
      | cons n rest ihRest =>
          by_cases hn : n ∈ path
          · have hstop : c.search kind name (fuel + 1) path n = none := by
              rw [search, if_pos (by simpa using hn)]
            rw [List.findSome?_cons, hstop]
            exact .onPath hn ihRest
          have hgo : ¬ path.contains n = true := by simpa using hn
          cases hs : c.schemas[n]? with
          | none =>
              have hstop : c.search kind name (fuel + 1) path n = none := by
                rw [search, if_neg hgo, hs]
              rw [List.findSome?_cons, hstop]
              exact .missing hn hs ihRest
          | some s =>
              cases hid : s.lookup? kind name with
              | some id =>
                  have hhere : c.search kind name (fuel + 1) path n = some id := by
                    rw [search, if_neg hgo, hs]
                    simp only [hid]
                  rw [List.findSome?_cons, hhere]
                  exact .here hn hs hid
              | none =>
                  have hsize : n < c.schemas.size := (Array.getElem?_eq_some_iff.1 hs).1
                  -- each step inwards puts one more schema on the way
                  have hless : Emission.remaining c (n :: path) < fuel := by
                    have := Emission.remaining_cons_lt hsize hn
                    omega
                  have hinner := ih (n :: path) (c.targets s) hless
                  have hdown : c.search kind name (fuel + 1) path n =
                      (c.targets s).findSome? (c.search kind name fuel (n :: path)) := by
                    rw [search, if_neg hgo, hs]
                    simp only [hid]
                  rw [List.findSome?_cons, hdown]
                  cases hfound : (c.targets s).findSome? (c.search kind name fuel (n :: path)) with
                  | some id =>
                      rw [hfound] at hinner
                      exact .inside hn hs hid hinner
                  | none =>
                      rw [hfound] at hinner
                      exact .backOut hn hs hid hinner ihRest

/-- Schemas that hold nothing under a name and, but for those on the way, refer
only to such schemas. -/
structure Barren (c : Collection) (kind : ComponentKind) (name : QName) (path seen : List Nat) :
    Prop where
  path_subset : path ⊆ seen
  lookup : ∀ n ∈ seen, c.lookupAt? kind name n = none
  closed : ∀ n ∈ seen, n ∉ path → ∀ m, c.Refers n m → m < c.schemas.size → m ∈ seen

namespace Barren

/-- A schema that holds nothing is put on the way. -/
theorem enter (h : c.Barren kind name path seen) (hn : c.lookupAt? kind name n = none) :
    c.Barren kind name (n :: path) (n :: seen) where
  path_subset := List.cons_subset_cons n h.path_subset
  lookup := List.forall_mem_cons.2 ⟨hn, h.lookup⟩
  closed := by
    intro k hk hpath m href hm
    rw [List.mem_cons, not_or] at hpath
    have hseen : k ∈ seen := (List.mem_cons.1 hk).resolve_left hpath.1
    exact List.mem_cons_of_mem n (h.closed k hseen hpath.2 m href hm)

/-- A schema that the search has seen before is put on the way again. -/
theorem reenter (h : c.Barren kind name path seen) (hn : n ∈ seen) :
    c.Barren kind name (n :: path) seen where
  path_subset := List.cons_subset.2 ⟨hn, h.path_subset⟩
  lookup := h.lookup
  closed k hk hpath := h.closed k hk fun hmem => hpath (List.mem_cons_of_mem n hmem)

/-- The search backs out of a schema whose references have all been seen. -/
theorem leave (h : c.Barren kind name (n :: path) seen)
    (hn : ∀ m, c.Refers n m → m < c.schemas.size → m ∈ seen) :
    c.Barren kind name path seen where
  path_subset := (List.cons_subset.1 h.path_subset).2
  lookup := h.lookup
  closed := by
    intro k hk hpath
    by_cases hkn : k = n
    · subst hkn
      exact hn
    · exact h.closed k hk fun hmem => (List.mem_cons.1 hmem).elim hkn hpath

/-- Among schemas that have been seen a search finds nothing, however it comes
to them. -/
theorem finds_nothing (h : c.Barren kind name path seen)
    (hpending : ∀ n ∈ pending, n < c.schemas.size → n ∈ seen)
    (hsearch : c.Searches kind name path pending found) : found = none := by
  induction hsearch with
  | nothing => rfl
  | onPath _ _ ih => exact ih h fun m hm => hpending m (List.mem_cons_of_mem _ hm)
  | missing _ _ _ ih => exact ih h fun m hm => hpending m (List.mem_cons_of_mem _ hm)
  | here _ hs hid =>
      have hsize := (Array.getElem?_eq_some_iff.1 hs).1
      have hnone := h.lookup _ (hpending _ List.mem_cons_self hsize)
      rw [lookupAt?_eq hs, hid] at hnone
      cases hnone
  | inside hn hs _ _ ih =>
      have hsize := (Array.getElem?_eq_some_iff.1 hs).1
      have hseen := hpending _ List.mem_cons_self hsize
      exact ih (h.reenter hseen) fun m hm hlt => h.closed _ hseen hn m ⟨_, hs, hm⟩ hlt
  | backOut _ _ _ _ _ _ ihRest =>
      exact ihRest h fun m hm => hpending m (List.mem_cons_of_mem _ hm)

end Barren

/-- What a search comes to, told by a walk that goes on with other schemas: the
walk comes upon the same component, or it goes on having seen more schemas that
hold nothing. -/
def Matches (c : Collection) (kind : ComponentKind) (name : QName)
    (path seen pending : List Nat) : Option (ComponentId kind) → Prop
  | some id => ∀ rest,
      (c.preorder seen (pending ++ rest)).findSome? (c.lookupAt? kind name) = some id
  | none => ∃ more, seen ⊆ more ∧ c.Barren kind name path more ∧
      (∀ n ∈ pending, n < c.schemas.size → n ∈ more) ∧
      ∀ rest, (c.preorder seen (pending ++ rest)).findSome? (c.lookupAt? kind name) =
        (c.preorder more rest).findSome? (c.lookupAt? kind name)

/-- A schema that the walk passes over does not matter. -/
theorem Matches.pass (h : c.Matches kind name path seen pending found)
    (hn : n ∈ seen ∨ c.schemas[n]? = none) :
    c.Matches kind name path seen (n :: pending) found := by
  cases found with
  | some id =>
      intro rest
      rw [List.cons_append, preorder_pass hn]
      exact h rest
  | none =>
      obtain ⟨more, hsub, hbarren, hmem, hwalk⟩ := h
      refine ⟨more, hsub, hbarren, ?_, fun rest => ?_⟩
      · intro m hm hlt
        rcases List.mem_cons.1 hm with rfl | hm
        · rcases hn with hn | hn
          · exact hsub hn
          · rw [Array.getElem?_eq_none_iff] at hn
            omega
        · exact hmem m hm hlt
      · rw [List.cons_append, preorder_pass hn]
        exact hwalk rest

/-- The walk enters a schema that holds nothing. -/
theorem findSome?_preorder_enter (hn : n ∉ seen) (hs : c.schemas[n]? = some s)
    (hnone : s.lookup? kind name = none) (rest : List Nat) :
    (c.preorder seen (n :: rest)).findSome? (c.lookupAt? kind name) =
      (c.preorder (n :: seen) (c.targets s ++ rest)).findSome? (c.lookupAt? kind name) := by
  rw [preorder_enter hn hs, List.findSome?_cons, lookupAt?_eq hs, hnone]

/-- A search and a walk that never enters a schema twice come upon the same
component. -/
theorem Searches.matches (h : c.Searches kind name path pending found) :
    ∀ {seen : List Nat}, c.Barren kind name path seen →
      c.Matches kind name path seen pending found := by
  induction h with
  | nothing =>
      intro seen hseen
      exact ⟨seen, List.Subset.refl _, hseen, nofun, fun _ => rfl⟩
  | onPath hn _ ih =>
      intro seen hseen
      exact (ih hseen).pass (.inl (hseen.path_subset hn))
  | missing _ hs _ ih =>
      intro seen hseen
      exact (ih hseen).pass (.inr hs)
  | @here path n rest s id hn hs hid =>
      intro seen hseen
      -- what has been seen holds nothing, so the walk enters the schema now
      have hnew : n ∉ seen := by
        intro hmem
        have hnone := hseen.lookup n hmem
        rw [lookupAt?_eq hs, hid] at hnone
        cases hnone
      intro rest
      rw [List.cons_append, preorder_enter hnew hs, List.findSome?_cons, lookupAt?_eq hs, hid]
  | @inside path n rest s id hn hs hnone hinner ih =>
      intro seen hseen
      have hnew : n ∉ seen := by
        intro hmem
        have hempty := (hseen.reenter hmem).finds_nothing
          (fun m hm hlt => hseen.closed n hmem hn m ⟨s, hs, hm⟩ hlt) hinner
        cases hempty
      have hn' : c.lookupAt? kind name n = none := by rw [lookupAt?_eq hs, hnone]
      intro rest'
      rw [List.cons_append, findSome?_preorder_enter hnew hs hnone]
      exact ih (hseen.enter hn') (rest ++ rest')
  | @backOut path n rest s found hn hs hnone hinner _ ih ihRest =>
      intro seen hseen
      by_cases hmem : n ∈ seen
      · exact (ihRest hseen).pass (.inl hmem)
      have hn' : c.lookupAt? kind name n = none := by rw [lookupAt?_eq hs, hnone]
      obtain ⟨more, hsub, hbarren, htargets, hwalk⟩ := ih (hseen.enter hn')
      have hleft : c.Barren kind name path more := by
        refine hbarren.leave fun m href hm => ?_
        obtain ⟨s', hs', hmem'⟩ := href
        cases Option.some.inj (hs.symm.trans hs')
        exact htargets m hmem' hm
      have hrest := ihRest hleft
      have hstep : ∀ rest', (c.preorder seen (n :: rest ++ rest')).findSome?
            (c.lookupAt? kind name) =
          (c.preorder more (rest ++ rest')).findSome? (c.lookupAt? kind name) := by
        intro rest'
        rw [List.cons_append, findSome?_preorder_enter hmem hs hnone, hwalk]
      cases found with
      | some id =>
          intro rest'
          rw [hstep]
          exact hrest rest'
      | none =>
          obtain ⟨final, hsub', hbarren', hmem', hwalk'⟩ := hrest
          refine ⟨final, fun k hk => hsub' (hsub (List.mem_cons_of_mem n hk)), hbarren', ?_, ?_⟩
          · intro m hm hlt
            rcases List.mem_cons.1 hm with rfl | hm
            · exact hsub' (hsub List.mem_cons_self)
            · exact hmem' m hm hlt
          · intro rest'
            rw [hstep, hwalk']

end Search

/-- The schemas that a search for a name can come to: those that can be reached
along the references from a schema of its namespace. -/
def Reaches (c : Collection) (name : QName) (m : Nat) : Prop :=
  ∃ n s, c.schemas[n]? = some s ∧ s.logicalNamespace = name.namespaceName ∧
    Relation.ReflTransGen c.Refers n m

theorem mem_startingPoints (h : c.Numbered) :
    n ∈ c.startingPoints name ↔
      ∃ s, c.schemas[n]? = some s ∧ s.logicalNamespace = name.namespaceName := by
  simp only [startingPoints, List.mem_map, List.mem_filter, beq_iff_eq]
  constructor
  · rintro ⟨s, ⟨hs, hspace⟩, rfl⟩
    obtain ⟨i, hi⟩ := Array.getElem?_of_mem (Array.mem_toList_iff.1 hs)
    rw [h i s hi]
    exact ⟨s, hi, hspace⟩
  · rintro ⟨s, hs, hspace⟩
    exact ⟨s, ⟨Array.mem_toList_iff.2 (Array.mem_of_getElem? hs), hspace⟩, h n s hs⟩

/-- The search without a bound ends with what is found. -/
theorem searches_find? (c : Collection) (kind : ComponentKind) (name : QName) :
    c.Searches kind name [] (c.startingPoints name) (c.find? kind name) := by
  refine searches_search kind name _ [] _ ?_
  have hle : Emission.remaining c [] ≤ (List.range c.schemas.size).length :=
    List.length_filter_le _ _
  rw [List.length_range] at hle
  exact Nat.lt_succ_of_le hle

/-- What is found is what a walk comes upon first. -/
theorem find?_eq_preorder (c : Collection) (kind : ComponentKind) (name : QName) :
    c.find? kind name =
      (c.preorder [] (c.startingPoints name)).findSome? (c.lookupAt? kind name) := by
  have hseen : c.Barren kind name [] [] := ⟨List.Subset.refl _, nofun, nofun⟩
  have hmatches := (searches_find? c kind name).matches hseen
  cases hfound : c.find? kind name with
  | some id =>
      rw [hfound] at hmatches
      have hwalk := hmatches []
      rw [List.append_nil] at hwalk
      exact hwalk.symm
  | none =>
      rw [hfound] at hmatches
      obtain ⟨more, -, -, -, hwalk⟩ := hmatches
      have hend := hwalk []
      rw [List.append_nil, preorder_nil] at hend
      exact hend.symm

/-- A walk from the schemas of a namespace enters all that can be reached from
them. -/
theorem mem_preorder_iff (h : c.Numbered) (hm : m < c.schemas.size) :
    m ∈ c.preorder [] (c.startingPoints name) ↔ c.Reaches name m := by
  constructor
  · intro hmem
    obtain ⟨n, hn, hreach⟩ := exists_of_mem_preorder hmem
    obtain ⟨s, hs, hspace⟩ := (mem_startingPoints h).1 hn
    exact ⟨n, s, hs, hspace, hreach⟩
  · rintro ⟨n, s, hs, hspace, hreach⟩
    have hstart : n ∈ c.preorder [] (c.startingPoints name) :=
      (mem_preorder_of_mem ((mem_startingPoints h).2 ⟨s, hs, hspace⟩)
        (Array.getElem?_eq_some_iff.1 hs).1).resolve_left nofun
    induction hreach with
    | refl => exact hstart
    | tail _ href ih =>
        -- a schema that refers to another one is registered
        obtain ⟨t, ht, -⟩ := id href
        have hbefore := ih (Array.getElem?_eq_some_iff.1 ht).1
        exact (mem_preorder_of_refers hbefore href hm).resolve_left nofun

/-- A component of some kind is found exactly when a schema that can be reached
from one of the namespace has registered the name. -/
theorem find?_isSome_iff (h : c.Numbered) :
    (c.find? kind name).isSome ↔
      ∃ m s, c.Reaches name m ∧ c.schemas[m]? = some s ∧ (s.lookup? kind name).isSome := by
  rw [find?_eq_preorder, List.findSome?_isSome_iff]
  constructor
  · rintro ⟨m, hmem, hfound⟩
    have hsize := (of_mem_preorder hmem).2
    have hs := Array.getElem?_eq_getElem hsize
    rw [lookupAt?_eq hs] at hfound
    exact ⟨m, _, (mem_preorder_iff h hsize).1 hmem, hs, hfound⟩
  · rintro ⟨m, s, hreach, hs, hfound⟩
    have hsize := (Array.getElem?_eq_some_iff.1 hs).1
    refine ⟨m, (mem_preorder_iff h hsize).2 hreach, ?_⟩
    rw [lookupAt?_eq hs]
    exact hfound

/-- The search for a name comes to an end, whatever the schemas refer to, and
has one answer.  It finds a component exactly when a schema that can be reached
from one of the namespace has registered the name, and what it finds is in the
first of these that a walk enters which goes depth first from the schemas of
the namespace, in the order of registration, and never enters one twice. -/
theorem find?_exact (h : c.Numbered) (kind : ComponentKind) (name : QName) :
    (∀ found, c.Searches kind name [] (c.startingPoints name) found ↔
      found = c.find? kind name) ∧
    ((c.find? kind name).isSome ↔
      ∃ m s, c.Reaches name m ∧ c.schemas[m]? = some s ∧ (s.lookup? kind name).isSome) ∧
    ((c.preorder [] (c.startingPoints name)).Nodup ∧
      (∀ m < c.schemas.size, m ∈ c.preorder [] (c.startingPoints name) ↔ c.Reaches name m) ∧
      c.find? kind name =
        (c.preorder [] (c.startingPoints name)).findSome? (c.lookupAt? kind name)) := by
  refine ⟨fun found => ⟨fun hsearch => hsearch.unique (searches_find? c kind name), ?_⟩,
    find?_isSome_iff h, nodup_preorder c [] _, fun m hm => mem_preorder_iff h hm,
    find?_eq_preorder c kind name⟩
  rintro rfl
  exact searches_find? c kind name

/-- Three schemas that refer to one another in a ring, and to the last of them
only by way of the namespace that it stands in for; only the last declares the
element, and only the first is of its namespace. -/
def importRing : Collection :=
  let element : ElementDecl := { name := some ⟨"urn:a", "e"⟩ }
  let schema (number : Nat) (uri : String) (items : List SchemaItem) : Schema :=
    { number, key := ⟨uri, toString number⟩, items }
  { schemas := #[Catalogue.schema,
      schema 1 "urn:a" [.external { kind := .inclusion, target := some 2 },
        .external { kind := .importation, namespaceName := some "urn:c" }],
      schema 2 "urn:b" [.external { kind := .importation, target := some 1 }],
      { schema 3 "urn:c" [.external { kind := .redefinition, target := some 2 }] with
        components := { elements := #[element] }
        names := [⟨.element, ⟨"urn:a", "e"⟩, 0⟩] }]
    known := [("urn:c", 3)] }

theorem numbered_importRing : importRing.Numbered := by
  intro i s hs
  have hi : i < 4 := (Array.getElem?_eq_some_iff.1 hs).1
  match i, hi with
  | 0, _ | 1, _ | 2, _ | 3, _ =>
      cases hs
      rfl

/-- In the ring the declaration is found by way of the import. -/
theorem find?_exact_importRing :
    importRing.Numbered ∧ importRing.find? .element ⟨"urn:a", "e"⟩ = some ⟨3, 0⟩ ∧
      importRing.Searches .element ⟨"urn:a", "e"⟩ [] [1] (some ⟨3, 0⟩) := by
  have hfound : importRing.find? .element ⟨"urn:a", "e"⟩ = some ⟨3, 0⟩ := by decide +kernel
  have hstart : importRing.startingPoints ⟨"urn:a", "e"⟩ = [1] := by decide +kernel
  have hsearch := ((find?_exact numbered_importRing .element ⟨"urn:a", "e"⟩).1 _).2 hfound.symm
  rw [hstart] at hsearch
  exact ⟨numbered_importRing, hfound, hsearch⟩

end XmlSchema.Collection
