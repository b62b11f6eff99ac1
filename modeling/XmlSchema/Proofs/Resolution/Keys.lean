import Mathlib.Data.List.Nodup
import Mathlib.Data.List.Perm.Subperm
import XmlSchema.Proofs.Resolution.TypeRegistry

/-!
# Keys are registered once

In every collection that calls lead to, no two schemas have the same key, and a
composition registers nothing but keys that its plan allows.
-/

namespace XmlSchema

open Attempt

namespace Collection

/-- The keys of the schemas, in the order of their registration. -/
def keys (c : Collection) : List SchemaKey := c.schemas.toList.map Schema.key

variable {c later : Collection} {key : SchemaKey}

theorem length_keys (c : Collection) : c.keys.length = c.schemas.size := by
  simp [keys]

theorem getElem?_keys (c : Collection) (n : Nat) :
    c.keys[n]? = (c.schemas[n]?).map Schema.key := by
  simp [keys]

theorem schema?_eq_none_iff : c.schema? key = none ↔ key ∉ c.keys := by
  simp [schema?, keys]

theorem schema?_isSome_iff : (c.schema? key).isSome ↔ key ∈ c.keys := by
  rw [← Option.ne_none_iff_isSome, ne_eq, schema?_eq_none_iff, not_not]

theorem keys_push (c : Collection) (s : Schema) : (c.push s).keys = c.keys ++ [s.key] := by
  simp [keys, push]

theorem keys_modify {n : Nat} {f : Schema → Schema} (hf : ∀ s, (f s).key = s.key) :
    (c.modify n f).keys = c.keys := by
  apply List.ext_getElem?
  intro i
  rw [getElem?_keys, getElem?_keys, schemas_modify]
  split
  · rw [Option.map_map]
    congr 1
    exact funext hf
  · rfl

theorem SameFrame.keys_eq (h : c.SameFrame later) : later.keys = c.keys := by
  have hkey : Schema.key ∘ Schema.frame = Schema.key := rfl
  apply List.ext_getElem?
  intro n
  rw [getElem?_keys, getElem?_keys, ← hkey, ← Option.map_map, ← Option.map_map, h n]

theorem GrowsInPlace.keys_eq (h : c.GrowsInPlace later) : later.keys = c.keys := by
  apply List.ext_getElem?
  intro n
  rw [getElem?_keys, getElem?_keys]
  cases hs : c.schemas[n]? with
  | none =>
      have hn : later.schemas.size ≤ n := by
        have := Array.getElem?_eq_none_iff.1 hs
        have := h.size_eq
        omega
      rw [Array.getElem?_eq_none hn]
  | some s =>
      obtain ⟨s', hs', hgrows⟩ := h.grows n s hs
      rw [hs', Option.map_some, Option.map_some, hgrows.key_eq]

end Collection

namespace Compose.Plan

open Collection

variable {env : Environment} {P : Plan env} {c later : Collection}

theorem Change.keys (step : P.Change c later) :
    later.keys = c.keys ∨ ∃ key, P.key key ∧ key ∉ c.keys ∧ later.keys = c.keys ++ [key] := by
  rcases step.growsInPlace_or_begin with h | ⟨source, parent, inherited, hnew, hkey, rfl⟩
  · exact .inl h.keys_eq
  · exact .inr ⟨_, hkey, schema?_eq_none_iff.1 hnew, keys_push c _⟩

/-- A composition registers new keys of its plan, each of them once. -/
theorem Run.keys (h : P.Run c later) :
    ∃ new, later.keys = c.keys ++ new ∧ new.Nodup ∧ ∀ key ∈ new, P.key key ∧ key ∉ c.keys := by
  induction h with
  | refl => exact ⟨[], (List.append_nil _).symm, .nil, nofun⟩
  | @tail b later _ step ih =>
      obtain ⟨new, hb, hnodup, hnew⟩ := ih
      rcases step.keys with hlater | ⟨key, hkey, hfresh, hlater⟩
      · exact ⟨new, hlater.trans hb, hnodup, hnew⟩
      · rw [hb, List.mem_append, not_or] at hfresh
        refine ⟨new ++ [key], by rw [hlater, hb, List.append_assoc], ?_, ?_⟩
        · exact List.nodup_append.2 ⟨hnodup, List.nodup_singleton key, fun a ha b hb => by
            rw [List.mem_singleton.1 hb]
            rintro rfl
            exact hfresh.2 ha⟩
        · intro k hk
          rcases List.mem_append.1 hk with hk | hk
          · exact hnew k hk
          · rw [List.mem_singleton.1 hk]
            exact ⟨hkey, hfresh.1⟩

theorem Run.keys_nodup (h : P.Run c later) (hc : c.keys.Nodup) : later.keys.Nodup := by
  obtain ⟨new, hlater, hnodup, hnew⟩ := h.keys
  rw [hlater]
  refine List.nodup_append.2 ⟨hc, hnodup, fun a ha b hb => ?_⟩
  rintro rfl
  exact (hnew a hb).2 ha

theorem Run.keys_prefix (h : P.Run c later) : c.keys <+: later.keys := by
  obtain ⟨new, hlater, -⟩ := h.keys
  exact ⟨new, hlater.symm⟩

/-- When the keys of a plan are known, so is how many schemas it can add. -/
theorem Run.size_le (h : P.Run c later) {allowed : List SchemaKey}
    (hkey : ∀ key, P.key key → key ∈ allowed) :
    later.schemas.size ≤ c.schemas.size + allowed.length := by
  obtain ⟨new, hlater, hnodup, hnew⟩ := h.keys
  have hsub : new.length ≤ allowed.length :=
    (List.subperm_of_subset hnodup fun key hk => hkey key (hnew key hk).1).length_le
  have hlength := congrArg List.length hlater
  rw [List.length_append, length_keys, length_keys] at hlength
  omega

end Compose.Plan

namespace Collection

variable {c : Collection}

/-- The schemas of a collection are told apart by their numbers and by their
keys. -/
structure Keyed (c : Collection) : Prop where
  numbered : c.Numbered
  nodup : c.keys.Nodup

/-- Keys tell schemas apart. -/
theorem Keyed.eq_of_key {m m' : Nat} {s s' : Schema} (h : c.Keyed) (hs : c.schemas[m]? = some s)
    (hs' : c.schemas[m']? = some s') (hkey : s.key = s'.key) : m = m' := by
  have hm : c.keys[m]? = some s.key := by
    rw [getElem?_keys, hs]
    rfl
  have hm' : c.keys[m']? = some s.key := by
    rw [getElem?_keys, hs', hkey]
    rfl
  obtain ⟨hlt, hget⟩ := List.getElem?_eq_some_iff.1 hm
  obtain ⟨hlt', hget'⟩ := List.getElem?_eq_some_iff.1 hm'
  exact (h.nodup.getElem_inj_iff).1 (hget.trans hget'.symm)

theorem GrowsInPlace.keyed {later : Collection} (h : c.GrowsInPlace later) (hc : c.Keyed) :
    later.Keyed :=
  ⟨h.numbered hc.numbered, h.keys_eq ▸ hc.nodup⟩

end Collection

theorem Compose.Plan.Run.keyed {env : Environment} {P : Compose.Plan env} {c later : Collection}
    (h : P.Run c later) (hc : c.Keyed) : later.Keyed :=
  ⟨h.numbered hc.numbered, h.keys_nodup hc.nodup⟩

namespace Collection

variable {c : Collection}

theorem GrowsInPlace.allocate (h : c.Numbered) (n : Nat) (kind : ComponentKind)
    (x : kind.Component) : c.GrowsInPlace (c.allocate n kind x).2 := by
  by_cases hn : n < c.schemas.size
  · rw [allocate_eq h hn]
    refine .trans (.modify fun s hs => .of_components s ?_) (.attachAll _)
    exact components_of_schema hs ▸ Components.Extends.push _ kind x
  · rw [allocate_of_le (Nat.le_of_not_lt hn)]
    exact .refl c

theorem GrowsInPlace.add (h : c.Numbered) (n : Nat) (kind : ComponentKind)
    (x : kind.Component) : c.GrowsInPlace (c.add n kind x).2 := by
  have hall := GrowsInPlace.allocate h n kind (kind.markTopLevel x)
  rcases c.add_cases n kind x with ⟨-, heq⟩ | ⟨later, hlater, heq⟩
  · rw [heq]
    exact hall
  · rw [heq]
    exact hall.trans (.enlist hlater)

theorem Keyed.mapNamespace (h : c.Keyed) (uri : String) (n : Nat) :
    (c.mapNamespace uri n).Keyed :=
  (GrowsInPlace.of_schemas_eq rfl : c.GrowsInPlace (c.mapNamespace uri n)).keyed h

theorem Keyed.perform (h : c.Keyed) (op : Operation) : (c.perform op).Keyed := by
  have hbuild : op.Builds → (c.perform op).Keyed := fun hop =>
    have ⟨_, hrun⟩ := exists_grounded_run h.numbered hop
    hrun.keyed h
  cases op with
  | addSchema key target =>
      rcases c.perform_addSchema key target with heq | ⟨hnew, heq⟩
      · rw [heq]
        exact h
      · rw [schema?_eq_none_iff] at hnew
        rw [heq]
        refine ⟨h.numbered.push rfl, (keys_push c _).symm ▸ ?_⟩
        refine List.nodup_append.2 ⟨h.nodup, List.nodup_singleton _, fun a ha b hb => ?_⟩
        rw [List.mem_singleton.1 hb]
        rintro rfl
        exact hnew ha
  | mapNamespace uri number => exact h.mapNamespace uri number
  | addNote number a => exact (GrowsInPlace.addItem _ _ _).keyed h
  | addExternal number e => exact (GrowsInPlace.addItem _ _ _).keyed h
  | allocate number kind x => exact (GrowsInPlace.allocate h.numbered _ _ _).keyed h
  | add number kind x => exact (GrowsInPlace.add h.numbered _ _ _).keyed h
  | build | buildText | readLocation => exact hbuild trivial

/-- No key is registered twice, whatever the calls. -/
theorem Reachable.keyed {allowed : Collection → Operation → Prop} (h : c.Reachable allowed) :
    c.Keyed := by
  induction h with
  | empty => exact ⟨tallied_empty.numbered, List.nodup_singleton _⟩
  | perform _ op _ ih => exact ih.perform op

end Collection

end XmlSchema
