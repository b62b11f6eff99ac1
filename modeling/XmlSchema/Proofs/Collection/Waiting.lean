import XmlSchema.Proofs.Collection.Slots

/-!
# Declarations that wait for a type

The table of waiting declarations is exact: a declaration is in it as long as
its slot names a type that is still to be found, once and under that name.  In
the middle of an addition some declarations are still to be attached; they are
accounted for beside the table.
-/

namespace XmlSchema.Collection

/-- The entries of a table of waiting declarations. -/
def waitsOf (waiting : List (QName × List Receiver)) : List (QName × Receiver) :=
  waiting.flatMap fun entry => entry.2.map (entry.1, ·)

/-- The declarations of a collection that wait, each with the name it waits
for. -/
def waits (c : Collection) : List (QName × Receiver) := waitsOf c.waiting

section Table

variable {waiting : List (QName × List Receiver)} {name : QName} {r : Receiver}

theorem perm_waitsOf_parkIn :
    (waitsOf (parkIn name r waiting)).Perm ((name, r) :: waitsOf waiting) := by
  induction waiting with
  | nil => exact .refl _
  | cons entry rest ih =>
      obtain ⟨n, list⟩ := entry
      unfold parkIn
      split
      · rename_i hn
        subst hn
        simp only [waitsOf, List.flatMap_cons, List.map_append, List.append_assoc]
        exact List.perm_middle
      · exact (ih.append_left _).trans List.perm_middle

theorem mem_keys_parkIn {n : QName} :
    n ∈ (parkIn name r waiting).map Prod.fst ↔ n = name ∨ n ∈ waiting.map Prod.fst := by
  induction waiting with
  | nil => simp [parkIn]
  | cons entry rest ih =>
      obtain ⟨m, list⟩ := entry
      unfold parkIn
      split
      · rename_i hm
        subst hm
        simp
      · rw [List.map_cons, List.mem_cons, ih, List.map_cons, List.mem_cons]
        exact or_left_comm

theorem nodup_keys_parkIn (h : (waiting.map Prod.fst).Nodup) :
    ((parkIn name r waiting).map Prod.fst).Nodup := by
  induction waiting with
  | nil => simp [parkIn]
  | cons entry rest ih =>
      obtain ⟨m, list⟩ := entry
      rw [List.map_cons, List.nodup_cons] at h
      unfold parkIn
      split
      · rw [List.map_cons, List.nodup_cons]
        exact h
      · rename_i hm
        rw [List.map_cons, List.nodup_cons, mem_keys_parkIn]
        refine ⟨?_, ih h.2⟩
        rintro (heq | hmem)
        · exact hm heq
        · exact h.1 hmem

theorem mem_waitsOf_filter {n : QName} :
    (n, r) ∈ waitsOf (waiting.filter (·.1 != name)) ↔ n ≠ name ∧ (n, r) ∈ waitsOf waiting := by
  simp only [waitsOf, List.mem_flatMap, List.mem_filter, List.mem_map, bne_iff_ne, ne_eq]
  constructor
  · rintro ⟨entry, ⟨hentry, hne⟩, r', hr', heq⟩
    obtain ⟨rfl, rfl⟩ := Prod.mk.inj heq
    exact ⟨hne, entry, hentry, r', hr', rfl⟩
  · rintro ⟨hne, entry, hentry, r', hr', heq⟩
    obtain ⟨rfl, rfl⟩ := Prod.mk.inj heq
    exact ⟨entry, ⟨hentry, hne⟩, r', hr', rfl⟩

/-- The entries of a name and those of all other names make up the table. -/
theorem perm_waitsOf_filter (h : (waiting.map Prod.fst).Nodup) :
    (waitsOf waiting).Perm
      (waitsOf (waiting.filter (·.1 != name)) ++
        ((waiting.lookup name).getD []).map (name, ·)) := by
  induction waiting with
  | nil => exact .refl _
  | cons entry rest ih =>
      obtain ⟨n, list⟩ := entry
      rw [List.map_cons, List.nodup_cons] at h
      by_cases hn : name = n
      · subst hn
        have hrest : rest.filter (·.1 != name) = rest := by
          refine List.filter_eq_self.2 fun entry hentry => ?_
          have hne : entry.1 ≠ name := by
            rintro rfl
            exact h.1 (List.mem_map.2 ⟨entry, hentry, rfl⟩)
          simpa using hne
        simp only [waitsOf, List.flatMap_cons, List.filter_cons, bne_self_eq_false,
          Bool.false_eq_true, if_false, hrest, List.lookup_cons_self, Option.getD_some]
        exact List.perm_append_comm
      · have hlookup : ((n, list) :: rest).lookup name = rest.lookup name := by
          rw [List.lookup_cons, beq_eq_false_iff_ne.2 hn]
        have hfilter : ((n, list) :: rest).filter (·.1 != name)
            = (n, list) :: rest.filter (·.1 != name) := by
          simp [Ne.symm hn]
        rw [hlookup, hfilter]
        simp only [waitsOf, List.flatMap_cons, List.append_assoc]
        exact (ih h.2).append_left _

end Table

/-- Every pending declaration is accounted for, once and under its own name,
by the table or by what is still to be attached. -/
structure Accounted (c : Collection) (todo : List (QName × Receiver)) : Prop where
  numbered : c.Numbered
  homed : c.Homed
  keys_nodup : (c.waiting.map Prod.fst).Nodup
  count_eq : ∀ name r,
    (c.waits ++ todo).count (name, r) = if c.pendingName? r = some name then 1 else 0
  unregistered : ∀ name r, (name, r) ∈ c.waits → ∀ id : TypeId, ¬ c.Registers name id
  resolved : ∀ r name id, c.slot? r = some (.named name (some id)) → c.Registers name id

/-- No schema of the namespace of a name has registered a type under it. -/
def Vacant (c : Collection) (name : QName) : Prop :=
  ∀ (i : Nat) (s : Schema), c.schemas[i]? = some s → s.logicalNamespace = name.namespaceName →
    s.lookup? .type name = none

/-- Every pending declaration is accounted for, whatever names types have been
given: the name that a declaration waits for is vacant in its own namespace,
though a schema of another one may have registered it. -/
structure Tallied (c : Collection) (todo : List (QName × Receiver)) : Prop where
  numbered : c.Numbered
  keys_nodup : (c.waiting.map Prod.fst).Nodup
  count_eq : ∀ name r,
    (c.waits ++ todo).count (name, r) = if c.pendingName? r = some name then 1 else 0
  vacant : ∀ name r, (name, r) ∈ c.waits → c.Vacant name
  resolved : ∀ r name id, c.slot? r = some (.named name (some id)) → c.Registers name id

section Vacant

variable {c later : Collection} {name : QName}

theorem Vacant.of_sameNaming (h : c.Vacant name) (hnaming : c.SameNaming later) :
    later.Vacant name := by
  intro i s' hs' hspace
  obtain ⟨s, hs, heq⟩ := hnaming.exists hs'
  have hkey : s'.key = s.key := congrArg (·.2.1) heq
  have hnames : s'.names = s.names := congrArg (·.2.2) heq
  rw [Schema.logicalNamespace, hkey] at hspace
  have hnone := h i s hs hspace
  rw [Schema.lookup?, Option.map_eq_none_iff] at hnone ⊢
  rw [hnames]
  exact hnone

theorem vacant_of_find?_eq_none (h : c.Numbered) (hnone : c.find? .type name = none) :
    c.Vacant name := by
  refine fun i s hs hspace => Option.not_isSome_iff_eq_none.1 fun hsome => ?_
  have hfound := find?_isSome h hs hspace hsome
  rw [hnone] at hfound
  cases hfound

/-- Another name, or a component of another kind, is registered. -/
theorem Vacant.enroll {kind : ComponentKind} {id : ComponentId kind} {fresh : QName} {s : Schema}
    (h : c.Vacant name) (hs : c.schemas[id.schema]? = some s)
    (hfree : s.lookup? kind fresh = none) (hne : kind = .type → name ≠ fresh) :
    (c.enroll id fresh).Vacant name := by
  intro i t' ht' hspace
  obtain ⟨t, ht, rfl⟩ := schemas_modify_some ht'
  split
  · rename_i heq
    cases Option.some.inj (hs.symm.trans (heq ▸ ht))
    rw [if_pos heq] at hspace
    rw [Schema.lookup?_register hfree, if_neg fun hsame => hne hsame.1.symm hsame.2]
    exact h i s ht hspace
  · rename_i hother
    rw [if_neg hother] at hspace
    exact h i t ht hspace

theorem Homed.push (h : c.Homed) {s : Schema} (hnames : s.names = []) : (c.push s).Homed := by
  intro i t ht r hr hkind
  rw [schemas_push] at ht
  split at ht
  · cases ht
    rw [hnames] at hr
    cases hr
  · exact h i t ht r hr hkind

end Vacant

namespace Tallied

variable {c : Collection} {todo : List (QName × Receiver)} {name : QName} {r : Receiver}

/-- Where all types are registered at home, what is vacant is registered
nowhere. -/
theorem accounted (h : c.Tallied todo) (hhome : c.Homed) : c.Accounted todo where
  numbered := h.numbered
  homed := hhome
  keys_nodup := h.keys_nodup
  count_eq := h.count_eq
  unregistered name r hmem id hid := by
    obtain ⟨s, hs, hlookup⟩ := hid
    have hspace := hhome _ s hs _ (Schema.mem_of_lookup? hlookup) rfl
    rw [h.vacant name r hmem _ s hs hspace.symm] at hlookup
    cases hlookup
  resolved := h.resolved

/-- A declaration that is accounted for is pending. -/
theorem pendingName?_eq (h : c.Tallied todo) (hmem : (name, r) ∈ c.waits ++ todo) :
    c.pendingName? r = some name := by
  have hpos := List.count_pos_iff.2 hmem
  rw [h.count_eq] at hpos
  split at hpos
  · assumption
  · omega

/-- Nothing but the slots of the declarations, the waiting ones and the names
of the types matters. -/
theorem congr {later : Collection} {todo' : List (QName × Receiver)} (h : c.Tallied todo)
    (hnaming : c.SameNaming later) (hslots : ∀ r, later.slot? r = c.slot? r)
    (hwaiting : later.waiting = c.waiting) (htodo : todo'.Perm todo) :
    later.Tallied todo' where
  numbered := hnaming.numbered h.numbered
  keys_nodup := hwaiting ▸ h.keys_nodup
  count_eq name r := by
    have hperm : (later.waits ++ todo').Perm (c.waits ++ todo) := by
      rw [waits, waits, hwaiting]
      exact htodo.append_left _
    rw [hperm.count_eq, h.count_eq, pendingName?, pendingName?, hslots]
  vacant name r hmem := by
    rw [waits, hwaiting] at hmem
    exact (h.vacant name r hmem).of_sameNaming hnaming
  resolved r name id hr :=
    hnaming.symm.registers (h.resolved r name id (hslots r ▸ hr))

/-- A pending declaration takes a type that is registered under its name. -/
theorem fill (h : c.Tallied ((name, r) :: todo)) {id : TypeId} (hid : c.Registers name id) :
    (c.fill id r).Tallied todo := by
  have hslot : c.slot? r = some (.named name none) := by
    have hpending : c.pendingName? r = some name :=
      h.pendingName?_eq (List.mem_append_right _ List.mem_cons_self)
    obtain ⟨slot, hslot, hname⟩ := Option.bind_eq_some_iff.1 hpending
    rw [hslot, TypeSlot.pending?_eq_some_iff.1 hname]
  have hnaming : c.SameNaming (c.fill id r) := (SameFrame.fill id r).naming
  have hwaiting : (c.fill id r).waiting = c.waiting := by cases r <;> rfl
  refine ⟨hnaming.numbered h.numbered, hwaiting ▸ h.keys_nodup, ?_, ?_, ?_⟩
  · intro n r'
    have hcount := h.count_eq n r'
    have hperm : (c.waits ++ (name, r) :: todo).Perm ((name, r) :: (c.waits ++ todo)) :=
      List.perm_middle
    rw [hperm.count_eq, List.count_cons] at hcount
    rw [waits, hwaiting, ← waits, pendingName?, slot?_fill]
    by_cases hr : r' = r
    · subst hr
      rw [if_pos rfl, hslot]
      rw [pendingName?, hslot] at hcount
      simp only [Option.bind_some, TypeSlot.pending?, Option.some.injEq] at hcount
      simp only [Option.map_some, TypeSlot.fill, Option.bind_some, TypeSlot.pending?,
        reduceCtorEq, if_false]
      by_cases hn : name = n
      · subst hn
        simp only [beq_self_eq_true, if_true] at hcount
        omega
      · simp only [beq_iff_eq, Prod.mk.injEq, hn, false_and, if_false] at hcount
        omega
    · rw [if_neg hr, ← pendingName?, ← hcount, if_neg (by simp [Ne.symm hr]), Nat.add_zero]
  · intro n r' hmem
    rw [waits, hwaiting] at hmem
    exact (h.vacant n r' hmem).of_sameNaming hnaming
  · intro r' n id' hr'
    refine hnaming.symm.registers ?_
    rw [slot?_fill] at hr'
    split at hr'
    · rename_i hr
      subst hr
      rw [hslot] at hr'
      simp only [Option.map_some, TypeSlot.fill, Option.some.injEq, TypeSlot.named.injEq] at hr'
      obtain ⟨rfl, rfl⟩ := hr'
      exact hid
    · exact h.resolved r' n id' hr'

/-- A pending declaration waits for a name that is vacant. -/
theorem park (h : c.Tallied ((name, r) :: todo)) (hvacant : c.Vacant name) :
    ({ c with waiting := parkIn name r c.waiting } : Collection).Tallied todo where
  numbered := h.numbered
  keys_nodup := nodup_keys_parkIn h.keys_nodup
  count_eq n r' := by
    have hperm : (waitsOf (parkIn name r c.waiting) ++ todo).Perm
        (c.waits ++ (name, r) :: todo) :=
      (perm_waitsOf_parkIn.append_right todo).trans List.perm_middle.symm
    exact (hperm.count_eq _).trans (h.count_eq n r')
  vacant n r' hmem := by
    rcases List.mem_cons.1 (perm_waitsOf_parkIn.mem_iff.1 hmem) with heq | hmem
    · cases heq
      exact hvacant
    · exact h.vacant n r' hmem
  resolved := h.resolved

/-- Attaching a declaration takes it off the list. -/
theorem attach (h : c.Tallied ((name, r) :: todo)) : (c.attach name r).Tallied todo := by
  unfold Collection.attach
  split
  · rename_i id hid
    exact h.fill (find?_registers h.numbered hid)
  · rename_i hnone
    exact h.park (vacant_of_find?_eq_none h.numbered hnone)

theorem attachAll (h : c.Tallied todo) :
    (todo.foldl (fun c p => c.attach p.1 p.2) c).Tallied [] := by
  induction todo generalizing c with
  | nil => exact h
  | cons entry rest ih => exact ih h.attach

/-- A new component leaves its declaration to be attached. -/
theorem place (h : c.Tallied todo) {n : Nat} (hn : n < c.schemas.size)
    (kind : ComponentKind) (x : kind.Component)
    (hfresh : ∀ name id, kind.slot? x ≠ some (.named name (some id))) :
    (c.furnish n ((c.components n).push kind x)).Tallied
      (todo ++ ((⟨n, (c.components n).count kind⟩ : ComponentId kind).newcomer? x).toList) := by
  have hnaming : c.SameNaming (c.furnish n ((c.components n).push kind x)) :=
    .modify fun _ => rfl
  have hslot := slot?_place hn kind x
  refine ⟨hnaming.numbered h.numbered, h.keys_nodup, ?_, ?_, ?_⟩
  · intro name r'
    have hcount := h.count_eq name r'
    rw [show (c.furnish n ((c.components n).push kind x)).waits = c.waits from rfl,
      ← List.append_assoc, List.count_append, hcount, pendingName?, pendingName?, hslot]
    by_cases hr : (⟨n, (c.components n).count kind⟩ : ComponentId kind).receiver? = some r'
    · rw [slot?_eq_none_of_fresh hr, if_pos hr, Option.bind_none, if_neg nofun, Nat.zero_add]
      by_cases hname : (kind.slot? x).bind TypeSlot.pending? = some name
      · rw [ComponentId.newcomer?_eq_some_iff.2 ⟨hr, hname⟩, if_pos hname]
        simp
      · rw [if_neg hname]
        refine List.count_eq_zero.2 fun hmem => hname ?_
        exact (ComponentId.newcomer?_eq_some_iff.1 (Option.mem_toList.1 hmem)).2
    · rw [if_neg hr, List.count_eq_zero.2, Nat.add_zero]
      intro hmem
      exact hr (ComponentId.newcomer?_eq_some_iff.1 (Option.mem_toList.1 hmem)).1
  · intro name r' hmem
    exact (h.vacant name r' hmem).of_sameNaming hnaming
  · intro r' name id hr'
    rw [hslot] at hr'
    split at hr'
    · exact absurd hr' (hfresh name id)
    · exact hnaming.symm.registers (h.resolved r' name id hr')

/-- A new schema changes nothing for the declarations there are. -/
theorem push (h : c.Tallied todo) {s : Schema} (hnumber : s.number = c.schemas.size)
    (hcs : s.components = {}) (hnames : s.names = []) : (c.push s).Tallied todo := by
  have hslots : ∀ r, (c.push s).slot? r = c.slot? r := by
    intro r
    rw [slot?, components_push hcs, slot?]
  refine ⟨h.numbered.push hnumber, h.keys_nodup, ?_, ?_, ?_⟩
  · intro name r
    rw [pendingName?, hslots]
    exact h.count_eq name r
  · intro name r hmem i t ht hspace
    rw [schemas_push] at ht
    split at ht
    · cases ht
      rw [Schema.lookup?, hnames]
      rfl
    · exact h.vacant name r hmem i t ht hspace
  · intro r name id hr
    exact (Grows.push c s).registers (h.resolved r name id (hslots r ▸ hr))

theorem fillAll {receivers : List Receiver} (h : c.Tallied (receivers.map (name, ·)))
    {id : TypeId} (hid : c.Registers name id) :
    (receivers.foldl (fun c r => c.fill id r) c).Tallied [] := by
  induction receivers generalizing c with
  | nil => exact h
  | cons r rest ih => exact ih (h.fill hid) ((Grows.fill id r).registers hid)

section Register

variable {kind : ComponentKind} {id : ComponentId kind} {s : Schema}

/-- Once a type has its name, the declarations that wait for the name are to be
given the type. -/
theorem enroll (h : c.Tallied []) (hs : c.schemas[id.schema]? = some s)
    (hfree : s.lookup? kind name = none)
    {waiting : List (QName × List Receiver)} (hkeys : (waiting.map Prod.fst).Nodup)
    (hperm : (waitsOf waiting ++ todo).Perm c.waits)
    (hrest : kind = .type → ∀ r, (name, r) ∉ waitsOf waiting) :
    ({ c.enroll id name with waiting } : Collection).Tallied todo := by
  have hslots : ∀ r, (c.enroll id name).slot? r = c.slot? r := by
    intro r
    rw [slot?, components_enroll, slot?]
  refine ⟨h.numbered.modify fun _ => rfl, hkeys, ?_, ?_, ?_⟩
  · intro n r
    have hcount := h.count_eq n r
    rw [List.append_nil] at hcount
    refine (hperm.count_eq _).trans (hcount.trans ?_)
    rw [pendingName?, pendingName?, ← hslots]
    rfl
  · intro n r hmem
    have hvacant : c.Vacant n := h.vacant n r (hperm.mem_iff.1 (List.mem_append_left _ hmem))
    refine hvacant.enroll hs hfree fun hkind hn => ?_
    subst hn
    exact hrest hkind r hmem
  · intro r n id' hr
    refine (GrowsInPlace.enroll id name).grows.registers (h.resolved r n id' ?_)
    rw [← hslots]
    exact hr

theorem register (h : c.Tallied []) {later : Collection} (hc : c.register id = .ok later) :
    later.Tallied [] := by
  rcases register_cases hc with ⟨-, rfl⟩ | ⟨s, x, name, hs, hx, hname, hfree, rfl⟩
  · exact h
  · cases kind with
    | type =>
        have hperm : c.waits.Perm (waitsOf (c.waiting.filter (·.1 != name)) ++
            (c.receivers name).map (name, ·)) := perm_waitsOf_filter h.keys_nodup
        have hfiltered : ({ c.enroll id name with
              waiting := c.waiting.filter (·.1 != name) } : Collection).Tallied
            ((c.receivers name).map (name, ·)) := by
          refine h.enroll hs hfree ?_ hperm.symm ?_
          · exact h.keys_nodup.sublist (List.filter_sublist.map _)
          · exact fun _ r hmem => (mem_waitsOf_filter.1 hmem).1 rfl
        exact hfiltered.fillAll (enroll_registers h.numbered hs hfree)
    | _ =>
        refine h.enroll hs hfree h.keys_nodup ?_ nofun
        rw [List.append_nil]
        exact .refl _

end Register

end Tallied

end XmlSchema.Collection
