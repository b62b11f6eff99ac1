import XmlSchema.Proofs.Collection.Waiting

/-!
# What a component keeps

A component never changes once it is owned, but that a slot which names a type
may find it, once.  This rests on the table of waiting declarations: whatever
is in it, or still to be attached, is pending, so that no type is ever put over
another.
-/

namespace XmlSchema

/-- A slot at a later time: the type that a pending slot names may have been
found. -/
inductive TypeSlot.Settles : TypeSlot → TypeSlot → Prop
  | same (slot : TypeSlot) : Settles slot slot
  | found (name : QName) (id : TypeId) : Settles (.named name none) (.named name (some id))

theorem TypeSlot.Settles.trans {a b c : TypeSlot} (hab : a.Settles b) (hbc : b.Settles c) :
    a.Settles c := by
  cases hab with
  | same => exact hbc
  | found name id =>
      cases hbc with
      | same => exact .found name id

/-- A component at a later time: nothing of it has changed but that a pending
slot may have found its type. -/
def ComponentKind.Settles : (kind : ComponentKind) → kind.Component → kind.Component → Prop
  | .element, e, later => ∃ slot, e.type.Settles slot ∧ later = { e with type := slot }
  | .attribute, a, later => ∃ slot, a.type.Settles slot ∧ later = { a with type := slot }
  | .type, t, later => later = t
  | .group, g, later => later = g
  | .attributeGroup, g, later => later = g
  | .notationDecl, n, later => later = n

/-- Two components that differ in what their slots have found differ in
nothing else. -/
theorem ComponentKind.settles_of_unresolved {kind : ComponentKind} {x y : kind.Component}
    (h : kind.unresolved y = kind.unresolved x)
    (hslot : ∀ slot, kind.slot? x = some slot →
      ∃ slot', kind.slot? y = some slot' ∧ slot.Settles slot') : kind.Settles x y := by
  cases kind with
  | element =>
      obtain ⟨slot', hy, hsettles⟩ := hslot _ rfl
      cases hy
      refine ⟨ElementDecl.type y, hsettles, ?_⟩
      have hback := congrArg (fun e : ElementDecl => { e with type := ElementDecl.type y }) h
      exact hback
  | «attribute» =>
      obtain ⟨slot', hy, hsettles⟩ := hslot _ rfl
      cases hy
      refine ⟨AttributeDecl.type y, hsettles, ?_⟩
      have hback := congrArg (fun a : AttributeDecl => { a with type := AttributeDecl.type y }) h
      exact hback
  | _ => exact h

/-- Every component with a slot is a declaration. -/
theorem ComponentId.exists_receiver {kind : ComponentKind} (id : ComponentId kind)
    {x : kind.Component} {slot : TypeSlot} (h : kind.slot? x = some slot) :
    ∃ r, id.receiver? = some r ∧ r.schema = id.schema := by
  cases kind with
  | element => exact ⟨.element id, rfl, rfl⟩
  | «attribute» => exact ⟨.attribute id, rfl, rfl⟩
  | _ => cases h

theorem Components.slot?_eq {cs : Components} {kind : ComponentKind} {id : ComponentId kind}
    {x : kind.Component} {r : Receiver} (hr : id.receiver? = some r) (hx : cs.get? id = some x) :
    cs.slot? r = kind.slot? x := by
  cases kind with
  | element =>
      cases hr
      rw [slot?, hx]
      rfl
  | «attribute» =>
      cases hr
      rw [slot?, hx]
      rfl
  | _ => cases hr

namespace Collection

variable {c later : Collection} {todo : List (QName × Receiver)} {name : QName} {r : Receiver}

/-- Everything that waits, or is still to be attached, is pending under the
name it waits for, and is there once. -/
structure Parked (c : Collection) (todo : List (QName × Receiver)) : Prop where
  keys_nodup : (c.waiting.map Prod.fst).Nodup
  nodup : (c.waits ++ todo).Nodup
  pending : ∀ name r, (name, r) ∈ c.waits ++ todo → c.pendingName? r = some name

/-- A later time with some declarations still to be attached: no slot has lost
what it had. -/
structure Attaches (c later : Collection) (todo : List (QName × Receiver)) : Prop where
  parked : later.Parked todo
  slots : ∀ r slot, c.slot? r = some slot →
    ∃ slot', later.slot? r = some slot' ∧ slot.Settles slot'

theorem Attaches.refl (h : c.Parked todo) : c.Attaches c todo :=
  ⟨h, fun _ slot hslot => ⟨slot, hslot, .same slot⟩⟩

theorem Attaches.trans {c' : Collection} {todo' : List (QName × Receiver)}
    (h : c.Attaches c' todo') (h' : c'.Attaches later todo) : c.Attaches later todo where
  parked := h'.parked
  slots r slot hslot := by
    obtain ⟨slot₁, hslot₁, hsettles₁⟩ := h.slots r slot hslot
    obtain ⟨slot₂, hslot₂, hsettles₂⟩ := h'.slots r slot₁ hslot₁
    exact ⟨slot₂, hslot₂, hsettles₁.trans hsettles₂⟩

/-- A component keeps what it is while slots are settled. -/
theorem Attaches.get? (h : c.Attaches later todo) (hgrows : c.Grows later) (hc : c.Numbered)
    (hlater : later.Numbered) {kind : ComponentKind} {id : ComponentId kind}
    {x : kind.Component} (hx : c.get? id = some x) :
    ∃ y, later.get? id = some y ∧ kind.Settles x y := by
  rw [get?_eq hc] at hx
  obtain ⟨y, hy, hyx⟩ := hgrows.components id.schema kind id.index x hx
  refine ⟨y, by rw [get?_eq hlater]; exact hy, ?_⟩
  refine ComponentKind.settles_of_unresolved hyx fun slot hslot => ?_
  obtain ⟨r, hr, hschema⟩ := id.exists_receiver hslot
  obtain ⟨slot', hslot', hsettles⟩ := h.slots r slot (by
    rw [slot?, hschema, Components.slot?_eq hr hx, hslot])
  refine ⟨slot', ?_, hsettles⟩
  rw [← hslot', slot?, hschema, Components.slot?_eq hr hy]

namespace Parked

/-- Nothing but the slots and the waiting declarations matters. -/
theorem attaches (h : c.Parked todo) {todo' : List (QName × Receiver)}
    (hslots : ∀ r, later.slot? r = c.slot? r)
    (hkeys : (later.waiting.map Prod.fst).Nodup)
    (hperm : (later.waits ++ todo').Perm (c.waits ++ todo)) : c.Attaches later todo' where
  parked := by
    refine ⟨hkeys, hperm.nodup_iff.2 h.nodup, fun name r hmem => ?_⟩
    rw [pendingName?, hslots]
    exact h.pending name r (hperm.mem_iff.1 hmem)
  slots r slot hslot := ⟨slot, hslots r ▸ hslot, .same slot⟩

/-- The type that is found goes into a pending slot. -/
theorem fill (h : c.Parked ((name, r) :: todo)) (id : TypeId) :
    c.Attaches (c.fill id r) todo := by
  have hslot : c.slot? r = some (.named name none) := by
    have hpending := h.pending name r (List.mem_append_right _ List.mem_cons_self)
    obtain ⟨slot, hslot, hname⟩ := Option.bind_eq_some_iff.1 hpending
    rw [hslot, TypeSlot.pending?_eq_some_iff.1 hname]
  have hwaiting : (c.fill id r).waiting = c.waiting := by cases r <;> rfl
  have hnodup : ((name, r) :: (c.waits ++ todo)).Nodup :=
    List.perm_middle.nodup_iff.1 h.nodup
  rw [List.nodup_cons] at hnodup
  refine ⟨⟨hwaiting ▸ h.keys_nodup, ?_, ?_⟩, ?_⟩
  · rw [waits, hwaiting]
    exact hnodup.2
  · intro n r' hmem
    rw [waits, hwaiting] at hmem
    have hpending := h.pending n r' (List.perm_middle.mem_iff.2 (List.mem_cons_of_mem _ hmem))
    rw [pendingName?, slot?_fill, if_neg]
    · exact hpending
    · -- the same declaration would be there twice, under the one name it has
      rintro rfl
      rw [pendingName?, hslot] at hpending
      cases hpending
      exact hnodup.1 hmem
  · intro r' slot hr'
    rw [slot?_fill]
    by_cases hr : r' = r
    · subst hr
      cases Option.some.inj (hr'.symm.trans hslot)
      exact ⟨.named name (some id), by rw [if_pos rfl, hslot]; rfl, .found name id⟩
    · exact ⟨slot, by rw [if_neg hr, hr'], .same slot⟩

theorem park (h : c.Parked ((name, r) :: todo)) :
    c.Attaches { c with waiting := parkIn name r c.waiting } todo := by
  refine h.attaches (fun _ => rfl) (nodup_keys_parkIn h.keys_nodup) ?_
  exact (perm_waitsOf_parkIn.append_right todo).trans List.perm_middle.symm

theorem attach (h : c.Parked ((name, r) :: todo)) : c.Attaches (c.attach name r) todo := by
  unfold Collection.attach
  split
  · exact h.fill _
  · exact h.park

theorem attachAll (h : c.Parked todo) :
    c.Attaches (todo.foldl (fun c p => c.attach p.1 p.2) c) [] := by
  induction todo generalizing c with
  | nil => exact .refl h
  | cons entry rest ih => exact h.attach.trans (ih h.attach.parked)

theorem fillAll {receivers : List Receiver} (h : c.Parked (receivers.map (name, ·)))
    (id : TypeId) : c.Attaches (receivers.foldl (fun c r => c.fill id r) c) [] := by
  induction receivers generalizing c with
  | nil => exact .refl h
  | cons r rest ih => exact (h.fill id).trans (ih (h.fill id).parked)

/-- A new component leaves its declaration to be attached. -/
theorem place (h : c.Parked todo) {n : Nat} (hn : n < c.schemas.size) (kind : ComponentKind)
    (x : kind.Component) :
    c.Attaches (c.furnish n ((c.components n).push kind x))
      (todo ++ ((⟨n, (c.components n).count kind⟩ : ComponentId kind).newcomer? x).toList) := by
  have hslot := slot?_place hn kind x
  refine ⟨⟨h.keys_nodup, ?_, ?_⟩, ?_⟩
  · rw [← List.append_assoc]
    refine List.nodup_append.2 ⟨h.nodup, ?_, ?_⟩
    · cases (⟨n, (c.components n).count kind⟩ : ComponentId kind).newcomer? x <;> simp
    · rintro ⟨name, r'⟩ hold _ hnew rfl
      have hr := (ComponentId.newcomer?_eq_some_iff.1 (Option.mem_toList.1 hnew)).1
      have hpending := h.pending name r' hold
      rw [pendingName?, slot?_eq_none_of_fresh hr] at hpending
      cases hpending
  · intro name r' hmem
    rw [← List.append_assoc] at hmem
    rw [pendingName?, hslot]
    rcases List.mem_append.1 hmem with hold | hnew
    · have hpending := h.pending name r' hold
      rw [if_neg]
      · exact hpending
      · intro hr
        rw [pendingName?, slot?_eq_none_of_fresh hr] at hpending
        cases hpending
    · obtain ⟨hr, hname⟩ := ComponentId.newcomer?_eq_some_iff.1 (Option.mem_toList.1 hnew)
      rw [if_pos hr, hname]
  · intro r' slot hr'
    refine ⟨slot, ?_, .same slot⟩
    rw [hslot, if_neg, hr']
    intro hr
    rw [slot?_eq_none_of_fresh hr] at hr'
    cases hr'

/-- A new schema leaves all slots as they are. -/
theorem push (h : c.Parked []) {s : Schema} (hcs : s.components = {}) :
    c.Attaches (c.push s) [] := by
  refine h.attaches (fun r => ?_) h.keys_nodup (.refl _)
  rw [slot?, components_push hcs, slot?]

/-- What is not about components leaves all slots as they are. -/
theorem modify (h : c.Parked []) {n : Nat} {f : Schema → Schema}
    (hf : ∀ s, (f s).components = s.components) : c.Attaches (c.modify n f) [] := by
  refine h.attaches (fun r => ?_) h.keys_nodup (.refl _)
  rw [slot?, components_modify_of_eq hf, slot?]

/-- The declarations that wait for the name of a type are given the type. -/
theorem settle (h : c.Parked []) (name : QName) {kind : ComponentKind} (id : ComponentId kind) :
    c.Attaches (c.settle name id) [] := by
  cases kind with
  | type =>
      have hperm : c.waits.Perm (waitsOf (c.waiting.filter (·.1 != name)) ++
          (c.receivers name).map (name, ·)) := perm_waitsOf_filter h.keys_nodup
      have hfiltered : c.Attaches ({ c with
          waiting := c.waiting.filter (·.1 != name) } : Collection)
          ((c.receivers name).map (name, ·)) := by
        refine h.attaches (fun _ => rfl) (h.keys_nodup.sublist (List.filter_sublist.map _)) ?_
        rw [List.append_nil]
        exact hperm.symm
      exact hfiltered.trans (hfiltered.parked.fillAll id)
  | _ => exact .refl h

theorem enlist (h : c.Parked []) {kind : ComponentKind} {id : ComponentId kind}
    (hc : c.enlist id = .ok later) : c.Attaches later [] := by
  obtain ⟨c', hc', rfl⟩ := enlist_cases hc
  have hregister : c.Attaches c' [] := by
    rcases register_cases hc' with ⟨-, rfl⟩ | ⟨s, x, name, -, -, -, -, rfl⟩
    · exact .refl h
    · have henroll : c.Attaches (c.enroll id name) [] := h.modify fun _ => rfl
      exact henroll.trans (henroll.parked.settle name id)
  exact hregister.trans (hregister.parked.modify fun _ => rfl)

end Parked

end Collection

end XmlSchema
