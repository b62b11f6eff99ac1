import XmlSchema.Proofs.Resolution.Change

/-!
# What a composition leaves behind

Every item that a composition has listed, and every component that it has
supplied, keeps to the plan in the collection at the end.
-/

namespace XmlSchema.Compose.Plan

open Collection

variable {env : Environment} (P : Plan env)

/-- An item of a schema that a composition has listed. -/
def Listed (c : Collection) (n : Nat) : SchemaItem → Prop
  | .note a =>
      ∃ cx construct role, cx.schema = n ∧ c.Places env.policy cx ∧
        Role.ofTopLevel? construct = some role ∧
        (P.reading cx).part (c.components n) role (.note a)
  | .external e =>
      ∃ cx e₀, cx.schema = n ∧ c.Places env.policy cx ∧ e = { e₀ with target := e.target } ∧
        (P.reading cx).draft (c.components n) none (.external e₀) ∧
        env.Cites P.cacheless c cx.key e
  | .component ref =>
      ∃ cx construct role name, cx.schema = n ∧ c.Places env.policy cx ∧
        Role.ofTopLevel? construct = some role ∧
        (P.reading cx).part (c.components n) role (.component ref) ∧ c.Registers name ref.id ∧
        (c.components n).Names name ref.id

/-- A component of a schema that a composition has supplied, when there were
some components before it. -/
def Supplied (c : Collection) (n : Nat) (kind : ComponentKind) (i : Nat)
    (x : kind.Component) : Prop :=
  ∃ cx cs x₀, cx.schema = n ∧ c.Places env.policy cx ∧ (P.reading cx).component cs kind x₀ ∧
    cs.count kind = i ∧ cs.Extends (c.components n) ∧ kind.unresolved x = kind.unresolved x₀

/-- The schemas from some number on hold nothing but what a composition has
left there. -/
structure Keeps (first : Nat) (c : Collection) : Prop where
  items : ∀ n s, first ≤ n → c.schemas[n]? = some s → ∀ item ∈ s.items, P.Listed c n item
  components : ∀ n kind i x, first ≤ n → ((c.components n).ofKind kind)[i]? = some x →
    P.Supplied c n kind i x

variable {P} {c later : Collection} {n : Nat}

theorem Cites.grow {key : SchemaKey} {e : ExternalRef} (h : c.Grows later)
    (hcite : env.Cites P.cacheless c key e) : env.Cites P.cacheless later key e := by
  intro location hlocation hless d hd
  obtain ⟨n, s, htarget, hs, hkey⟩ := hcite location hlocation hless d hd
  obtain ⟨s', hs', hgrows⟩ := h n s hs
  exact ⟨n, s', htarget, hs', hgrows.key_eq.trans hkey⟩

theorem Listed.grow {item : SchemaItem} (h : c.Grows later) (hitem : P.Listed c n item) :
    P.Listed later n item := by
  cases item with
  | note a =>
      obtain ⟨cx, construct, role, hn, hcx, hrole, hpart⟩ := hitem
      exact ⟨cx, construct, role, hn, h.places hcx, hrole,
        (P.reading cx).part_extends (h.components n) hpart⟩
  | external e =>
      obtain ⟨cx, e₀, hn, hcx, he, hdraft, hcite⟩ := hitem
      exact ⟨cx, e₀, hn, h.places hcx, he, (P.reading cx).draft_extends (h.components n) hdraft,
        Cites.grow h hcite⟩
  | component ref =>
      obtain ⟨cx, construct, role, name, hn, hcx, hrole, hpart, hreg, hname⟩ := hitem
      exact ⟨cx, construct, role, name, hn, h.places hcx, hrole,
        (P.reading cx).part_extends (h.components n) hpart, h.registers hreg,
        hname.extend (h.components n)⟩

theorem Supplied.grow {kind : ComponentKind} {i : Nat} {x y : kind.Component} (h : c.Grows later)
    (hx : P.Supplied c n kind i x) (hyx : kind.unresolved y = kind.unresolved x) :
    P.Supplied later n kind i y := by
  obtain ⟨cx, cs, x₀, hn, hcx, hok, hcount, hextends, hx₀⟩ := hx
  exact ⟨cx, cs, x₀, hn, h.places hcx, hok, hcount, hextends.trans (h.components n),
    hyx.trans hx₀⟩

theorem mem_items_addItem {m : Nat} {item item' : SchemaItem} {s' : Schema}
    (hs' : (c.addItem m item').schemas[n]? = some s') (hitem : item ∈ s'.items) :
    (∃ s, c.schemas[n]? = some s ∧ item ∈ s.items) ∨ (n = m ∧ item = item') := by
  obtain ⟨s, hs, rfl⟩ := schemas_modify_some hs'
  split at hitem
  · rename_i hn
    rcases List.mem_append.1 hitem with hitem | hitem
    · exact .inl ⟨s, hs, hitem⟩
    · exact .inr ⟨hn.symm, List.mem_singleton.1 hitem⟩
  · exact .inl ⟨s, hs, hitem⟩

theorem mem_items_of_frame {item : SchemaItem} {s' : Schema} (h : c.SameFrame later)
    (hs' : later.schemas[n]? = some s') (hitem : item ∈ s'.items) :
    ∃ s, c.schemas[n]? = some s ∧ item ∈ s.items := by
  obtain ⟨s, hs, hframe⟩ := h.exists_earlier hs'
  have hitems : s'.frame.items = s.frame.items := congrArg Schema.items hframe
  exact ⟨s, hs, (hitems ▸ hitem : item ∈ s.frame.items)⟩

/-- An item is either listed before a change or by it. -/
theorem Change.item_cases (step : P.Change c later) (hc : c.Numbered) {s' : Schema}
    (hs' : later.schemas[n]? = some s') {item : SchemaItem} (hitem : item ∈ s'.items) :
    (∃ s, c.schemas[n]? = some s ∧ item ∈ s.items) ∨ P.Listed later n item := by
  have hgrows := step.grows
  cases step with
  | begin source parent inherited hnew hkey =>
      rw [schemas_push] at hs'
      split at hs'
      · cases hs'
        cases hitem
      · exact .inl ⟨s', hs', hitem⟩
  | meet m t kids ht =>
      obtain ⟨s, hs, rfl⟩ := schemas_modify_some hs'
      refine .inl ⟨s, hs, ?_⟩
      split at hitem <;> exact hitem
  | absorb cx bench hcx hrun =>
      exact .inl (mem_items_of_frame (.absorb _ bench) hs' hitem)
  | note cx construct role a hcx hrole ha =>
      rcases mem_items_addItem hs' hitem with h | ⟨rfl, rfl⟩
      · exact .inl h
      · exact .inr ⟨cx, construct, role, rfl, hgrows.places hcx, hrole,
          (P.reading cx).part_extends (hgrows.components _) ha⟩
  | external cx e target hcx he hcite =>
      rcases mem_items_addItem hs' hitem with h | ⟨rfl, rfl⟩
      · exact .inl h
      · exact .inr ⟨cx, e, rfl, hgrows.places hcx, rfl,
          (P.reading cx).draft_extends (hgrows.components _) he, Cites.grow hgrows hcite⟩
  | enlist _ cx construct role ref hcx hrole href hlater =>
      have hschema := P.schema_of_part href
      have href' := (P.reading cx).part_extends (hgrows.components _) href
      have hcx' := hgrows.places hcx
      obtain ⟨kind, id⟩ := ref
      dsimp only at hschema hlater
      obtain ⟨c', hc', rfl⟩ := enlist_cases hlater
      rcases mem_items_addItem hs' hitem with ⟨s, hs, hitem⟩ | ⟨rfl, rfl⟩
      · rcases register_cases hc' with ⟨-, rfl⟩ | ⟨-, -, name, -, -, -, -, rfl⟩
        · exact .inl ⟨s, hs, hitem⟩
        · obtain ⟨s₁, hs₁, hitem⟩ := mem_items_of_frame (.settle name id) hs hitem
          obtain ⟨s₀, hs₀, rfl⟩ := schemas_modify_some hs₁
          refine .inl ⟨s₀, hs₀, ?_⟩
          split at hitem <;> exact hitem
      · rcases register_cases hc' with ⟨hnone, rfl⟩ | ⟨s, x, name, hs, hx, hname, hfree, rfl⟩
        · obtain ⟨s, hs, -⟩ := schemas_modify_some hs'
          rw [hnone] at hs
          cases hs
        · have hreg : (c.enroll id name).Registers name id := enroll_registers hc hs hfree
          have hsettle := (GrowsInPlace.settle (c := c.enroll id name) name id).grows
          have hlist := (GrowsInPlace.addItem ((c.enroll id name).settle name id) id.schema
            (.component ⟨kind, id⟩)).grows
          have hlisted := hlist.registers (hsettle.registers hreg)
          have hnames : (c.components id.schema).Names name id :=
            ⟨x, by rw [← get?_eq hc, Collection.get?, hs, Option.bind_some, hx], hname⟩
          exact .inr ⟨cx, construct, role, name, hschema.symm, hcx', hrole,
            hschema.symm ▸ href', hlisted, hnames.extend (hgrows.components _)⟩
  | finish m =>
      obtain ⟨s, hs, rfl⟩ := schemas_modify_some hs'
      refine .inl ⟨s, hs, ?_⟩
      split at hitem <;> exact hitem

/-- A component is either there before a change or supplied by it. -/
theorem Change.component_cases (step : P.Change c later) {kind : ComponentKind} {i : Nat}
    {y : kind.Component} (hy : ((later.components n).ofKind kind)[i]? = some y) :
    (∃ x, ((c.components n).ofKind kind)[i]? = some x ∧
        kind.unresolved y = kind.unresolved x) ∨ P.Supplied later n kind i y := by
  have hgrows := step.grows
  have hrest : c.SameCounts later → ∃ x, ((c.components n).ofKind kind)[i]? = some x ∧
      kind.unresolved y = kind.unresolved x := fun hcounts =>
    (hgrows.components n).exists_earlier (hcounts n kind) hy
  cases step with
  | begin source parent inherited hnew hkey =>
      rw [components_push rfl] at hy
      exact .inl ⟨y, hy, rfl⟩
  | meet m t kids ht =>
      refine .inl (hrest (.of_components fun n => components_modify_of_eq ?_ n))
      exact fun _ => rfl
  | absorb cx bench hcx hrun =>
      have hsize := hcx.lt_size
      have hcounts := SameCounts.attachAll (c := c.furnish cx.schema bench.components)
        bench.pending
      have hextends := (GrowsInPlace.attachAll (c := c.furnish cx.schema bench.components)
        bench.pending).grows.components n
      obtain ⟨x, hx, hyx⟩ := hextends.exists_earlier (hcounts n kind) hy
      rw [components_furnish hsize] at hx
      split at hx
      · rename_i hn
        subst hn
        rcases hrun.origin hx with hx | ⟨cs, hok, hcount, hcs⟩
        · exact .inl ⟨x, hx, hyx⟩
        · exact .inr ⟨cx, cs, x, rfl, hgrows.places hcx, hok, hcount,
            hcs.trans (extends_absorb hsize bench), hyx⟩
      · exact .inl ⟨x, hx, hyx⟩
  | note => exact .inl (hrest (.of_components (components_addItem _ _)))
  | external => exact .inl (hrest (.of_components (components_addItem _ _)))
  | enlist _ cx construct role ref hcx hrole href hlater =>
      obtain ⟨c', hc', rfl⟩ := enlist_cases hlater
      refine .inl (hrest ?_)
      have hlist : c'.SameCounts (c'.addItem ref.id.schema (.component ref)) :=
        .of_components (components_addItem _ _)
      rcases register_cases hc' with ⟨-, rfl⟩ | ⟨-, -, name, -, -, -, -, rfl⟩
      · exact hlist
      · exact ((SameCounts.of_components (components_enroll ref.id name)).trans
          (.settle name ref.id)).trans hlist
  | finish m =>
      refine .inl (hrest (.of_components fun n => components_modify_of_eq ?_ n))
      exact fun _ => rfl

theorem Keeps.change {first : Nat} (h : P.Keeps first c) (hc : c.Numbered)
    (step : P.Change c later) : P.Keeps first later where
  items n s' hn hs' item hitem := by
    rcases step.item_cases hc hs' hitem with ⟨s, hs, hitem⟩ | hlisted
    · exact (h.items n s hn hs item hitem).grow step.grows
    · exact hlisted
  components n kind i y hn hy := by
    rcases step.component_cases hy with ⟨x, hx, hyx⟩ | hsupplied
    · exact (h.components n kind i x hn hx).grow step.grows hyx
    · exact hsupplied

theorem Keeps.run {first : Nat} (h : P.Keeps first c) (hc : c.Numbered)
    (hrun : P.Run c later) : P.Keeps first later := by
  induction hrun with
  | refl => exact h
  | tail hrun step ih => exact ih.change (Run.numbered hrun hc) step

/-- Nothing has been left in schemas that are still to come. -/
theorem keeps_size (P : Plan env) (c : Collection) : P.Keeps c.schemas.size c where
  items n s hn hs := by
    rw [Array.getElem?_eq_none hn] at hs
    cases hs
  components n kind i x hn hx := by
    unfold Collection.components at hx
    rw [Array.getElem?_eq_none hn] at hx
    cases kind <;> simp [Components.ofKind] at hx

/-- All that a composition leaves in new schemas keeps to its plan. -/
theorem Run.keeps (h : P.Run c later) (hc : c.Numbered) : P.Keeps c.schemas.size later :=
  (P.keeps_size c).run hc h

end XmlSchema.Compose.Plan
