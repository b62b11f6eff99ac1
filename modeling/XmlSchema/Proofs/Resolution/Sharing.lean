import Mathlib.Data.List.Sublists
import XmlSchema.Proofs.Collection.Sources
import XmlSchema.Proofs.Resolution.Walk
import XmlSchema.Resolution.Sharing

/-!
# A cache is not noticed

A composition with a cache and one without keep in step: the cache answers what
the resolver would answer, so that the two differ in nothing but the tickets of
their documents and in how often the resolver is asked.  Which entries get
lost, and when, does not matter.
-/

namespace XmlSchema

open Attempt

namespace ResolutionCache

/-- Every entry of a cache is what the resolver answers to its request. -/
def Faithful (resolver : Resolver) (c : ResolutionCache) : Prop :=
  ∀ r s, (r, s) ∈ c.entries → resolver.answer r = .ok (some ⟨s.locator, s.document⟩)

variable {resolver : Resolver} {c c' : ResolutionCache}

/-- Entries may get lost. -/
theorem Faithful.mono (h : c.Faithful resolver) (hsub : c'.entries ⊆ c.entries) :
    c'.Faithful resolver := fun r s hs => h r s (hsub hs)

theorem entries_removeAll_subset (c : ResolutionCache) (gone : List Request) :
    (c.removeAll gone).entries ⊆ c.entries := fun _ h => (List.mem_filter.1 h).1

theorem entries_evict_subset (c : ResolutionCache) : c.evict.entries ⊆ c.entries := by
  unfold evict
  split
  · exact List.Subset.refl _
  · exact c.entries_removeAll_subset _

theorem entries_get_subset (c : ResolutionCache) (alive : Nat → Bool) (r : Request) :
    (c.get alive r).2.entries ⊆ c.entries := by
  have hevict := c.entries_evict_subset
  unfold get
  dsimp only
  split
  · exact hevict
  · split
    · exact hevict
    · exact List.Subset.trans (c.evict.entries_removeAll_subset [r]) hevict

theorem mem_entries_of_get {alive : Nat → Bool} {r : Request} {s : Source}
    (h : (c.get alive r).1 = some s) : (r, s) ∈ c.entries := by
  unfold get at h
  dsimp only at h
  split at h
  · cases h
  · rename_i found hfound
    split at h
    · cases h
      obtain ⟨before, after, hentries, -⟩ := List.lookup_eq_some_iff.1 hfound
      exact c.entries_evict_subset (hentries ▸ List.mem_append_right _ List.mem_cons_self)
    · cases h

theorem Faithful.insert (h : c.Faithful resolver) {r : Request} {s : Source}
    (hs : resolver.answer r = .ok (some ⟨s.locator, s.document⟩)) :
    (c.insert r s).Faithful resolver := by
  intro r' s' hmem
  rcases List.mem_cons.1 hmem with heq | hmem
  · cases heq
    exact hs
  · exact h r' s' (c.entries_removeAll_subset [r] hmem)

end ResolutionCache

namespace Compose

/-- A workspace with a cache keeps in step with one that has none. -/
structure Mirrors (env : Environment) (w v : Workspace) : Prop where
  collection : w.collection.unticketed = v.collection.unticketed
  met : w.met = v.met
  cacheless : v.cache = none
  faithful : ∀ cache, w.cache = some cache → cache.Faithful env.resolver
  requests : w.requests.Sublist v.requests

/-- Two outcomes with related results, or with the same error, in workspaces
that keep in step. -/
inductive Outcomes {α β : Type} (env : Environment) (Q : α → β → Prop) :
    Except SchemaError α × Workspace → Except SchemaError β × Workspace → Prop
  | ok {a b w v} (hab : Q a b) (h : Mirrors env w v) : Outcomes env Q (.ok a, w) (.ok b, v)
  | error {w v} (e : SchemaError) (h : Mirrors env w v) :
      Outcomes env Q (.error e, w) (.error e, v)

/-- Two steps, the first in a workspace with a cache, come to related
outcomes. -/
def Agree {α β : Type} (env : Environment) (m : Compose α) (w : Workspace) (m' : Compose β)
    (v : Workspace) (Q : α → β → Prop) : Prop :=
  Outcomes env Q (exec m w) (exec m' v)

variable {env : Environment} {w v : Workspace} {α β γ δ : Type}

namespace Mirrors

theorem exchange (h : Mirrors env w v) {c d : Collection} (hcd : c.unticketed = d.unticketed) :
    Mirrors env { w with collection := c } { v with collection := d } :=
  ⟨hcd, h.met, h.cacheless, h.faithful, h.requests⟩

theorem size_eq (h : Mirrors env w v) :
    w.collection.schemas.size = v.collection.schemas.size := by
  rw [← Collection.size_unticketed, h.collection, Collection.size_unticketed]

theorem components_eq (h : Mirrors env w v) (n : Nat) :
    w.collection.components n = v.collection.components n := by
  rw [← Collection.components_unticketed, h.collection, Collection.components_unticketed]

theorem number?_eq (h : Mirrors env w v) (key : SchemaKey) :
    w.collection.number? key = v.collection.number? key := by
  rw [← Collection.number?_unticketed, h.collection, Collection.number?_unticketed]

theorem known?_eq (h : Mirrors env w v) (uri : String) :
    w.collection.known? uri = v.collection.known? uri := by
  have hknown : w.collection.unticketed.known = v.collection.unticketed.known :=
    congrArg Collection.known h.collection
  exact congrArg (List.lookup uri) hknown

end Mirrors

namespace Agree

variable {Q : α → β → Prop} {R : γ → δ → Prop} {m : Compose α} {m' : Compose β}

theorem of_pure {a : α} {b : β} (hab : Q a b) (h : Mirrors env w v) :
    Agree env (pure a) w (pure b) v Q := .ok hab h

theorem of_throw (e : SchemaError) (h : Mirrors env w v) :
    Agree env (throw e : Compose α) w (throw e : Compose β) v Q := .error e h

theorem bind {f : α → Compose γ} {f' : β → Compose δ} (hm : Agree env m w m' v Q)
    (hf : ∀ a b w' v', Q a b → Mirrors env w' v' → Agree env (f a) w' (f' b) v' R) :
    Agree env (m >>= f) w (m' >>= f') v R := by
  unfold Agree at hm ⊢
  rw [exec_bind, exec_bind]
  generalize exec m w = x at hm
  generalize exec m' v = y at hm
  cases hm with
  | ok hab h => exact hf _ _ _ _ hab h
  | error e h => exact .error e h

theorem get_bind {f : Workspace → Compose γ} {f' : Workspace → Compose δ}
    (h : Agree env (f w) w (f' v) v R) : Agree env (get >>= f) w (get >>= f') v R := by
  unfold Agree at h ⊢
  rw [exec_bind, exec_bind]
  exact h

theorem modify_bind {g g' : Workspace → Workspace} {f : PUnit → Compose γ}
    {f' : PUnit → Compose δ} (h : Agree env (f ⟨⟩) (g w) (f' ⟨⟩) (g' v) R) :
    Agree env (modify g >>= f) w (modify g' >>= f') v R := by
  unfold Agree at h ⊢
  rw [exec_bind, exec_bind]
  exact h

theorem of_update (h : Mirrors env w v) {f g : Collection → Collection}
    (hfg : (f w.collection).unticketed = (g v.collection).unticketed) :
    Agree env (update f) w (update g) v Eq := .ok rfl (h.exchange hfg)

end Agree

/-- Two documents are the same but for their tickets. -/
def SameDocument (s s' : Option Source) : Prop :=
  s.map Source.unticketed = s'.map Source.unticketed

/-- The resolver is asked by both. -/
theorem ask_agree (h : Mirrors env w v) (r : Request) :
    Agree env (ask env r) w (ask env r) v SameDocument := by
  unfold ask
  have hasked : Mirrors env { w with requests := w.requests ++ [r] }
      { v with requests := v.requests ++ [r] } :=
    ⟨h.collection, h.met, h.cacheless, h.faithful, h.requests.append (List.Sublist.refl _)⟩
  refine .modify_bind ?_
  cases hanswer : env.resolver.answer r with
  | error e => exact .of_throw e hasked
  | ok found =>
      cases found with
      | none => exact .of_pure rfl hasked
      | some d =>
          refine .ok rfl ⟨h.collection, h.met, ?_, ?_, hasked.requests⟩
          · show v.cache.map _ = none
            rw [h.cacheless]
            rfl
          · intro cache hcache
            obtain ⟨old, hold, rfl⟩ := Option.map_eq_some_iff.1 hcache
            exact (h.faithful old hold).insert hanswer

/-- What the cache has is what the resolver finds for the other. -/
theorem fetch_agree (h : Mirrors env w v) (r : Request) :
    Agree env (fetch env r) w (fetch env r) v SameDocument := by
  unfold fetch
  refine .get_bind ?_
  rw [h.cacheless]
  cases hcache : w.cache with
  | none => exact ask_agree h r
  | some cache =>
      have hfaithful := h.faithful cache hcache
      have hw : Mirrors env { w with cache := some (cache.get w.alive r).2 } v := by
        refine ⟨h.collection, h.met, h.cacheless, ?_, h.requests⟩
        intro later hlater
        cases hlater
        exact hfaithful.mono (cache.entries_get_subset w.alive r)
      cases hget : (cache.get w.alive r).1 with
      | none =>
          have hask := ask_agree hw r
          unfold Agree at hask ⊢
          rw [exec_bind, exec_bind, exec_set]
          dsimp only
          rw [exec_pure, hget]
          exact hask
      | some s =>
          -- the cache answers here, and the resolver gives the same document there
          have hanswer := hfaithful r s (ResolutionCache.mem_entries_of_get hget)
          unfold Agree
          rw [exec_bind, exec_bind, exec_set]
          dsimp only
          rw [exec_pure, hget, exec_bind, exec_pure]
          dsimp only
          rw [exec_bind, exec_modify, hanswer]
          refine .ok rfl ⟨h.collection, h.met, ?_, ?_, ?_⟩
          · show v.cache.map _ = none
            rw [h.cacheless]
            rfl
          · exact hw.faithful
          · exact h.requests.trans (List.sublist_append_left _ _)

/-- A reader works on the same components. -/
theorem onBench_agree (h : Mirrors env w v) (n : Nat) (reader : Attempt Workbench α) :
    Agree env (onBench n reader) w (onBench n reader) v Eq := by
  unfold Agree
  rw [Plan.exec_onBench, Plan.exec_onBench, h.components_eq]
  have habsorb : ∀ bench : Workbench, (w.collection.absorb n bench).unticketed =
      (v.collection.absorb n bench).unticketed := by
    intro bench
    rw [Collection.unticketed_absorb, Collection.unticketed_absorb, h.collection]
  have hlater : ∀ bench : Workbench, Mirrors env
      { w with collection := w.collection.absorb n bench, met := w.met ++ bench.met }
      { v with collection := v.collection.absorb n bench, met := v.met ++ bench.met } :=
    fun bench => ⟨habsorb bench, by rw [h.met], h.cacheless, h.faithful, h.requests⟩
  rcases exec reader { components := v.collection.components n } with ⟨e | a, bench⟩
  · exact .error e (hlater bench)
  · exact .ok rfl (hlater bench)

/-- Documents that are the same but for their tickets are built alike. -/
def BuildsAlike (env : Environment) (build : Build) : Prop :=
  ∀ w v source source' parent inherited, Mirrors env w v →
    source.unticketed = source'.unticketed →
    Agree env (build source parent inherited) w (build source' parent inherited) v Eq

theorem keyOf_eq {source source' : Source} (h : source.unticketed = source'.unticketed)
    (inherited : Option String) : keyOf source inherited = keyOf source' inherited := by
  obtain ⟨hlocator, hdocument⟩ := Source.eq_of_unticketed_eq h
  unfold keyOf
  rw [hlocator, hdocument]

theorem resolveNested_agree {build : Build} (hbuild : BuildsAlike env build)
    (h : Mirrors env w v) (r : Request) (parent : Option SchemaKey)
    (inherited : Option String) :
    Agree env (resolveNested env build r parent inherited) w
      (resolveNested env build r parent inherited) v Eq := by
  unfold resolveNested
  refine (fetch_agree h r).bind fun found found' w₁ v₁ hfound h₁ => ?_
  cases found with
  | none =>
      cases found' with
      | none => exact .of_pure rfl h₁
      | some source' => cases hfound
  | some source =>
      cases found' with
      | none => cases hfound
      | some source' =>
          have hsource : source.unticketed = source'.unticketed := Option.some.inj hfound
          refine .get_bind ?_
          rw [h₁.number?_eq, keyOf_eq hsource]
          cases v₁.collection.number? (keyOf source' inherited) with
          | some n => exact .of_pure rfl h₁
          | none =>
              refine (hbuild w₁ v₁ source source' parent inherited h₁ hsource).bind ?_
              rintro n _ w₂ v₂ rfl h₂
              exact .of_pure rfl h₂

theorem listExternal_agree (h : Mirrors env w v) {cx : Context} (scope : Scope) (d : Draft)
    (children : List Xml.Node) (target : Collection → Option Nat)
    (htarget : target w.collection = target v.collection) :
    Agree env (listExternal cx scope d children target) w
      (listExternal cx scope d children target) v Eq := by
  unfold listExternal
  refine .get_bind ?_
  dsimp only
  rw [htarget]
  refine (onBench_agree h cx.schema _).bind ?_
  rintro draft _ w₁ v₁ rfl h₁
  split
  · refine .of_update h₁ ?_
    rw [Collection.unticketed_addItem, Collection.unticketed_addItem, h₁.collection]
  · exact .of_pure rfl h₁

theorem seek_agree {build : Build} (hbuild : BuildsAlike env build) (h : Mirrors env w v)
    (cx : Context) (e : ExternalRef) :
    Agree env (seek env build cx e) w (seek env build cx e) v Eq := by
  unfold seek
  split
  · exact .of_pure rfl h
  · exact resolveNested_agree hbuild h _ _ _

theorem external_agree {build : Build} (hbuild : BuildsAlike env build) (h : Mirrors env w v)
    {cx : Context} (scope : Scope) (kind : ExternalKind) (e : Xml.Element) :
    Agree env (external env build cx scope kind e) w (external env build cx scope kind e) v Eq := by
  rw [external_eq]
  refine (onBench_agree h cx.schema _).bind ?_
  rintro draft _ w₁ v₁ rfl h₁
  refine (seek_agree hbuild h₁ cx _).bind ?_
  rintro found _ w₂ v₂ rfl h₂
  refine listExternal_agree h₂ _ draft e.children _ ?_
  rw [ExternalRef.targetIn, ExternalRef.targetIn, h₂.known?_eq]

theorem meet_agree (h : Mirrors env w v) (cx : Context) (content : ForeignContent) :
    Agree env (meet cx content) w (meet cx content) v Eq := by
  unfold meet
  have hmet : Mirrors env { w with met := w.met ++ [content] }
      { v with met := v.met ++ [content] } :=
    ⟨h.collection, by rw [h.met], h.cacheless, h.faithful, h.requests⟩
  refine .modify_bind ?_
  split
  · refine .of_update hmet ?_
    rw [Collection.unticketed_modify, Collection.unticketed_modify, hmet.collection]
    all_goals exact fun _ => rfl
  · exact .of_pure rfl hmet

theorem enlist_agree (h : Mirrors env w v) (cx : Context) (p : Part) :
    Agree env (enlist cx p) w (enlist cx p) v Eq := by
  cases p with
  | note a =>
      have hnote : (w.collection.addItem cx.schema (.note a)).unticketed =
          (v.collection.addItem cx.schema (.note a)).unticketed := by
        rw [Collection.unticketed_addItem, Collection.unticketed_addItem, h.collection]
      exact .ok rfl (h.exchange hnote)
  | component ref =>
      have henlist : (w.collection.enlist ref.id).map Collection.unticketed =
          (v.collection.enlist ref.id).map Collection.unticketed := by
        rw [← Collection.unticketed_enlist, ← Collection.unticketed_enlist, h.collection]
      unfold enlist attempt
      refine .get_bind ?_
      dsimp only
      cases hw : w.collection.enlist ref.id <;> cases hv : v.collection.enlist ref.id <;>
        rw [hw, hv] at henlist
      · cases henlist
        exact .of_throw _ h
      · cases henlist
      · cases henlist
      · exact .of_update h (Except.ok.inj henlist)
  | _ => exact .of_pure rfl h

theorem topLevelChild_agree {build : Build} (hbuild : BuildsAlike env build)
    (h : Mirrors env w v) (cx : Context) (scope : Scope) (e : Xml.Element) :
    Agree env (topLevelChild env build cx scope e) w (topLevelChild env build cx scope e) v Eq := by
  unfold topLevelChild
  split
  · exact .of_pure rfl h
  · exact meet_agree h cx _
  · exact external_agree hbuild h scope _ e
  · split
    · exact .of_pure rfl h
    · refine (onBench_agree h cx.schema _).bind ?_
      rintro part _ w₁ v₁ rfl h₁
      exact enlist_agree h₁ cx part

theorem topLevelPass_agree {build : Build} (hbuild : BuildsAlike env build) (cx : Context)
    (scope : Scope) (elements : List Xml.Element) (h : Mirrors env w v) :
    Agree env (topLevelPass env build cx scope elements) w
      (topLevelPass env build cx scope elements) v Eq := by
  induction elements generalizing w v with
  | nil => exact .of_pure rfl h
  | cons e rest ih =>
      exact (topLevelChild_agree hbuild h cx scope e).bind fun _ _ _ _ _ h₁ => ih h₁

theorem rootSchema_unticketed (policy : ForeignPolicy) (n : Nat) (source : Source)
    (parent : Option SchemaKey) (inherited : Option String) :
    (rootSchema policy n source parent inherited).unticketed =
      rootSchema policy n source.unticketed parent inherited := rfl

/-- A schema begins in the same way, whatever the ticket of its document. -/
theorem opened_mirrors (h : Mirrors env w v) {source source' : Source}
    (hsource : source.unticketed = source'.unticketed) (parent : Option SchemaKey)
    (inherited : Option String) :
    Mirrors env (opened env w source parent inherited)
      (opened env v source' parent inherited) := by
  obtain ⟨-, hdocument⟩ := Source.eq_of_unticketed_eq hsource
  refine ⟨?_, ?_, h.cacheless, h.faithful, h.requests⟩
  · show (w.collection.push _).unticketed = (v.collection.push _).unticketed
    rw [Collection.unticketed_push, Collection.unticketed_push, rootSchema_unticketed,
      rootSchema_unticketed, hsource, h.collection, h.size_eq]
  · show w.met ++ _ = v.met ++ _
    rw [h.met, hdocument]

theorem fallback_eq (h : Mirrors env w v) {source source' : Source}
    (hsource : source.unticketed = source'.unticketed) (parent : Option SchemaKey)
    (inherited : Option String) :
    fallback w source parent inherited = fallback v source' parent inherited := by
  have hbindings : ∀ (c : Collection) (key : SchemaKey),
      (c.unticketed.schema? key).map Schema.bindings = (c.schema? key).map Schema.bindings := by
    intro c key
    have hsame : Schema.bindings ∘ Schema.unticketed = Schema.bindings := rfl
    rw [Collection.schema?_unticketed, Option.map_map, hsame]
  obtain ⟨-, hdocument⟩ := Source.eq_of_unticketed_eq hsource
  unfold fallback
  cases parent with
  | none => rfl
  | some key =>
      rw [Option.bind_some, Option.bind_some, ← hbindings (w.collection.push _),
        ← hbindings (v.collection.push _), Collection.unticketed_push, Collection.unticketed_push,
        h.collection, h.size_eq, keyOf_eq hsource, hdocument]

/-- Building keeps in step, however deeply documents are nested. -/
theorem buildSource_agree (env : Environment) (fuel : Nat) :
    BuildsAlike env (buildSource env fuel) := by
  induction fuel with
  | zero =>
      intro w v source source' parent inherited h hsource
      obtain ⟨hlocator, -⟩ := Source.eq_of_unticketed_eq hsource
      unfold buildSource
      rw [hlocator]
      exact .of_throw _ h
  | succ fuel ih =>
      intro w v source source' parent inherited h hsource
      obtain ⟨hlocator, hdocument⟩ := Source.eq_of_unticketed_eq hsource
      have hkey := keyOf_eq hsource inherited
      unfold Agree
      cases hroot : source.document.tag.is schemaNamespace "schema" with
      | false =>
          rw [exec_buildSource_of_not_schema env parent hroot,
            exec_buildSource_of_not_schema env parent (hdocument ▸ hroot), hlocator, hdocument]
          exact .error _ h
      | true =>
          have hfound : (w.collection.schema? (keyOf source inherited)).isSome =
              (v.collection.schema? (keyOf source' inherited)).isSome := by
            have hnumber := congrArg Option.isSome (h.number?_eq (keyOf source inherited))
            rw [hkey] at hnumber ⊢
            unfold Collection.number? at hnumber
            rw [Option.isSome_map, Option.isSome_map] at hnumber
            exact hnumber
          cases hnew : w.collection.schema? (keyOf source inherited) with
          | some s =>
              rw [hnew] at hfound
              rw [exec_buildSource_of_registered env parent hroot (by rw [hnew]; rfl),
                exec_buildSource_of_registered env parent (hdocument ▸ hroot) hfound.symm, hkey]
              exact .error _ h
          | none =>
              have hnew' : v.collection.schema? (keyOf source' inherited) = none := by
                rw [hnew] at hfound
                exact Option.isNone_iff_eq_none.1 (by rw [← Option.not_isSome, ← hfound]; rfl)
              have hpass := topLevelPass_agree ih
                (Context.ofSchema
                  (rootSchema env.policy w.collection.schemas.size source parent inherited)
                  env.policy)
                ((Scope.inherited (fallback w source parent inherited)).enter
                  source.document.tag.declared)
                source.document.childElements (opened_mirrors h hsource parent inherited)
              have hcx : Context.ofSchema
                    (rootSchema env.policy w.collection.schemas.size source parent inherited)
                    env.policy =
                  Context.ofSchema
                    (rootSchema env.policy v.collection.schemas.size source' parent inherited)
                    env.policy := by
                have hsame : ∀ s : Schema, Context.ofSchema s.unticketed env.policy =
                    Context.ofSchema s env.policy := fun _ => rfl
                rw [← hsame, rootSchema_unticketed, hsource, ← rootSchema_unticketed, hsame,
                  h.size_eq]
              rw [exec_buildSource env parent hroot hnew fuel,
                exec_buildSource env parent (hdocument ▸ hroot) hnew' fuel, ← hcx,
                ← fallback_eq h hsource parent inherited, ← hdocument, ← h.size_eq]
              unfold Agree at hpass
              generalize exec (topLevelPass env (buildSource env fuel) _ _ _)
                (opened env w source parent inherited) = x at hpass
              generalize exec (topLevelPass env (buildSource env fuel) _ _ _)
                (opened env v source' parent inherited) = y at hpass
              cases hpass with
              | error e h₁ => exact .error e h₁
              | ok hab h₁ =>
                  refine .ok rfl (h₁.exchange ?_)
                  rw [Collection.unticketed_modify, Collection.unticketed_modify, h₁.collection]
                  all_goals exact fun _ => rfl

theorem build_agree (h : Mirrors env w v) (d : Located) :
    Agree env (build env d) w (build env d) v Eq := by
  unfold build Agree
  rw [exec_bind, exec_bind]
  exact buildSource_agree env _ _ _ _ _ none none
    ⟨h.collection, h.met, h.cacheless, h.faithful, h.requests⟩ rfl

theorem buildText_agree (h : Mirrors env w v) (locator text : String) :
    Agree env (buildText env locator text) w (buildText env locator text) v Eq := by
  unfold buildText
  split
  · exact .of_throw _ h
  · exact build_agree h _

theorem readLocation_agree (h : Mirrors env w v) (location : String) (base : Option String) :
    Agree env (readLocation env location base) w (readLocation env location base) v Eq :=
  resolveNested_agree (buildSource_agree env _) h _ none none

end Compose

theorem Reading.run_agree {env : Environment} {w v : Workspace} (h : Compose.Mirrors env w v)
    (reading : Reading) : Compose.Agree env (reading.run env) w (reading.run env) v Eq := by
  cases reading with
  | document d =>
      refine (Compose.build_agree h d).bind ?_
      rintro n _ w' v' rfl h'
      exact .of_pure rfl h'
  | text locator content =>
      refine (Compose.buildText_agree h locator content).bind ?_
      rintro n _ w' v' rfl h'
      exact .of_pure rfl h'
  | location place base => exact Compose.readLocation_agree h place base

/-- A member without the tickets of its documents. -/
def Member.unticketed (m : Member) : Member := { m with collection := m.collection.unticketed }

theorem Member.policy_eq {m m' : Member} (h : m.unticketed = m'.unticketed) :
    m.policy = m'.policy :=
  (congrArg Member.policy h : m.unticketed.policy = m'.unticketed.policy)

namespace Cohort

/-- Collections that share a cache keep in step with collections that have
none. -/
structure Mirrors (resolver : Resolver) (s t : Cohort) : Prop where
  members : s.members.map (Option.map Member.unticketed) =
    t.members.map (Option.map Member.unticketed)
  met : s.met = t.met
  cacheless : t.cache = none
  faithful : ∀ cache, s.cache = some cache → cache.Faithful resolver
  requests : s.requests.Sublist t.requests

variable {resolver : Resolver} {s t : Cohort}

theorem step_call_absent {n : Nat} (hs : s.members[n]?.join = none) (reading : Reading)
    (held : List Nat) (evictions : List (List Request)) :
    s.step resolver (.call n reading held evictions) = (none, s) := by
  simp only [step, hs]

theorem step_call {n : Nat} {m : Member} (hs : s.members[n]?.join = some m) (reading : Reading)
    (held : List Nat) (evictions : List (List Request)) :
    s.step resolver (.call n reading held evictions) =
      (some (exec (reading.run ⟨resolver, m.policy⟩) (s.workspace n m held evictions)).1,
        s.resume n m
          (exec (reading.run ⟨resolver, m.policy⟩) (s.workspace n m held evictions)).2) := by
  simp only [step, hs]
  rfl

theorem Mirrors.member (h : Mirrors resolver s t) (n : Nat) :
    (s.members[n]?.join).map Member.unticketed = (t.members[n]?.join).map Member.unticketed := by
  have hn := congrArg (fun l : List (Option Member) => l[n]?.join) h.members
  simpa only [List.getElem?_map, Option.join_map_eq_map_join] using hn

/-- A call begins in step. -/
theorem Mirrors.workspace (h : Mirrors resolver s t) {m m' : Member}
    (hm : m.unticketed = m'.unticketed) (n : Nat) (held : List Nat)
    (evictions : List (List Request)) :
    Compose.Mirrors ⟨resolver, m.policy⟩ (s.workspace n m held evictions)
      (t.workspace n m' held evictions) := by
  have hcollection : m.unticketed.collection = m'.unticketed.collection :=
    congrArg Member.collection hm
  refine ⟨hcollection, h.met, ?_, ?_, h.requests⟩
  · show t.cache.map _ = none
    rw [h.cacheless]
    rfl
  · intro cache hcache
    obtain ⟨old, hold, rfl⟩ := Option.map_eq_some_iff.1 hcache
    exact h.faithful old hold

/-- After a call the collections keep in step again. -/
theorem Mirrors.resume (h : Mirrors resolver s t) {m m' : Member}
    (hm : m.unticketed = m'.unticketed) (n : Nat) {w v : Workspace}
    (hwv : Compose.Mirrors ⟨resolver, m.policy⟩ w v) :
    Mirrors resolver (s.resume n m w) (t.resume n m' v) := by
  have hmember : ({ m with collection := w.collection } : Member).unticketed =
      ({ m' with collection := v.collection } : Member).unticketed := by
    unfold Member.unticketed
    simp only [hwv.collection, Member.policy_eq hm]
  refine ⟨?_, hwv.met, hwv.cacheless, hwv.faithful, hwv.requests⟩
  show (s.members.set n _).map _ = (t.members.set n _).map _
  rw [List.map_set, List.map_set, h.members, Option.map_some, Option.map_some, hmember]

/-- One thing that happens is answered alike, and the collections keep in
step. -/
theorem Mirrors.step (h : Mirrors resolver s t) (happening : Happening) :
    (s.step resolver happening).1 = (t.step resolver happening).1 ∧
      Mirrors resolver (s.step resolver happening).2 (t.step resolver happening).2 := by
  have hcacheless : ∀ f : ResolutionCache → ResolutionCache, t.cache.map f = none := by
    intro f
    rw [h.cacheless]
    rfl
  cases happening with
  | enter policy =>
      refine ⟨rfl, ?_, h.met, h.cacheless, h.faithful, h.requests⟩
      show (s.members ++ _).map _ = (t.members ++ _).map _
      rw [List.map_append, List.map_append, h.members]
  | drop n =>
      refine ⟨rfl, ?_, h.met, h.cacheless, h.faithful, h.requests⟩
      show (s.members.set n none).map _ = (t.members.set n none).map _
      rw [List.map_set, List.map_set, h.members]
  | remove gone =>
      refine ⟨rfl, h.members, h.met, hcacheless _, ?_, h.requests⟩
      intro cache hcache
      obtain ⟨old, hold, rfl⟩ := Option.map_eq_some_iff.1 hcache
      exact (h.faithful old hold).mono (old.entries_removeAll_subset gone)
  | clear =>
      refine ⟨rfl, h.members, h.met, hcacheless _, ?_, h.requests⟩
      intro cache hcache
      obtain ⟨old, -, rfl⟩ := Option.map_eq_some_iff.1 hcache
      exact nofun
  | call n reading held evictions =>
      have hmember := h.member n
      cases hs : s.members[n]?.join with
      | none =>
          rw [hs, Option.map_none, eq_comm, Option.map_eq_none_iff] at hmember
          rw [step_call_absent hs, step_call_absent hmember]
          exact ⟨rfl, h⟩
      | some m =>
          rw [hs, Option.map_some, eq_comm, Option.map_eq_some_iff] at hmember
          obtain ⟨m', ht, hm⟩ := hmember
          have hcall := reading.run_agree (h.workspace hm.symm n held evictions)
          rw [step_call hs, step_call ht, Member.policy_eq hm]
          unfold Compose.Agree at hcall
          generalize exec (reading.run ⟨resolver, m.policy⟩) (s.workspace n m held evictions) = x
            at hcall
          generalize exec (reading.run ⟨resolver, m.policy⟩) (t.workspace n m' held evictions) = y
            at hcall
          cases hcall with
          | ok hab hlater =>
              cases hab
              exact ⟨rfl, h.resume hm.symm n hlater⟩
          | error e hlater => exact ⟨rfl, h.resume hm.symm n hlater⟩

/-- Whatever happens is answered alike. -/
theorem Mirrors.run (happenings : List Happening) (h : Mirrors resolver s t) :
    (Cohort.run resolver happenings s).1 = (Cohort.run resolver happenings t).1 ∧
      Mirrors resolver (Cohort.run resolver happenings s).2 (Cohort.run resolver happenings t).2 := by
  induction happenings generalizing s t with
  | nil => exact ⟨rfl, h⟩
  | cons happening rest ih =>
      obtain ⟨hanswer, hstep⟩ := h.step happening
      obtain ⟨hanswers, hrun⟩ := ih hstep
      refine ⟨?_, hrun⟩
      show (s.step resolver happening).1 :: (run resolver rest (s.step resolver happening).2).1 =
        (t.step resolver happening).1 :: (run resolver rest (t.step resolver happening).2).1
      rw [hanswer, hanswers]

/-- A cache changes nothing but how often the resolver is asked.  Collections
that share one, and read whatever they read while entries get lost in whatever
way, answer every call as they would without it; they are left with the same
schemas but for the tickets of the documents, and have met the same foreign
content; and what reaches the resolver is a part, in the same order, of what
reaches it without a cache. -/
theorem cache_unnoticed (resolver : Resolver) (happenings : List Happening) :
    let cached := Cohort.run resolver happenings { cache := some {} }
    let bare := Cohort.run resolver happenings {}
    cached.1 = bare.1 ∧
      cached.2.members.map (Option.map Member.unticketed) =
        bare.2.members.map (Option.map Member.unticketed) ∧
      cached.2.met = bare.2.met ∧ cached.2.requests.Sublist bare.2.requests := by
  have hbegin : Mirrors resolver { cache := some {} } {} := by
    refine ⟨rfl, rfl, rfl, ?_, List.Sublist.refl _⟩
    intro cache hcache
    cases hcache
    exact nofun
  obtain ⟨hanswers, hend⟩ := hbegin.run happenings
  exact ⟨hanswers, hend.members, hend.met, hend.requests⟩

/-- The second collection finds what the first one has read, so that the
resolver is asked only once. -/
example :
    let resolver : Resolver := .ofDocuments [("a.xsd",
      "<s:schema xmlns:s=\"http://www.w3.org/2001/XMLSchema\"/>")]
    let call (n : Nat) : Happening := .call n (.location "a.xsd" none) [] []
    let requests (s : Cohort) := (Cohort.run resolver
      [.enter .keep, .enter .keep, call 0, call 1] s).2.requests.length
    requests { cache := some {} } = 1 ∧ requests {} = 2 := by
  decide +kernel

end Cohort

end XmlSchema
