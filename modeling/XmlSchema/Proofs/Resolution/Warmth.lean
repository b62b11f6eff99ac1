import XmlSchema.Proofs.Resolution.Sharing

/-!
# What a warm cache answers

While a cache has room for everything, what it answers with a document in use
it goes on answering.  After a composition every schema that has been built
stands for an entry of the cache, as long as it is there; the same composition
elsewhere asks the resolver for nothing that the cache still answers.  A
document that has been dropped, since its schema was there already, leaves an
entry that answers nothing.
-/

namespace XmlSchema

open Attempt

namespace Collection

variable {c later : Collection} {n : Nat} {f : Schema → Schema}

/-- The documents of the schemas, in order. -/
def sources (c : Collection) : List (Option Source) := c.schemas.toList.map Schema.source

theorem sources_congr
    (h : ∀ i : Nat, (later.schemas[i]?).map Schema.source = (c.schemas[i]?).map Schema.source) :
    later.sources = c.sources := by
  refine List.ext_getElem? fun i => ?_
  rw [sources, sources, List.getElem?_map, List.getElem?_map, Array.getElem?_toList,
    Array.getElem?_toList]
  exact h i

theorem SameFrame.sources_eq (h : c.SameFrame later) : later.sources = c.sources := by
  refine sources_congr fun i => ?_
  have hframe := congrArg (Option.map Schema.source) (h i)
  rw [Option.map_map, Option.map_map] at hframe
  exact hframe

theorem sources_modify (hf : ∀ s, (f s).source = s.source) :
    (c.modify n f).sources = c.sources := by
  refine sources_congr fun i => ?_
  rw [schemas_modify]
  split
  · rw [Option.map_map]
    congr 1
    exact funext hf
  · rfl

theorem sources_push (c : Collection) (s : Schema) :
    (c.push s).sources = c.sources ++ [s.source] := by
  rw [sources, push, Array.toList_push, List.map_append]
  rfl

theorem sources_enlist {kind : ComponentKind} {id : ComponentId kind}
    (h : c.enlist id = .ok later) : later.sources = c.sources := by
  obtain ⟨c', hc', rfl⟩ := enlist_cases h
  have hlist : (c'.addItem id.schema (.component ⟨kind, id⟩)).sources = c'.sources :=
    sources_modify fun _ => rfl
  rw [hlist]
  rcases register_cases hc' with ⟨-, rfl⟩ | ⟨-, -, name, -, -, -, -, rfl⟩
  · rfl
  · rw [(SameFrame.settle name id).sources_eq]
    exact sources_modify fun _ => rfl

end Collection

namespace ResolutionCache

variable {c : ResolutionCache} {alive : Nat → Bool} {r other : Request} {s : Source}

theorem lookup?_remove (c : ResolutionCache) (r other : Request) :
    (c.remove r).lookup? other = if other = r then none else c.lookup? other := by
  unfold lookup? remove removeAll
  dsimp only
  induction c.entries with
  | nil => exact (ite_self none).symm
  | cons entry rest ih =>
      obtain ⟨k, s⟩ := entry
      by_cases hk : k = r
      · subst hk
        rw [List.filter_cons_of_neg (by simp), ih, List.lookup_cons]
        split
        · rfl
        · rename_i hother
          rw [beq_false_of_ne hother]
      · rw [List.filter_cons_of_pos (by simpa using hk), List.lookup_cons, ih, List.lookup_cons]
        by_cases hother : other = k
        · subst hother
          rw [beq_self_eq_true]
          exact (if_neg hk).symm
        · rw [beq_false_of_ne hother]

theorem lookup?_insert (c : ResolutionCache) (r : Request) (s : Source) (other : Request) :
    (c.insert r s).lookup? other = if other = r then some s else c.lookup? other := by
  split
  · rename_i h
    subst h
    exact List.lookup_cons_self
  · rename_i h
    have hremove := c.lookup?_remove r other
    rw [if_neg h] at hremove
    rw [← hremove, insert, lookup?, List.lookup_cons, beq_false_of_ne h]
    rfl

/-- While nothing is evicted, asking the cache drops a dead entry at most. -/
theorem get_cases (h : c.evictions = []) (alive : Nat → Bool) (r : Request) :
    (∃ s, c.lookup? r = some s ∧ alive s.ticket = true ∧ c.get alive r = (some s, c)) ∨
      (c.contains alive r = false ∧
        (c.get alive r = (none, c) ∨ c.get alive r = (none, c.remove r))) := by
  have hevict : c.evict = c := by
    unfold evict
    rw [h]
  unfold get contains
  dsimp only
  rw [hevict]
  cases c.lookup? r with
  | none => exact .inr ⟨rfl, .inl rfl⟩
  | some s =>
      dsimp only
      cases halive : alive s.ticket with
      | false => exact .inr ⟨halive, .inr rfl⟩
      | true => exact .inl ⟨s, rfl, halive, rfl⟩

end ResolutionCache

namespace Workspace

variable {w w' w'' : Workspace} {r : Request} {s : Source}

/-- The cache has an entry. -/
def Holds (w : Workspace) (r : Request) (s : Source) : Prop :=
  ∃ cache, w.cache = some cache ∧ cache.lookup? r = some s

/-- The cache answers a request with a document that is in use. -/
def answers (w : Workspace) (r : Request) : Bool := w.cache.any (·.contains w.alive r)

/-- There is a cache, and nothing in it gives way to a bound. -/
def Roomy (w : Workspace) : Prop := ∃ cache, w.cache = some cache ∧ cache.evictions = []

theorem answers_iff : w.answers r = true ↔ ∃ s, w.Holds r s ∧ w.alive s.ticket = true := by
  unfold answers Holds ResolutionCache.contains
  cases w.cache with
  | none => exact ⟨nofun, fun ⟨_, ⟨_, hcache, _⟩, _⟩ => nomatch hcache⟩
  | some cache =>
      rw [Option.any_some, Option.any_eq_true]
      constructor
      · rintro ⟨s, hs, halive⟩
        exact ⟨s, ⟨cache, rfl, hs⟩, halive⟩
      · rintro ⟨s, ⟨_, heq, hs⟩, halive⟩
        cases heq
        exact ⟨s, hs, halive⟩

/-- A later time of a workspace whose cache has room.  What the cache has
answered it still answers, the resolver has been asked for nothing of it, and
the documents of new schemas have got entries. -/
structure Warms (w w' : Workspace) : Prop where
  roomy : w'.Roomy
  elsewhere : w'.elsewhere = w.elsewhere
  alive : ∀ ticket, w.alive ticket = true → w'.alive ticket = true
  holds : ∀ r s, w.Holds r s → w.alive s.ticket = true → w'.Holds r s
  asked : ∃ more, w'.requests = w.requests ++ more ∧ ∀ r ∈ more, w.answers r = false
  sources : ∀ s, some s ∈ w'.collection.sources →
    some s ∈ w.collection.sources ∨ ∃ r, w'.Holds r s

theorem alive_of_mem_sources (h : some s ∈ w.collection.sources) : w.alive s.ticket = true := by
  obtain ⟨schema, hschema, hsource⟩ := List.mem_map.1 h
  have hticket : s.ticket ∈ ticketsOf w.collection :=
    List.mem_filterMap.2 ⟨schema, hschema, by rw [hsource]; rfl⟩
  rw [Workspace.alive, List.contains_iff_mem.2 hticket, Bool.or_true]

namespace Warms

theorem answers (h : w.Warms w') (hr : w.answers r = true) : w'.answers r = true := by
  obtain ⟨s, hs, halive⟩ := answers_iff.1 hr
  exact answers_iff.2 ⟨s, h.holds r s hs halive, h.alive _ halive⟩

theorem trans (h : w.Warms w') (h' : w'.Warms w'') : w.Warms w'' where
  roomy := h'.roomy
  elsewhere := h'.elsewhere.trans h.elsewhere
  alive ticket ht := h'.alive ticket (h.alive ticket ht)
  holds r s hs halive := h'.holds r s (h.holds r s hs halive) (h.alive _ halive)
  asked := by
    obtain ⟨more, hmore, hnew⟩ := h.asked
    obtain ⟨rest, hrest, hnew'⟩ := h'.asked
    refine ⟨more ++ rest, by rw [hrest, hmore, List.append_assoc], fun r hr => ?_⟩
    rcases List.mem_append.1 hr with hr | hr
    · exact hnew r hr
    · refine Bool.eq_false_iff.2 fun hwarm => ?_
      have hlater := h.answers hwarm
      rw [hnew' r hr] at hlater
      cases hlater
  sources s hs := by
    rcases h'.sources s hs with hmid | hheld
    · rcases h.sources s hmid with hold | ⟨r, hr⟩
      · exact .inl hold
      · exact .inr ⟨r, h'.holds r s hr (alive_of_mem_sources hmid)⟩
    · exact .inr hheld

/-- A change that is not about documents. -/
theorem of_sources (h : w.Roomy) {c : Collection} (hc : c.sources = w.collection.sources)
    (met : List ForeignContent) : w.Warms { w with collection := c, met } where
  roomy := h
  elsewhere := rfl
  alive ticket ht := by
    have htickets : ∀ c : Collection, ticketsOf c = c.sources.filterMap (·.map Source.ticket) := by
      intro c
      rw [ticketsOf, Collection.sources, List.filterMap_map]
      rfl
    rw [Workspace.alive, htickets] at ht ⊢
    rw [hc]
    exact ht
  holds _ _ hs _ := hs
  asked := ⟨[], (List.append_nil _).symm, fun _ hr => absurd hr List.not_mem_nil⟩
  sources _ hs := .inl (hc ▸ hs)

theorem refl (h : w.Roomy) : w.Warms w := of_sources h rfl w.met

end Warms

end Workspace

namespace Compose

open Workspace

variable {env : Environment} {w : Workspace} {cx : Context} {α β : Type}

/-- A step that keeps a cache warm, however it ends. -/
def Warmly (m : Compose α) (w : Workspace) : Prop :=
  Ends m w (fun _ w' => w.Warms w') (fun _ w' => w.Warms w')

/-- Building a document that the cache holds keeps the cache warm. -/
def BuildsWarmly (build : Build) : Prop :=
  ∀ w r source parent inherited, w.Roomy → w.Holds r source →
    Warmly (build source parent inherited) w

theorem Warmly.bind {m : Compose α} {f : α → Compose β} (h : Warmly m w)
    (hf : ∀ a w', w'.Roomy → Warmly (f a) w') : Warmly (m >>= f) w :=
  Ends.bind h fun a w' hw' =>
    (hf a w' hw'.roomy).mono (fun _ _ h => hw'.trans h) fun _ _ h => hw'.trans h

/-- What is asked for has had no live entry, and gets one. -/
theorem ask_warms {cache : ResolutionCache} (hcache : w.cache = some cache)
    (hroom : cache.evictions = []) {r : Request} (hr : w.answers r = false) :
    Ends (ask env r) w (fun found w' => w.Warms w' ∧ ∀ s, found = some s → w'.Holds r s)
      (fun _ w' => w.Warms w') := by
  have hasked : w.Warms { w with requests := w.requests ++ [r] } := by
    refine ⟨⟨cache, hcache, hroom⟩, rfl, fun _ h => h, fun _ _ h _ => h, ⟨[r], rfl, ?_⟩,
      fun _ h => .inl h⟩
    intro other hother
    rw [List.mem_singleton.1 hother]
    exact hr
  refine ask_ends (fun _ _ => hasked) (fun _ => ⟨hasked, nofun⟩) fun d _ => ?_
  have hinsert : w.cache.map (fun c => c.insert r ⟨d.locator, d.document, w.nextTicket⟩) =
      some (cache.insert r ⟨d.locator, d.document, w.nextTicket⟩) := by
    rw [hcache]
    rfl
  refine ⟨⟨⟨_, hinsert, hroom⟩, rfl, hasked.alive, ?_, hasked.asked, fun _ h => .inl h⟩, ?_⟩
  · rintro other s ⟨_, heq, hs⟩ halive
    cases hcache.symm.trans heq
    refine ⟨_, hinsert, ?_⟩
    rw [ResolutionCache.lookup?_insert, if_neg, hs]
    -- the entry of the request itself is not alive
    rintro rfl
    rw [answers_iff.2 ⟨s, ⟨cache, hcache, hs⟩, halive⟩] at hr
    cases hr
  · rintro s hs
    cases hs
    refine ⟨_, hinsert, ?_⟩
    rw [ResolutionCache.lookup?_insert, if_pos rfl]

theorem fetch_warms (h : w.Roomy) (r : Request) :
    Ends (fetch env r) w (fun found w' => w.Warms w' ∧ ∀ s, found = some s → w'.Holds r s)
      (fun _ w' => w.Warms w') := by
  obtain ⟨cache, hcache, hroom⟩ := h
  have hkept : ({ w with cache := some cache } : Workspace) = w := by rw [← hcache]
  unfold fetch
  rw [ends_bind, ends_get, hcache]
  dsimp only
  rw [ends_bind, ends_set, ends_bind, ends_pure]
  rcases cache.get_cases hroom w.alive r with ⟨s, hs, -, hget⟩ | ⟨hdead, hget | hget⟩
  · rw [hget, hkept]
    refine ⟨.refl ⟨cache, hcache, hroom⟩, fun s' hs' => ?_⟩
    cases hs'
    exact ⟨cache, hcache, hs⟩
  · rw [hget, hkept]
    refine ask_warms hcache hroom ?_
    rw [answers, hcache]
    exact hdead
  · -- a dead entry makes way for the one that is to come
    rw [hget]
    have hdrop : w.Warms { w with cache := some (cache.remove r) } := by
      refine ⟨⟨_, rfl, hroom⟩, rfl, fun _ h => h, ?_, ⟨[], (List.append_nil _).symm, nofun⟩,
        fun _ h => .inl h⟩
      rintro other s ⟨_, heq, hs⟩ halive
      cases hcache.symm.trans heq
      refine ⟨_, rfl, ?_⟩
      rw [ResolutionCache.lookup?_remove, if_neg, hs]
      rintro rfl
      rw [ResolutionCache.contains, hs, Option.any_some, halive] at hdead
      cases hdead
    have hdropped : answers { w with cache := some (cache.remove r) } r = false := by
      rw [answers, Option.any_some, ResolutionCache.contains, ResolutionCache.lookup?_remove,
        if_pos rfl]
      rfl
    exact (ask_warms (w := { w with cache := some (cache.remove r) }) rfl hroom hdropped).mono
      (fun _ _ h => ⟨hdrop.trans h.1, h.2⟩) fun _ _ h => hdrop.trans h

theorem resolveNested_warms {build : Build} (hbuild : BuildsWarmly build) (h : w.Roomy)
    (r : Request) (parent : Option SchemaKey) (inherited : Option String) :
    Warmly (resolveNested env build r parent inherited) w := by
  unfold resolveNested
  refine Ends.bind (fetch_warms h r) ?_
  rintro found w₁ ⟨hw₁, hheld⟩
  cases found with
  | none => exact hw₁
  | some source =>
      dsimp only
      rw [ends_bind, ends_get]
      split
      · exact hw₁
      · refine Ends.bind (Q := fun _ w₂ => w.Warms w₂) ?_ fun _ _ hw₂ => hw₂
        exact (hbuild w₁ r source parent inherited hw₁.roomy (hheld source rfl)).mono
          (fun _ _ h => hw₁.trans h) fun _ _ h => hw₁.trans h

theorem onBench_warms (h : w.Roomy) (n : Nat) (reader : Attempt Workbench α) :
    Warmly (onBench n reader) w := by
  unfold Warmly Ends
  rw [Plan.exec_onBench]
  have habsorb : ∀ bench : Workbench,
      (w.collection.absorb n bench).sources = w.collection.sources :=
    fun bench => (Collection.SameFrame.absorb n bench).sources_eq
  rcases exec reader { components := w.collection.components n } with ⟨e | a, bench⟩
  · exact .of_sources h (habsorb bench) _
  · exact .of_sources h (habsorb bench) _

theorem update_warms (h : w.Roomy) {f : Collection → Collection}
    (hf : (f w.collection).sources = w.collection.sources) : Warmly (update f) w :=
  .of_sources h hf w.met

theorem listExternal_warms (h : w.Roomy) (scope : Scope) (d : Draft) (children : List Xml.Node)
    (target : Collection → Option Nat) : Warmly (listExternal cx scope d children target) w := by
  unfold listExternal Warmly
  rw [ends_bind, ends_get]
  refine (onBench_warms h cx.schema _).bind fun d' w₁ hw₁ => ?_
  cases d' with
  | external reference =>
      refine update_warms hw₁ ?_
      exact Collection.sources_modify fun _ => rfl
  | _ => exact Warms.refl hw₁

theorem seek_warms {build : Build} (hbuild : BuildsWarmly build) (h : w.Roomy) (cx : Context)
    (e : ExternalRef) : Warmly (seek env build cx e) w := by
  unfold seek
  split
  · exact .refl h
  · exact resolveNested_warms hbuild h _ _ _

theorem external_warms {build : Build} (hbuild : BuildsWarmly build) (h : w.Roomy) (scope : Scope)
    (kind : ExternalKind) (e : Xml.Element) : Warmly (external env build cx scope kind e) w := by
  rw [external_eq]
  refine (onBench_warms h cx.schema _).bind fun d w₁ hw₁ => ?_
  refine (seek_warms hbuild hw₁ cx _).bind fun found w₂ hw₂ => ?_
  exact listExternal_warms hw₂ _ d e.children _

theorem meet_warms (h : w.Roomy) (cx : Context) (content : ForeignContent) :
    Warmly (meet cx content) w := by
  unfold meet Warmly
  rw [ends_bind, ends_modify]
  split
  · refine Warms.of_sources h ?_ _
    exact Collection.sources_modify fun _ => rfl
  · exact Warms.of_sources h rfl _

theorem enlist_warms (h : w.Roomy) (cx : Context) (p : Part) : Warmly (enlist cx p) w := by
  cases p with
  | note a =>
      refine Warms.of_sources h ?_ w.met
      exact Collection.sources_modify fun _ => rfl
  | component ref =>
      unfold enlist attempt Warmly
      rw [ends_bind, ends_get]
      dsimp only
      cases hc : w.collection.enlist ref.id with
      | error e => exact .refl h
      | ok c => exact .of_sources h (Collection.sources_enlist hc) w.met
  | _ => exact .refl h

theorem topLevelChild_warms {build : Build} (hbuild : BuildsWarmly build) (h : w.Roomy)
    (cx : Context) (scope : Scope) (e : Xml.Element) :
    Warmly (topLevelChild env build cx scope e) w := by
  unfold topLevelChild
  split
  · exact .refl h
  · exact meet_warms h cx _
  · exact external_warms hbuild h scope _ e
  · split
    · exact .refl h
    · exact (onBench_warms h cx.schema _).bind fun p _ hw₁ => enlist_warms hw₁ cx p

theorem topLevelPass_warms {build : Build} (hbuild : BuildsWarmly build) (h : w.Roomy)
    (cx : Context) (scope : Scope) (elements : List Xml.Element) :
    Warmly (topLevelPass env build cx scope elements) w := by
  induction elements generalizing w with
  | nil => exact .refl h
  | cons e rest ih => exact (topLevelChild_warms hbuild h cx scope e).bind fun _ _ hw₁ => ih hw₁

/-- A schema begins with a document that the cache holds. -/
theorem opened_warms (env : Environment) (h : w.Roomy) {r : Request} {source : Source}
    (hheld : w.Holds r source) (parent : Option SchemaKey) (inherited : Option String) :
    w.Warms (opened env w source parent inherited) := by
  have hsources : (opened env w source parent inherited).collection.sources =
      w.collection.sources ++ [some source] := Collection.sources_push _ _
  have htickets : ticketsOf (opened env w source parent inherited).collection =
      ticketsOf w.collection ++ [source.ticket] := by
    unfold ticketsOf opened Collection.push
    rw [Array.toList_push, List.filterMap_append]
    rfl
  refine ⟨h, rfl, fun ticket halive => ?_, fun _ _ hs _ => hs,
    ⟨[], (List.append_nil _).symm, nofun⟩, fun s hs => ?_⟩
  · rw [Workspace.alive, Bool.or_eq_true, List.contains_iff_mem] at halive ⊢
    refine halive.imp_right fun hold => ?_
    rw [htickets, List.contains_iff_mem]
    exact List.mem_append_left _ (List.contains_iff_mem.1 hold)
  · rw [hsources] at hs
    rcases List.mem_append.1 hs with hold | hnew
    · exact .inl hold
    · cases List.mem_singleton.1 hnew
      exact .inr ⟨r, hheld⟩

theorem buildSource_warms (env : Environment) (fuel : Nat) :
    BuildsWarmly (buildSource env fuel) := by
  induction fuel with
  | zero => exact fun w r source parent inherited h _ => .refl h
  | succ fuel ih =>
      intro w r source parent inherited h hheld
      unfold Warmly Ends
      cases hroot : source.document.tag.is schemaNamespace "schema" with
      | false =>
          rw [exec_buildSource_of_not_schema env parent hroot]
          exact .refl h
      | true =>
          cases hnew : w.collection.schema? (keyOf source inherited) with
          | some s =>
              rw [exec_buildSource_of_registered env parent hroot (by rw [hnew]; rfl)]
              exact .refl h
          | none =>
              have hopened := opened_warms env h hheld parent inherited
              have hpass : Warmly (topLevelPass env (buildSource env fuel)
                  (Context.ofSchema
                    (rootSchema env.policy w.collection.schemas.size source parent inherited)
                    env.policy)
                  ((Scope.inherited (fallback w source parent inherited)).enter
                    source.document.tag.declared)
                  source.document.childElements) (opened env w source parent inherited) :=
                topLevelPass_warms ih hopened.roomy _ _ _
              rw [exec_buildSource env parent hroot hnew fuel]
              unfold Warmly Ends at hpass
              split at hpass
              · rename_i w₂ heq
                rw [heq]
                have hfinish : w₂.Warms { w₂ with
                    collection := w₂.collection.modify w.collection.schemas.size fun s =>
                      { s with progress := .complete } } := by
                  refine .of_sources hpass.roomy ?_ w₂.met
                  exact Collection.sources_modify fun _ => rfl
                exact (hopened.trans hpass).trans hfinish
              · rename_i e w₂ heq
                rw [heq]
                exact hopened.trans hpass

theorem readLocation_warms (h : w.Roomy) (location : String) (base : Option String) :
    Warmly (readLocation env location base) w :=
  resolveNested_warms (buildSource_warms env _) h _ none none

theorem Outcomes.mirrors {x y : Except SchemaError α × Workspace} (h : Outcomes env Eq x y) :
    x.1 = y.1 ∧ Mirrors env x.2 y.2 := by
  cases h with
  | ok hab h => exact ⟨congrArg Except.ok hab, h⟩
  | error e h => exact ⟨rfl, h⟩

/-- To read a location once more, into a new collection beside the first one and
with the cache that the first one has filled, comes to the same outcome and the
same schemas.  Every document that the first collection is built from is still
what the cache has for some request, and the resolver is asked for nothing but
what the composition requests without a cache and the cache does not answer. -/
theorem readLocation_warm (env : Environment) (location : String) (base : Option String) :
    let bare := exec (readLocation env location base) {}
    let first := exec (readLocation env location base) { cache := some {} }
    let second := exec (readLocation env location base)
      { cache := first.2.cache
        elsewhere := ticketsOf first.2.collection
        nextTicket := first.2.nextTicket }
    second.1 = first.1 ∧ second.2.collection.unticketed = first.2.collection.unticketed ∧
      (∀ s, some s ∈ first.2.collection.sources → ∃ r, first.2.Holds r s ∧
        env.resolver.answer r = .ok (some ⟨s.locator, s.document⟩)) ∧
      second.2.requests.Sublist (bare.2.requests.filter fun r => !first.2.answers r) := by
  intro bare first second
  let again : Workspace :=
    { cache := first.2.cache
      elsewhere := ticketsOf first.2.collection
      nextTicket := first.2.nextTicket }
  have hempty : Mirrors env { cache := some {} } {} := by
    refine ⟨rfl, rfl, rfl, ?_, List.Sublist.refl _⟩
    intro cache hcache
    cases hcache
    exact nofun
  obtain ⟨houtcome, hfirst⟩ := (readLocation_agree hempty location base).mirrors
  have hagain : Mirrors env again {} := ⟨rfl, rfl, rfl, hfirst.faithful, List.Sublist.refl _⟩
  obtain ⟨houtcome', hsecond⟩ := (readLocation_agree hagain location base).mirrors
  have hfilled : Workspace.Warms { cache := some {} } first.2 :=
    Ends.state (readLocation_warms ⟨{}, rfl, rfl⟩ location base)
  have hwarm : again.Warms second.2 :=
    Ends.state (readLocation_warms (w := again) hfilled.roomy location base)
  refine ⟨houtcome'.trans houtcome.symm, hsecond.collection.trans hfirst.collection.symm,
    fun s hs => ?_, ?_⟩
  · have hnone : (some s : Option Source) ∉ ({} : Collection).sources := by
      rw [show ({} : Collection).sources = [none] from rfl]
      simp
    obtain ⟨r, cache, hcache, hs⟩ := (hfilled.sources s hs).resolve_left hnone
    refine ⟨r, ⟨cache, hcache, hs⟩, hfirst.faithful cache hcache r s ?_⟩
    obtain ⟨before, after, hentries, -⟩ := List.lookup_eq_some_iff.1 hs
    exact hentries ▸ List.mem_append_right _ List.mem_cons_self
  · -- a document is in use at the second time for the first collection alone
    have halive : again.alive = first.2.alive := by
      funext ticket
      rw [Workspace.alive, Workspace.alive, hfilled.elsewhere]
      exact Bool.or_comm _ _
    obtain ⟨asked, hasked, hnew⟩ := hwarm.asked
    have hrequests : second.2.requests = asked := hasked
    have hfilter : asked.filter (fun r => !first.2.answers r) = asked := by
      refine List.filter_eq_self.2 fun r hr => ?_
      have hdead := hnew r hr
      rw [Workspace.answers, halive] at hdead
      rw [Workspace.answers, hdead]
      rfl
    rw [hrequests, ← hfilter]
    exact (hrequests ▸ hsecond.requests).filter _

/-- Where every document is referred to once, the second reading asks for
nothing.  A document that is included along two ways is asked for again, on the
way on which it was found to be there already. -/
example :
    let schema (content : String) := "<s:schema xmlns:s=\"http://www.w3.org/2001/XMLSchema\">" ++
      content ++ "</s:schema>"
    let included (place : String) := "<s:include schemaLocation=\"" ++ place ++ "\"/>"
    let again (documents : List (String × String)) :=
      let env : Environment := ⟨.ofDocuments documents, .keep⟩
      let first := exec (readLocation env "a" none) { cache := some {} }
      (exec (readLocation env "a" none)
        { cache := first.2.cache
          elsewhere := ticketsOf first.2.collection
          nextTicket := first.2.nextTicket }).2.requests
    let leaves := [("b", schema (included "d")), ("d", schema "")]
    again (("a", schema (included "b")) :: leaves) = [] ∧
      again (("a", schema (included "b" ++ included "d")) :: leaves) = [⟨"", "d", some "a"⟩] := by
  decide +kernel

end Compose

end XmlSchema
