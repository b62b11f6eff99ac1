import XmlSchema.Proofs.Resolution.Change

/-!
# How a composition proceeds

Building a document with all that it refers to is a run of changes that keep
to the plan, whether it succeeds or fails.  A failure is a fault of a document
or of the resolver; a composition that is cut off because documents are nested
too deeply has registered one schema for each level.
-/

namespace XmlSchema

open Attempt

namespace Reader

/-- A draft refers to another document in a given way. -/
def RefersTo (r : ExternalRef) (d : Draft) : Prop :=
  ∃ e, d = .external e ∧ e.kind = r.kind ∧ e.location = r.location ∧
    e.namespaceName = r.namespaceName

theorem RefersTo.mapCommon {r : ExternalRef} {d : Draft} (f : Common → Common)
    (h : RefersTo r d) : RefersTo r (d.mapCommon f) := by
  obtain ⟨e, rfl, h⟩ := h
  exact ⟨_, rfl, h⟩

theorem RefersTo.adopt {r : ExternalRef} {d : Draft} (p : Part) (h : RefersTo r d) :
    RefersTo r (d.adopt p) := by
  obtain ⟨e, rfl, h⟩ := h
  cases p <;> exact ⟨_, rfl, h⟩

/-- Reading on does not change where a reference to a document leads. -/
def referring (cx : Context) (r : ExternalRef) : Discipline cx where
  tag _ := True
  component _ _ _ := True
  opened role d := role = none → RefersTo r d
  draft _ role d := role = none → RefersTo r d
  part _ _ _ := True
  draft_of_opened h := h
  draft_extends _ h := h
  part_extends _ _ := trivial
  opening_draft _ _ := nofun
  opening_part _ _ := trivial
  foreign_attribute _ _ h _ hrole := (h hrole).mapCommon _
  foreign_element _ h _ hrole := (h hrole).mapCommon _
  adopt h _ _ hrole := (h hrole).adopt _
  close_component _ _ := trivial
  close_part _ := trivial

end Reader

namespace Collection

variable {c : Collection} {key : SchemaKey}

theorem schema?_eq_none_of_number? (h : c.number? key = none) : c.schema? key = none :=
  Option.map_eq_none_iff.1 h

theorem exists_of_number? (h : c.Numbered) {n : Nat} (hn : c.number? key = some n) :
    ∃ s, c.schemas[n]? = some s ∧ s.key = key := by
  obtain ⟨s, hs, rfl⟩ := Option.map_eq_some_iff.1 hn
  have hmem := List.mem_of_find?_eq_some hs
  obtain ⟨i, hi⟩ := Array.getElem?_of_mem (Array.mem_toList_iff.1 hmem)
  refine ⟨s, ?_, by simpa using List.find?_some hs⟩
  rw [h i s hi]
  exact hi

end Collection

namespace Compose

/-- What can go wrong while documents are composed; `deep` tells what is known
when they are nested too deeply. -/
inductive Fault (env : Environment) (deep : Prop) : SchemaError → Prop
  | notASchema (locator root : String) : Fault env deep (.notASchema locator root)
  | unboundPrefix (pfx token : String) (key : SchemaKey) :
      Fault env deep (.unboundPrefix pfx token key)
  | unnamed (kind : ComponentKind) (key : SchemaKey) :
      Fault env deep (.unnamedComponent kind key)
  | duplicate (kind : ComponentKind) (name : QName) (key : SchemaKey) :
      Fault env deep (.duplicateComponent kind name key)
  | answered (r : Request) (e : SchemaError) (h : env.resolver.answer r = .error e) :
      Fault env deep e
  | tooDeep (locator : String) (h : deep) :
      Fault env deep (.resolution locator .nestedTooDeep)

theorem Fault.mono {env : Environment} {deep deeper : Prop} {e : SchemaError}
    (h : deep → deeper) (he : Fault env deep e) : Fault env deeper e := by
  cases he with
  | notASchema locator root => exact .notASchema locator root
  | unboundPrefix pfx token key => exact .unboundPrefix pfx token key
  | unnamed kind key => exact .unnamed kind key
  | duplicate kind name key => exact .duplicate kind name key
  | answered r e hr => exact .answered r e hr
  | tooDeep locator hdeep => exact .tooDeep locator (h hdeep)

theorem enlist_fault {env : Environment} {deep : Prop} {c : Collection} {kind : ComponentKind}
    {id : ComponentId kind} {e : SchemaError} (h : c.enlist id = .error e) :
    Fault env deep e := by
  rcases bind_eq_error_iff.1 h with h | ⟨c', -, h⟩
  · unfold Collection.register at h
    split at h
    · cases h
    · split at h
      · cases h
        exact .unnamed _ _
      · split at h
        · cases h
          exact .duplicate _ _ _
        · cases h
  · cases h

/-- The workspace once a document has been registered and its root read. -/
def opened (env : Environment) (w : Workspace) (source : Source) (parent : Option SchemaKey)
    (inherited : Option String) : Workspace :=
  { w with
    collection := w.collection.push
      (rootSchema env.policy w.collection.schemas.size source parent inherited)
    met := w.met ++ Reader.foreignAttributes source.document.tag }

theorem exec_update (f : Collection → Collection) (w : Workspace) :
    exec (update f) w = (.ok ⟨⟩, { w with collection := f w.collection }) := rfl

theorem exec_meetAll {cx : Context} {w : Workspace} {c : Collection} {s : Schema}
    (hw : w.collection = c.push s) (hcx : cx.schema = c.schemas.size)
    (contents : List ForeignContent) :
    exec (meetAll cx contents) w =
      (.ok ⟨⟩, { w with
        collection := c.push { s with
          foreign := s.foreign ++ (match cx.policy with | .keep => contents | .drop => []) }
        met := w.met ++ contents }) := by
  induction contents generalizing w s with
  | nil =>
      have hforeign : s.foreign ++ (match cx.policy with | .keep => [] | .drop => []) =
          s.foreign := by
        cases cx.policy <;> exact List.append_nil _
      rw [hforeign, List.append_nil, ← hw]
      rfl
  | cons content rest ih =>
      have hmeet : exec (meet cx content) w =
          (.ok ⟨⟩, { w with
            collection := c.push { s with
              foreign := s.foreign ++ (match cx.policy with | .keep => [content] | .drop => []) }
            met := w.met ++ [content] }) := by
        unfold meet
        rw [exec_bind, exec_modify]
        cases hpolicy : cx.policy with
        | keep =>
            dsimp only
            rw [if_pos rfl, exec_update, hcx, hw, Collection.modify_push]
        | drop =>
            dsimp only
            rw [if_neg nofun, List.append_nil, ← hw]
            rfl
      unfold meetAll
      rw [exec_bind, hmeet]
      dsimp only
      rw [ih rfl]
      cases cx.policy <;> simp

/-- Ask the resolver.  What it finds is cached. -/
def ask (env : Environment) (r : Request) : Compose (Option Source) := do
  modify fun w => { w with requests := w.requests ++ [r] }
  match env.resolver.answer r with
  | .error e => throw e
  | .ok none => return none
  | .ok (some d) => do
      let s ← issue d
      modify fun w => { w with cache := w.cache.map fun c => c.insert r s }
      return some s

section Fetch

variable {env : Environment} {r : Request} {w : Workspace}
  {Q : Option Source → Workspace → Prop} {E : SchemaError → Workspace → Prop}

/-- Asking the resolver comes to what it answers. -/
theorem ask_ends
    (herror : ∀ e, env.resolver.answer r = .error e →
      E e { w with requests := w.requests ++ [r] })
    (hnone : env.resolver.answer r = .ok none → Q none { w with requests := w.requests ++ [r] })
    (hsome : ∀ d, env.resolver.answer r = .ok (some d) →
      Q (some ⟨d.locator, d.document, w.nextTicket⟩)
        { w with
          requests := w.requests ++ [r]
          nextTicket := w.nextTicket + 1
          cache := w.cache.map fun c => c.insert r ⟨d.locator, d.document, w.nextTicket⟩ }) :
    Ends (ask env r) w Q E := by
  unfold ask
  rw [ends_bind, ends_modify]
  cases hanswer : env.resolver.answer r with
  | error e => exact herror e hanswer
  | ok found =>
      cases found with
      | none => exact hnone hanswer
      | some d => exact hsome d hanswer

/-- A search for a document asks the resolver unless the cache answers. -/
theorem fetch_ends_of (hfresh : w.cache = none → Ends (ask env r) w Q E)
    (hmissed : ∀ cache, w.cache = some cache →
      Ends (ask env r) { w with cache := some (cache.get w.alive r).2 } Q E)
    (hfound : ∀ cache source, w.cache = some cache → (cache.get w.alive r).1 = some source →
      Q (some source) { w with cache := some (cache.get w.alive r).2 }) :
    Ends (fetch env r) w Q E := by
  unfold fetch
  rw [ends_bind, ends_get]
  dsimp only
  cases hcache : w.cache with
  | none => exact hfresh hcache
  | some cache =>
      dsimp only
      rw [ends_bind, ends_set, ends_bind, ends_pure]
      cases hget : (cache.get w.alive r).1 with
      | none => exact hmissed cache hcache
      | some source => exact hfound cache source hcache hget

end Fetch

/-- What prefixes that a document does not bind mean in it. -/
def fallback (w : Workspace) (source : Source) (parent : Option SchemaKey)
    (inherited : Option String) : Bindings :=
  ((parent.bind (w.collection.push
    { number := w.collection.schemas.size
      key := keyOf source inherited
      targetNamespace := declaredTarget? source.document }).schema?).map
        Schema.bindings).getD {}

section BuildSource

variable (env : Environment) {w : Workspace} {source : Source} (parent : Option SchemaKey)
  {inherited : Option String}

theorem exec_buildSource_of_not_schema
    (hroot : source.document.tag.is schemaNamespace "schema" = false) (fuel : Nat) :
    exec (buildSource env (fuel + 1) source parent inherited) w =
      (.error (.notASchema source.locator source.document.tag.name.lexical), w) := by
  unfold buildSource
  simp only [hroot, Bool.not_false, if_true]
  rfl

theorem exec_buildSource_of_registered
    (hroot : source.document.tag.is schemaNamespace "schema" = true)
    (hkey : (w.collection.schema? (keyOf source inherited)).isSome) (fuel : Nat) :
    exec (buildSource env (fuel + 1) source parent inherited) w =
      (.error (.duplicateSchema (keyOf source inherited)), w) := by
  have hadd : w.collection.addSchema (keyOf source inherited) (declaredTarget? source.document) =
      .error (.duplicateSchema (keyOf source inherited)) := if_pos hkey
  unfold buildSource
  simp only [hroot, Bool.not_true, Bool.false_eq_true, if_false, exec_bind, exec_get, hadd]
  rfl

/-- Building a new document is reading it after its root. -/
theorem exec_buildSource (hroot : source.document.tag.is schemaNamespace "schema" = true)
    (hnew : w.collection.schema? (keyOf source inherited) = none) (fuel : Nat) :
    exec (buildSource env (fuel + 1) source parent inherited) w =
      match exec (topLevelPass env (buildSource env fuel)
          (Context.ofSchema
            (rootSchema env.policy w.collection.schemas.size source parent inherited)
            env.policy)
          ((Scope.inherited (fallback w source parent inherited)).enter
            source.document.tag.declared)
          source.document.childElements) (opened env w source parent inherited) with
      | (.ok _, w') =>
          (.ok w.collection.schemas.size,
            { w' with
              collection := w'.collection.modify w.collection.schemas.size fun s =>
                { s with progress := .complete } })
      | (.error e, w') => (.error e, w') := by
  have hadd : w.collection.addSchema (keyOf source inherited) (declaredTarget? source.document) =
      .ok (w.collection.schemas.size, w.collection.push
        { number := w.collection.schemas.size
          key := keyOf source inherited
          targetNamespace := declaredTarget? source.document }) := by
    unfold Collection.addSchema
    rw [hnew]
    rfl
  unfold buildSource
  simp only [hroot, Bool.not_true, Bool.false_eq_true, if_false, exec_bind, exec_get, hadd,
    exec_update, Collection.modify_push]
  have hget : ∀ s, (w.collection.push s).schemas[w.collection.schemas.size]? = some s := by
    intro s
    rw [Collection.schemas_push, if_pos rfl]
  have hcx : Context.ofSchema (readRoot source parent
      { number := w.collection.schemas.size
        key := keyOf source inherited
        targetNamespace := declaredTarget? source.document }) env.policy =
    Context.ofSchema
      (rootSchema env.policy w.collection.schemas.size source parent inherited) env.policy := rfl
  have hmeet : exec (meetAll (Context.ofSchema
        (rootSchema env.policy w.collection.schemas.size source parent inherited) env.policy)
        (Reader.foreignAttributes source.document.tag))
      { w with collection := w.collection.push (readRoot source parent
        { number := w.collection.schemas.size
          key := keyOf source inherited
          targetNamespace := declaredTarget? source.document }) } =
    (.ok ⟨⟩, opened env w source parent inherited) := exec_meetAll rfl rfl _
  rw [hget]
  dsimp only
  rw [hcx, exec_bind, hmeet]
  dsimp only
  rw [exec_bind]
  unfold fallback
  split
  · rename_i hpass
    rw [hpass]
    rfl
  · rename_i hpass
    rw [hpass]

end BuildSource

namespace Plan

variable {env : Environment} (P : Plan env)

/-- A workspace from which a composition can go on. -/
structure Ready (w : Workspace) : Prop where
  numbered : w.collection.Numbered
  cache : P.cacheless → w.cache = none
  first_le : P.first ≤ w.collection.schemas.size

/-- What a composition has done. -/
structure Walked (w w' : Workspace) : Prop where
  run : P.Run w.collection w'.collection
  cache : P.cacheless → w'.cache = none

/-- What a composition has done when it fails. -/
def Broken (w : Workspace) (fuel : Nat) (e : SchemaError) (w' : Workspace) : Prop :=
  P.Walked w w' ∧
    Fault env (w.collection.schemas.size + fuel ≤ w'.collection.schemas.size) e

/-- What the building of a document comes to. -/
def Builds (fuel : Nat) (build : Build) : Prop :=
  ∀ w source parent inherited, P.Ready w → P.admits w.collection.schemas.size source →
    P.key (keyOf source inherited) → w.collection.schema? (keyOf source inherited) = none →
    Ends (build source parent inherited) w
      (fun n w' => P.Walked w w' ∧
        ∃ s, w'.collection.schemas[n]? = some s ∧ s.key = keyOf source inherited)
      (P.Broken w fuel)

variable {P} {w w' w'' : Workspace} {fuel : Nat} {cx : Context}

theorem Walked.refl (h : P.Ready w) : P.Walked w w := ⟨.refl, h.cache⟩

theorem Walked.trans (h : P.Walked w w') (h' : P.Walked w' w'') : P.Walked w w'' :=
  ⟨h.run.trans h'.run, h'.cache⟩

theorem Ready.walked (h : P.Ready w) (h' : P.Walked w w') : P.Ready w' where
  numbered := h'.run.numbered h.numbered
  cache := h'.cache
  first_le := Nat.le_trans h.first_le h'.run.grows.size_le

theorem Walked.places (h : P.Walked w w') (hcx : w.collection.Places env.policy cx) :
    w'.collection.Places env.policy cx :=
  h.run.grows.places hcx

theorem Broken.after {e : SchemaError} (h : P.Walked w w') (h' : P.Broken w' fuel e w'') :
    P.Broken w fuel e w'' := by
  refine ⟨h.trans h'.1, h'.2.mono fun hdeep => ?_⟩
  have := h.run.grows.size_le
  omega

/-- One change of the collection. -/
theorem Walked.change {c : Collection} (h : P.Ready w) (hc : P.Change w.collection c) :
    P.Walked w { w with collection := c } :=
  ⟨.single hc, h.cache⟩

/-- What the search for a document leaves behind. -/
def Fetched (w : Workspace) (r : Request) (found : Option Source) (w' : Workspace) : Prop :=
  P.Walked w w' ∧
    match found with
    | some source => env.Offers P.cacheless r source
    | none => P.cacheless → env.resolver.answer r = .ok none

theorem fetch_ends (h : P.Ready w) (r : Request) :
    Ends (fetch env r) w (P.Fetched w r) (P.Broken w fuel) := by
  have hask : ∀ w₁, P.Walked w w₁ → Ends (ask env r) w₁ (P.Fetched w r) (P.Broken w fuel) := by
    intro w₁ hw₁
    refine ask_ends ?_ ?_ ?_
    · exact fun e hanswer => ⟨⟨hw₁.run, hw₁.cache⟩, .answered r e hanswer⟩
    · exact fun hanswer => ⟨⟨hw₁.run, hw₁.cache⟩, fun _ => hanswer⟩
    · intro d hanswer
      refine ⟨⟨hw₁.run, fun hless => ?_⟩, fun _ => hanswer⟩
      show w₁.cache.map _ = none
      rw [hw₁.cache hless]
      rfl
  have hcached : ∀ {cache}, w.cache = some cache → ¬ P.cacheless := by
    intro cache hcache hless
    rw [h.cache hless] at hcache
    cases hcache
  refine fetch_ends_of ?_ ?_ ?_
  · exact fun _ => hask w (.refl h)
  · exact fun cache hcache => hask _ ⟨.refl, fun hless => (hcached hcache hless).elim⟩
  · exact fun cache source hcache _ =>
      ⟨⟨.refl, fun hless => (hcached hcache hless).elim⟩, fun hless => (hcached hcache hless).elim⟩

theorem resolveNested_ends {build : Build} (h : P.Ready w) (hbuild : P.Builds fuel build)
    (r : Request) (parent : Option SchemaKey) {inherited : Option String}
    (hinherited : ∀ ns, inherited = some ns → ∃ k, P.key k ∧ k.namespaceName = ns) :
    Ends (resolveNested env build r parent inherited) w
      (fun found w' => P.Walked w w' ∧
        env.LeadsTo P.cacheless w'.collection r inherited found)
      (P.Broken w fuel) := by
  unfold resolveNested
  refine Ends.bind (fetch_ends h r) ?_
  rintro found w₁ ⟨hw₁, hfound⟩
  cases found with
  | none =>
      refine ⟨hw₁, fun hless d hd => ?_⟩
      rw [hfound hless] at hd
      cases hd
  | some source =>
      have hleads : ∀ (n : Nat) (c : Collection),
          (∃ s, c.schemas[n]? = some s ∧ s.key = keyOf source inherited) →
          env.LeadsTo P.cacheless c r inherited (some n) := by
        rintro n c ⟨s, hs, hkey⟩ hless d hd
        rw [hfound hless] at hd
        cases hd
        exact ⟨n, s, rfl, hs, hkey⟩
      have hready := h.walked hw₁
      dsimp only
      rw [ends_bind, ends_get]
      cases hn : w₁.collection.number? (keyOf source inherited) with
      | some n => exact ⟨hw₁, hleads n _ (Collection.exists_of_number? hready.numbered hn)⟩
      | none =>
          dsimp only
          refine Ends.bind ((hbuild w₁ source parent inherited hready
            (P.admits_of_offers hready.first_le hfound)
            (P.key_of_offers hfound hinherited)
            (Collection.schema?_eq_none_of_number? hn)).mono (fun _ _ h => h)
            fun _ _ h => .after hw₁ h) ?_
          rintro n w₂ ⟨hw₂, hs⟩
          exact ⟨hw₁.trans hw₂, hleads n _ hs⟩

theorem exec_onBench {α : Type} (n : Nat) (reader : Attempt Workbench α) (w : Workspace) :
    exec (onBench n reader) w =
      ((exec reader { components := w.collection.components n }).1,
        { w with
          collection := w.collection.absorb n
            (exec reader { components := w.collection.components n }).2
          met := w.met ++ (exec reader { components := w.collection.components n }).2.met }) := by
  unfold onBench
  rw [exec_bind, exec_get]
  have hrun : reader.run.run
      { components := ((w.collection.schemas[n]?).map Schema.components).getD {} } =
      exec reader { components := w.collection.components n } := rfl
  dsimp only
  rw [hrun]
  rcases exec reader { components := w.collection.components n } with ⟨e | a, bench⟩ <;> rfl

/-- Reading into a schema is one change of the collection. -/
theorem onBench_ends {α : Type} {reader : Attempt Workbench α} {Q : Components → α → Prop}
    (h : P.Ready w) (hcx : w.collection.Places env.policy cx)
    (hreader : Ends reader { components := w.collection.components cx.schema }
      (fun a b => Workbench.Run cx.schema (P.reading cx).component
        { components := w.collection.components cx.schema } b ∧ Q b.components a)
      ((P.reading cx).Fails { components := w.collection.components cx.schema }))
    (hQ : ∀ {cs later a}, Components.Extends cs later → Q cs a → Q later a) :
    Ends (onBench cx.schema reader) w
      (fun a w' => P.Walked w w' ∧ Q (w'.collection.components cx.schema) a)
      (P.Broken w fuel) := by
  unfold Ends at hreader ⊢
  rw [exec_onBench]
  rcases hexec : exec reader { components := w.collection.components cx.schema } with ⟨e | a, bench⟩
  all_goals rw [hexec] at hreader
  · obtain ⟨hrun, pfx, token, rfl⟩ := hreader
    exact ⟨⟨.single (.absorb _ cx bench hcx hrun), h.cache⟩, .unboundPrefix pfx token cx.key⟩
  · obtain ⟨hrun, ha⟩ := hreader
    exact ⟨⟨.single (.absorb _ cx bench hcx hrun), h.cache⟩,
      hQ (Collection.extends_absorb hcx.lt_size bench) ha⟩

/-- What reading a reference to another document guarantees. -/
def citing (P : Plan env) (cx : Context) (r : ExternalRef) : Reader.Discipline cx :=
  (P.reading cx).and (Reader.referring cx r)

theorem citing_run {r : ExternalRef} {b b' : Workbench}
    (h : Workbench.Run cx.schema (P.citing cx r).component b b') :
    Workbench.Run cx.schema (P.reading cx).component b b' :=
  h.mono fun _ _ _ hx => hx.1

theorem listExternal_ends (h : P.Ready w) (hcx : w.collection.Places env.policy cx)
    {scope : Scope} {kind : ExternalKind} {e : Xml.Element}
    (hkids : Xml.Node.EveryIn (P.citing cx (reference kind e.tag)).tag e.children)
    {d : Draft} (hd : (P.citing cx (reference kind e.tag)).draft
      (w.collection.components cx.schema) none d)
    (target : Collection → Option Nat)
    (hleads : ∀ location, locationOf? e.tag = some location →
      env.LeadsTo P.cacheless w.collection ((reference kind e.tag).requestIn cx.key location)
        ((reference kind e.tag).inheritedIn cx.key) (target w.collection)) :
    Ends (listExternal cx scope d e.children target) w (fun _ w' => P.Walked w w')
      (P.Broken w fuel) := by
  unfold listExternal
  rw [ends_bind, ends_get]
  refine Ends.bind (onBench_ends (Q := fun cs d =>
    (P.citing cx (reference kind e.tag)).draft cs none d) h hcx ?_
    (P.citing cx (reference kind e.tag)).draft_extends) ?_
  · refine ((P.citing cx (reference kind e.tag)).children_ends hkids hd).mono ?_ ?_
    · rintro d b ⟨hrun, hd⟩
      exact ⟨citing_run hrun, hd⟩
    · rintro e b ⟨hrun, he⟩
      exact ⟨citing_run hrun, he⟩
  rintro draft w₁ ⟨hw₁, hdraft⟩
  obtain ⟨r, rfl, hkind, hlocation, hspace⟩ := hdraft.2 rfl
  refine hw₁.trans (.change (h.walked hw₁) (.external _ cx r _ (hw₁.places hcx) hdraft.1 ?_))
  intro location hloc hless d' hd'
  have hreq : { r with target := target w.collection }.requestIn cx.key location =
      (reference kind e.tag).requestIn cx.key location := by
    simp only [ExternalRef.requestIn, hkind, hspace]
  have hinherited : { r with target := target w.collection }.inheritedIn cx.key =
      (reference kind e.tag).inheritedIn cx.key := by
    simp only [ExternalRef.inheritedIn, hkind]
  rw [hreq] at hd'
  obtain ⟨n, s, htarget, hs, hkey⟩ := hleads location (hlocation.symm.trans hloc) hless d' hd'
  obtain ⟨s', hs', hgrows⟩ := hw₁.run.grows n s hs
  exact ⟨n, s', htarget, hs', by rw [hgrows.key_eq, hkey, hinherited]⟩

theorem seek_ends {build : Build} (h : P.Ready w) (hbuild : P.Builds fuel build)
    (hkey : P.key cx.key) (e : ExternalRef) :
    Ends (seek env build cx e) w (fun found w' => P.Walked w w' ∧
        ∀ location, e.location = some location → env.LeadsTo P.cacheless w'.collection
          (e.requestIn cx.key location) (e.inheritedIn cx.key) found)
      (P.Broken w fuel) := by
  unfold seek
  split
  · rename_i hlocation
    rw [hlocation]
    exact ⟨.refl h, nofun⟩
  · rename_i l hlocation
    refine (resolveNested_ends h hbuild (e.requestIn cx.key l) (some cx.key) ?_).mono ?_
      fun _ _ h => h
    · intro ns hns
      refine ⟨cx.key, hkey, ?_⟩
      unfold ExternalRef.inheritedIn at hns
      split at hns
      · cases hns
      · exact Option.some.inj hns
    · rintro found w₁ ⟨hw₁, hleads⟩
      refine ⟨hw₁, fun location hloc => ?_⟩
      cases hlocation.symm.trans hloc
      exact hleads

theorem external_ends {build : Build} (h : P.Ready w) (hbuild : P.Builds fuel build)
    (hcx : w.collection.Places env.policy cx) (hkey : P.key cx.key) {scope : Scope}
    {kind : ExternalKind} {e : Xml.Element} (htag : (P.reading cx).tag e.tag)
    (hkids : Xml.Node.EveryIn (P.reading cx).tag e.children) :
    Ends (external env build cx scope kind e) w (fun _ w' => P.Walked w w')
      (P.Broken w fuel) := by
  have hopened : (P.citing cx (reference kind e.tag)).opened none
      (.external (reference kind e.tag)) :=
    ⟨P.opened_reference kind htag, fun _ => ⟨_, rfl, rfl, rfl, rfl⟩⟩
  have hkids' : Xml.Node.EveryIn (P.citing cx (reference kind e.tag)).tag e.children :=
    hkids.mono fun _ ht => ⟨ht, trivial⟩
  rw [external_eq]
  refine Ends.bind (onBench_ends (Q := fun cs d =>
    (P.citing cx (reference kind e.tag)).draft cs none d) h hcx ?_
    (P.citing cx (reference kind e.tag)).draft_extends) ?_
  · refine ((P.citing cx (reference kind e.tag)).meetAll_ends hopened
      (fun _ hc _ => (P.citing cx (reference kind e.tag)).foreign_attribute ⟨htag, trivial⟩ hc)
      rfl).mono ?_ fun _ _ h => h.elim
    rintro d b ⟨-, hd, hrun⟩
    exact ⟨citing_run hrun, (P.citing cx _).draft_of_opened hd⟩
  rintro draft w₁ ⟨hw₁, hdraft₁⟩
  have hready₁ := h.walked hw₁
  have hcx₁ := hw₁.places hcx
  refine Ends.bind ((seek_ends hready₁ hbuild hkey (reference kind e.tag)).mono (fun _ _ h => h)
    fun _ _ h => .after hw₁ h) ?_
  rintro found w₂ ⟨hw₂, hleads⟩
  have hw := hw₁.trans hw₂
  refine (listExternal_ends (hready₁.walked hw₂) (hw₂.places hcx₁) hkids'
    ((P.citing cx _).draft_extends (hw₂.run.grows.components cx.schema) hdraft₁) _ ?_).mono
      (fun _ _ h => hw.trans h) fun _ _ h => .after hw h
  intro location hloc hless d hd
  obtain ⟨n, s, rfl, hs⟩ := hleads location hloc hless d hd
  exact ⟨n, s, rfl, hs⟩

theorem meet_ends (h : P.Ready w) {t : Xml.Tag}
    (ht : ChildClass.of t.name = .foreign) (kids : List Xml.Node) :
    Ends (meet cx (Reader.foreignElement t kids)) w (fun _ w' => P.Walked w w')
      (P.Broken w fuel) := by
  unfold meet
  rw [ends_bind, ends_modify]
  split
  · exact ⟨.single (.meet _ cx.schema t kids ht), h.cache⟩
  · exact ⟨.refl, h.cache⟩

theorem enlist_ends (h : P.Ready w) (hcx : w.collection.Places env.policy cx)
    {construct : Construct} {role : Role} (hrole : Role.ofTopLevel? construct = some role)
    {p : Part} (hp : (P.reading cx).part (w.collection.components cx.schema) role p) :
    Ends (enlist cx p) w (fun _ w' => P.Walked w w') (P.Broken w fuel) := by
  cases p with
  | note a => exact .change h (.note _ cx construct role a hcx hrole hp)
  | component ref =>
      unfold enlist attempt
      rw [ends_bind, ends_get]
      dsimp only
      cases hc : w.collection.enlist ref.id with
      | error e => exact ⟨.refl h, enlist_fault hc⟩
      | ok c => exact .change h (.enlist _ c cx construct role ref hcx hrole hp hc)
  | _ => exact .refl h

theorem topLevelChild_ends {build : Build} (h : P.Ready w) (hbuild : P.Builds fuel build)
    (hcx : w.collection.Places env.policy cx) (hkey : P.key cx.key) {scope : Scope}
    {e : Xml.Element} (he : (Xml.Node.ofElement e).Every (P.reading cx).tag) :
    Ends (topLevelChild env build cx scope e) w (fun _ w' => P.Walked w w')
      (P.Broken w fuel) := by
  unfold topLevelChild
  unfold Xml.Node.ofElement Xml.Node.Every at he
  split
  · exact .refl h
  · rename_i hc
    exact meet_ends h hc e.children
  · rename_i kind hc
    rw [hc] at he
    exact external_ends h hbuild hcx hkey he.1 he.2
  · rename_i construct _ hc
    rw [hc] at he
    split
    · exact .refl h
    · rename_i role hrole
      have he : (P.reading cx).tag e.tag ∧ Xml.Node.EveryIn (P.reading cx).tag e.children := by
        cases construct <;> first | exact he | cases hrole
      refine Ends.bind (onBench_ends (Q := fun cs p => (P.reading cx).part cs role p) h hcx
        ((P.reading cx).construct_ends he.1 he.2) (P.reading cx).part_extends) ?_
      rintro p w₁ ⟨hw₁, hp⟩
      exact (enlist_ends (h.walked hw₁) (hw₁.places hcx) hrole hp).mono
        (fun _ _ h => hw₁.trans h) fun _ _ h => .after hw₁ h

theorem topLevelPass_ends {build : Build} (hbuild : P.Builds fuel build) (hkey : P.key cx.key)
    {elements : List Xml.Element} (h : P.Ready w) (hcx : w.collection.Places env.policy cx)
    (he : ∀ e ∈ elements, (Xml.Node.ofElement e).Every (P.reading cx).tag) (scope : Scope) :
    Ends (topLevelPass env build cx scope elements) w (fun _ w' => P.Walked w w')
      (P.Broken w fuel) := by
  induction elements generalizing w with
  | nil => exact .refl h
  | cons e rest ih =>
      refine Ends.bind (topLevelChild_ends h hbuild hcx hkey (he e List.mem_cons_self)) ?_
      rintro _ w₁ hw₁
      exact (ih (h.walked hw₁) (hw₁.places hcx) fun e he' => he e (List.mem_cons_of_mem _ he')).mono
        (fun _ _ h => hw₁.trans h) fun _ _ h => .after hw₁ h

/-- The root of a document can be read into a new schema. -/
theorem every_childElements {Q : Xml.Tag → Prop} {e : Xml.Element}
    (h : Xml.Node.EveryIn Q e.children) :
    ∀ child ∈ e.childElements, (Xml.Node.ofElement child).Every Q := by
  intro child hchild
  obtain ⟨node, hnode, hsome⟩ := List.mem_filterMap.1 hchild
  have hevery := h.of_mem hnode
  cases node with
  | element tag kids =>
      cases hsome
      exact hevery
  | _ => cases hsome

theorem schemas_opened (env : Environment) (w : Workspace) (source : Source)
    (parent : Option SchemaKey) (inherited : Option String) :
    (opened env w source parent inherited).collection.schemas[w.collection.schemas.size]? =
      some (rootSchema env.policy w.collection.schemas.size source parent inherited) := by
  rw [opened, Collection.schemas_push, if_pos rfl]

theorem buildSource_ends (fuel : Nat) : P.Builds fuel (buildSource env fuel) := by
  induction fuel with
  | zero =>
      intro w source parent inherited h _ _ _
      exact ⟨.refl h, .tooDeep _ (Nat.le_refl _)⟩
  | succ fuel ih =>
      intro w source parent inherited h hadmits hkey hnew
      cases hroot : source.document.tag.is schemaNamespace "schema" with
      | false =>
          unfold Ends
          rw [exec_buildSource_of_not_schema env parent hroot]
          exact ⟨.refl h, .notASchema _ _⟩
      | true =>
          have hexec := exec_buildSource env parent hroot hnew fuel
          have hw₁ : P.Walked w (opened env w source parent inherited) :=
            ⟨.single (.begin _ source parent inherited hnew hkey), h.cache⟩
          have hs := schemas_opened env w source parent inherited
          have hkids := every_childElements
            (P.tag_of_admits hadmits (show (Context.ofSchema (rootSchema env.policy
              w.collection.schemas.size source parent inherited) env.policy).schema = _ from rfl)).2
          have hpass := topLevelPass_ends ih hkey (h.walked hw₁) ⟨_, hs, rfl⟩ hkids
            ((Scope.inherited (fallback w source parent inherited)).enter
              source.document.tag.declared)
          unfold Ends at hpass ⊢
          rw [hexec]
          split at hpass
          · rename_i w₂ heq
            rw [heq]
            have hw : P.Walked w w₂ := hw₁.trans hpass
            have hfinish : P.Change w₂.collection _ := .finish _ w.collection.schemas.size
            obtain ⟨s, hs', hgrows⟩ := Run.grows (hpass.run.tail hfinish) _ _ hs
            exact ⟨hw.trans (.change (h.walked hw) hfinish), s, hs', hgrows.key_eq⟩
          · rename_i e w₂ heq
            rw [heq]
            refine ⟨hw₁.trans hpass.1, hpass.2.mono fun hdeep => ?_⟩
            have hsize : (opened env w source parent inherited).collection.schemas.size =
                w.collection.schemas.size + 1 := Array.size_push _
            omega

end Plan

end Compose

end XmlSchema
