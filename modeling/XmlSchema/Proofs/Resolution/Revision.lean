import XmlSchema.Proofs.Collection.Sources
import XmlSchema.Proofs.Resolution.Walk

/-!
# Composing with revised documents

Documents are revised when each of them is exchanged for another one with the
same root.  When the children of the roots are read alike, a composition with
the revised documents does the same, step by step, as one with the documents as
they were: it is asked for the same, fails with the same errors and leaves the
same behind, except for the documents that are kept.
-/

namespace XmlSchema

open Attempt

section Revised

variable (f : Xml.Element → Xml.Element)

/-- A located document, revised. -/
def Located.revised (d : Located) : Located := { d with document := f d.document }

/-- The document of a schema, revised. -/
def Source.revised (s : Source) : Source := { s with document := f s.document }

/-- A resolver that finds revised documents. -/
def Resolver.revised (resolver : Resolver) : Resolver :=
  { resolver with answer := fun r => (resolver.answer r).map (Option.map (Located.revised f)) }

/-- The surroundings of a composition with revised documents. -/
def Environment.revised (env : Environment) : Environment :=
  { env with resolver := env.resolver.revised f }

/-- A cache of revised documents. -/
def ResolutionCache.revised (c : ResolutionCache) : ResolutionCache :=
  { c with entries := c.entries.map fun e => (e.1, e.2.revised f) }

/-- A workspace whose documents are revised; nothing else is different. -/
def Workspace.revised (w : Workspace) : Workspace :=
  { w with
    collection := w.collection.mapSources (Source.revised f)
    cache := w.cache.map (ResolutionCache.revised f) }

namespace ResolutionCache

variable (c : ResolutionCache)

theorem lookup?_revised (r : Request) :
    (c.revised f).lookup? r = (c.lookup? r).map (Source.revised f) := by
  unfold lookup? revised
  induction c.entries with
  | nil => rfl
  | cons e rest ih =>
      rw [List.map_cons, List.lookup_cons, List.lookup_cons]
      split
      · rfl
      · exact ih

theorem removeAll_revised (gone : List Request) :
    (c.revised f).removeAll gone = (c.removeAll gone).revised f := by
  unfold removeAll revised
  rw [List.filter_map]
  rfl

theorem evict_revised : (c.revised f).evict = c.evict.revised f := by
  unfold evict
  cases hevictions : c.evictions with
  | nil =>
      rw [show (c.revised f).evictions = [] from hevictions]
  | cons gone later =>
      rw [show (c.revised f).evictions = gone :: later from hevictions]
      dsimp only
      rw [removeAll_revised]
      rfl

theorem get_revised (alive : Nat → Bool) (r : Request) :
    (c.revised f).get alive r =
      ((c.get alive r).1.map (Source.revised f), (c.get alive r).2.revised f) := by
  unfold get
  rw [evict_revised]
  dsimp only
  rw [lookup?_revised]
  cases c.evict.lookup? r with
  | none => rfl
  | some s =>
      dsimp only [Option.map_some]
      rw [show (s.revised f).ticket = s.ticket from rfl]
      split
      · rfl
      · rw [remove, removeAll_revised]
        rfl

theorem insert_revised (r : Request) (s : Source) :
    (c.revised f).insert r (s.revised f) = (c.insert r s).revised f := by
  unfold insert
  rw [remove, removeAll_revised]
  rfl

end ResolutionCache

theorem Workspace.alive_revised (w : Workspace) : (w.revised f).alive = w.alive := by
  have htickets : ticketsOf (w.revised f).collection = ticketsOf w.collection := by
    -- an entry lives as long as a schema has its ticket, and a ticket is not revised
    have hticket : ∀ s : Schema,
        (s.mapSource (Source.revised f)).source.map Source.ticket = s.source.map Source.ticket :=
      fun s => Option.map_map _ _ _
    unfold ticketsOf revised
    rw [Collection.toList_mapSources, List.filterMap_map]
    exact congrArg (List.filterMap · _) (funext hticket)
  unfold alive
  rw [htickets]
  rfl

/-- There is nothing to revise before anything has been read. -/
theorem Workspace.revised_fresh : ({} : Workspace).revised f = {} := by
  have hschemas : #[Catalogue.schema].map (Schema.mapSource (Source.revised f)) =
      #[Catalogue.schema] := by
    rw [List.map_toArray, List.map_singleton,
      Schema.mapSource_of_sourceless (Source.revised f) rfl]
  exact congrArg (fun schemas => ({ collection := { schemas } } : Workspace)) hschemas

end Revised

namespace Compose

variable {f : Xml.Element → Xml.Element} {α β γ δ : Type}

/-- A step that does with revised documents what another one does with the
documents as they were. -/
def Revises (f : Xml.Element → Xml.Element) (g : α → β) (m : Compose α) (m' : Compose β) : Prop :=
  ∀ w : Workspace, exec m' (w.revised f) = ((exec m w).1.map g, (exec m w).2.revised f)

namespace Revises

theorem of_pure {g : α → β} {a : α} {b : β} (h : g a = b) : Revises f g (pure a) (pure b) := by
  subst h
  exact fun _ => rfl

theorem of_throw {g : α → β} (e : SchemaError) :
    Revises f g (throw e : Compose α) (throw e : Compose β) := fun _ => rfl

theorem of_get : Revises f (Workspace.revised f) get get := fun _ => rfl

theorem of_modify {F F' : Workspace → Workspace}
    (h : ∀ w, F' (w.revised f) = (F w).revised f) : Revises f id (modify F) (modify F') := by
  intro w
  rw [exec_modify, exec_modify, h]
  rfl

theorem of_set (w : Workspace) : Revises f id (set w) (set (w.revised f)) := fun _ => rfl

theorem of_update {F : Collection → Collection}
    (h : ∀ c, (F c).mapSources (Source.revised f) = F (c.mapSources (Source.revised f))) :
    Revises f id (update F) (update F) :=
  of_modify fun w => congrArg (fun collection => { w.revised f with collection })
    (h w.collection).symm

theorem bind {g : α → β} {g' : γ → δ} {m : Compose α} {m' : Compose β} {k : α → Compose γ}
    {k' : β → Compose δ} (h : Revises f g m m') (hk : ∀ a, Revises f g' (k a) (k' (g a))) :
    Revises f g' (m >>= k) (m' >>= k') := by
  intro w
  rw [exec_bind, exec_bind, h w]
  rcases exec m w with ⟨e | a, t⟩
  · rfl
  · exact hk a t

end Revises

/-- Exchanging each document for one with the same root whose children are read
alike. -/
structure Harmless (f : Xml.Element → Xml.Element) : Prop where
  tag_eq : ∀ document, (f document).tag = document.tag
  exec_pass : ∀ env build cx scope document w,
    exec (topLevelPass env build cx scope (f document).childElements) w =
      exec (topLevelPass env build cx scope document.childElements) w

/-- Revised documents are built like the documents as they were. -/
def BuildsRevised (f : Xml.Element → Xml.Element) (build build' : Build) : Prop :=
  ∀ source parent inherited,
    Revises f id (build source parent inherited) (build' (source.revised f) parent inherited)

variable {env : Environment} {build build' : Build} {cx : Context}

theorem keyOf_revised (hf : Harmless f) (source : Source) (inherited : Option String) :
    keyOf (source.revised f) inherited = keyOf source inherited := by
  unfold keyOf declaredTarget? Xml.Element.attribute?
  rw [show (source.revised f).document.tag = source.document.tag from hf.tag_eq _]
  rfl

theorem issue_revises (d : Located) :
    Revises f (Source.revised f) (issue d) (issue (d.revised f)) := fun _ => rfl

theorem ask_revises (r : Request) :
    Revises f (Option.map (Source.revised f)) (ask env r) (ask (env.revised f) r) := by
  unfold ask
  refine .bind (.of_modify fun _ => rfl) fun _ => ?_
  rw [show (env.revised f).resolver.answer r =
    (env.resolver.answer r).map (Option.map (Located.revised f)) from rfl]
  rcases env.resolver.answer r with e | (- | d)
  · exact .of_throw e
  · exact .of_pure rfl
  · refine .bind (issue_revises d) fun s => .bind (.of_modify fun w => ?_) fun _ => .of_pure rfl
    unfold Workspace.revised
    dsimp only
    rw [Option.map_map, Option.map_map]
    refine congrArg (fun cache => ({ w with cache, collection := _ } : Workspace)) ?_
    exact congrArg (Option.map · w.cache) (funext fun c => c.insert_revised f r s)

theorem fetch_revises (r : Request) :
    Revises f (Option.map (Source.revised f)) (fetch env r) (fetch (env.revised f) r) := by
  unfold fetch
  refine .bind .of_get fun w => ?_
  have hcache : (w.revised f).cache = w.cache.map (ResolutionCache.revised f) := rfl
  rw [hcache, w.alive_revised]
  cases w.cache with
  | none => exact ask_revises r
  | some cache =>
      dsimp only [Option.map_some]
      rw [cache.get_revised]
      refine .bind (.of_set { w with cache := some (cache.get w.alive r).2 }) fun _ => ?_
      dsimp only
      cases (cache.get w.alive r).1 with
      | none => exact ask_revises r
      | some s => exact .of_pure rfl

theorem resolveNested_revises (hf : Harmless f) (hbuild : BuildsRevised f build build')
    (r : Request) (parent : Option SchemaKey) (inherited : Option String) :
    Revises f id (resolveNested env build r parent inherited)
      (resolveNested (env.revised f) build' r parent inherited) := by
  unfold resolveNested
  refine .bind (fetch_revises r) fun found => ?_
  cases found with
  | none => exact .of_pure rfl
  | some source =>
      refine .bind .of_get fun w => ?_
      rw [keyOf_revised hf, show (w.revised f).collection.number? (keyOf source inherited) =
        w.collection.number? (keyOf source inherited) from w.collection.number?_mapSources _ _]
      cases w.collection.number? (keyOf source inherited) with
      | some number => exact .of_pure rfl
      | none => exact .bind (hbuild source parent inherited) fun number => .of_pure rfl

theorem onBench_revises (number : Nat) (reader : Attempt Workbench α) :
    Revises f id (onBench number reader) (onBench number reader) := by
  intro w
  rw [Plan.exec_onBench, Plan.exec_onBench,
    show (w.revised f).collection.components number = w.collection.components number from
      w.collection.components_mapSources _ _]
  rcases exec reader { components := w.collection.components number } with ⟨e | a, bench⟩ <;>
    exact congrArg (fun collection => (_, ({ w.revised f with
      collection, met := w.met ++ bench.met } : Workspace)))
      (w.collection.mapSources_absorb _ number bench).symm

theorem meet_revises (content : ForeignContent) :
    Revises f id (meet cx content) (meet cx content) := by
  unfold meet
  refine .bind (.of_modify fun _ => rfl) fun _ => ?_
  split
  · exact .of_update fun c => c.mapSources_modify _ _ fun _ => rfl
  · exact .of_pure rfl

theorem enlist_revises (p : Part) : Revises f id (enlist cx p) (enlist cx p) := by
  cases p with
  | note a => exact .of_update fun c => c.mapSources_addItem _ _ _
  | component ref =>
      refine .bind .of_get fun w => ?_
      dsimp only
      rw [show (w.revised f).collection.enlist ref.id =
        (w.collection.enlist ref.id).map (Collection.mapSources (Source.revised f)) from
          w.collection.mapSources_enlist _ _]
      cases w.collection.enlist ref.id with
      | error e => exact .of_throw e
      | ok c => exact fun _ => rfl
  | _ => exact .of_pure rfl

theorem external_revises (hf : Harmless f) (hbuild : BuildsRevised f build build') (scope : Scope)
    (kind : ExternalKind) (e : Xml.Element) :
    Revises f id (external env build cx scope kind e)
      (external (env.revised f) build' cx scope kind e) := by
  rw [external_eq, external_eq]
  refine .bind (onBench_revises _ _) fun d => ?_
  refine Revises.bind (g := id) ?_ fun found => ?_
  · unfold seek
    split
    · exact .of_pure rfl
    · exact resolveNested_revises hf hbuild _ _ _
  · unfold listExternal
    refine .bind .of_get fun w => .bind (onBench_revises _ _) fun d' => ?_
    dsimp only [id]
    split
    · exact .of_update fun c => c.mapSources_addItem _ _ _
    · exact .of_pure rfl

theorem topLevelChild_revises (hf : Harmless f) (hbuild : BuildsRevised f build build')
    (scope : Scope) (e : Xml.Element) :
    Revises f id (topLevelChild env build cx scope e)
      (topLevelChild (env.revised f) build' cx scope e) := by
  unfold topLevelChild
  split
  · exact .of_pure rfl
  · exact meet_revises _
  · exact external_revises hf hbuild scope _ e
  · split
    · exact .of_pure rfl
    · exact .bind (onBench_revises _ _) fun p => enlist_revises p

theorem topLevelPass_revises (hf : Harmless f) (hbuild : BuildsRevised f build build')
    (scope : Scope) (elements : List Xml.Element) :
    Revises f id (topLevelPass env build cx scope elements)
      (topLevelPass (env.revised f) build' cx scope elements) := by
  induction elements with
  | nil => exact .of_pure rfl
  | cons e rest ih => exact .bind (topLevelChild_revises hf hbuild scope e) fun _ => ih

/-- A document with the same root begins as the same schema. -/
theorem rootSchema_revised (hf : Harmless f) (policy : ForeignPolicy) (n : Nat) (source : Source)
    (parent : Option SchemaKey) (inherited : Option String) :
    rootSchema policy n (source.revised f) parent inherited =
      (rootSchema policy n source parent inherited).mapSource (Source.revised f) := by
  have htag : (source.revised f).document.tag = source.document.tag := hf.tag_eq _
  unfold rootSchema readRoot
  rw [keyOf_revised hf]
  unfold declaredTarget? Xml.Element.attribute?
  dsimp only
  rw [htag]
  rfl

theorem opened_revised (hf : Harmless f) (w : Workspace) (source : Source)
    (parent : Option SchemaKey) (inherited : Option String) :
    opened (env.revised f) (w.revised f) (source.revised f) parent inherited =
      (opened env w source parent inherited).revised f := by
  have htag : (source.revised f).document.tag = source.document.tag := hf.tag_eq _
  have hsize : (w.revised f).collection.schemas.size = w.collection.schemas.size :=
    w.collection.size_mapSources _
  unfold opened
  rw [htag, hsize, rootSchema_revised hf,
    show (w.revised f).collection = w.collection.mapSources (Source.revised f) from rfl,
    ← Collection.mapSources_push]
  rfl

theorem fallback_revised (hf : Harmless f) (w : Workspace) (source : Source)
    (parent : Option SchemaKey) (inherited : Option String) :
    fallback (w.revised f) (source.revised f) parent inherited =
      fallback w source parent inherited := by
  have htarget : declaredTarget? (source.revised f).document = declaredTarget? source.document := by
    unfold declaredTarget? Xml.Element.attribute?
    rw [show (source.revised f).document.tag = source.document.tag from hf.tag_eq _]
  have hsize : (w.revised f).collection.schemas.size = w.collection.schemas.size :=
    w.collection.size_mapSources _
  -- the schema that stands in for the new one here has no document
  have hpush : ∀ s : Schema, s.source = none → (w.revised f).collection.push s =
      (w.collection.push s).mapSources (Source.revised f) := by
    intro s hs
    rw [Collection.mapSources_push, Schema.mapSource_of_sourceless _ hs]
    rfl
  unfold fallback
  rw [hsize, keyOf_revised hf, htarget, hpush _ rfl]
  cases parent with
  | none => rfl
  | some key =>
      rw [Option.bind_some, Option.bind_some, Collection.schema?_mapSources, Option.map_map]
      rfl

/-- Building a revised document is building the document, however deeply
documents are nested. -/
theorem buildSource_revises (hf : Harmless f) (env : Environment) (fuel : Nat) :
    BuildsRevised f (buildSource env fuel) (buildSource (env.revised f) fuel) := by
  -- the documents that a document refers to are built with one unit of fuel less
  induction fuel with
  | zero => exact fun source _ _ => .of_throw _
  | succ fuel ih =>
      intro source parent inherited w
      have htag : (source.revised f).document.tag = source.document.tag := hf.tag_eq _
      have hfound : (w.revised f).collection.schema? (keyOf (source.revised f) inherited) =
          (w.collection.schema? (keyOf source inherited)).map
            (Schema.mapSource (Source.revised f)) := by
        rw [keyOf_revised hf]
        exact w.collection.schema?_mapSources _ _
      have hsize : (w.revised f).collection.schemas.size = w.collection.schemas.size :=
        w.collection.size_mapSources _
      cases hroot : source.document.tag.is schemaNamespace "schema" with
      | false =>
          rw [exec_buildSource_of_not_schema _ parent (htag ▸ hroot),
            exec_buildSource_of_not_schema _ parent hroot, htag]
          rfl
      | true =>
          cases hnew : w.collection.schema? (keyOf source inherited) with
          | some s =>
              rw [exec_buildSource_of_registered _ parent (htag ▸ hroot)
                  (by rw [hfound, hnew]; rfl),
                exec_buildSource_of_registered _ parent hroot (by rw [hnew]; rfl),
                keyOf_revised hf]
              rfl
          | none =>
              let cx := Context.ofSchema
                (rootSchema env.policy w.collection.schemas.size source parent inherited)
                env.policy
              have hcx : Context.ofSchema
                  (rootSchema env.policy w.collection.schemas.size (source.revised f) parent
                    inherited) env.policy = cx := by
                rw [rootSchema_revised hf]
                rfl
              -- the children of the old root are read; those of the new one are read alike
              have hpass : Revises f id
                  (topLevelPass env (buildSource env fuel) cx _ source.document.childElements)
                  (topLevelPass (env.revised f) (buildSource (env.revised f) fuel) cx _
                    source.document.childElements) :=
                topLevelPass_revises hf ih
                  ((Scope.inherited (fallback w source parent inherited)).enter
                    source.document.tag.declared) _
              rw [exec_buildSource _ parent (htag ▸ hroot) (by rw [hfound, hnew]; rfl),
                exec_buildSource _ parent hroot hnew, hsize,
                show (env.revised f).policy = env.policy from rfl, hcx, fallback_revised hf, htag,
                opened_revised hf, show (source.revised f).document = f source.document from rfl,
                hf.exec_pass, hpass (opened env w source parent inherited)]
              rcases exec (topLevelPass env (buildSource env fuel) _ _ _) _ with ⟨e | u, w'⟩
              · rfl
              · refine congrArg (fun collection => (_, ({ w'.revised f with
                  collection } : Workspace))) ?_
                exact (w'.collection.mapSources_modify _ w.collection.schemas.size
                  (f := fun s => { s with progress := .complete }) fun _ => rfl).symm

/-- Building a revised document comes to the same, with the revised documents
in the place of the documents as they were. -/
theorem build_revises (hf : Harmless f) (env : Environment) (d : Located) :
    Revises f id (Compose.build env d) (Compose.build (env.revised f) (d.revised f)) :=
  .bind (issue_revises d) fun source => buildSource_revises hf env _ source none none

end Compose

end XmlSchema
