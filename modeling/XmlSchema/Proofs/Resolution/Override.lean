import XmlSchema.Proofs.Collection.Override
import XmlSchema.Proofs.Document.Heedless
import XmlSchema.Proofs.Resolution.Keys
import XmlSchema.Proofs.Resolution.Walk
import XmlSchema.Resolution.Sharing

/-!
# When an override is installed

A schema can be made to stand in for a namespace before documents are read or
after that.  The two compositions ask for the same documents and come to the
same end; only the targets of the imports that are left to the override, and
what is found along them, can differ.  An override that is installed afterwards
serves those of them that give no location and name their namespace, provided
that no other schema stood in for the namespace before.
-/

namespace XmlSchema

open Attempt Compose

namespace Override

variable {o : Override} {ks : List SchemaKey} {w v : Workspace} {env : Environment}
  {cx : Context} {α : Type}

/-- A workspace with the override beside one without it, in which schemas with
some keys are there. -/
inductive Along (o : Override) (ks : List SchemaKey) : Workspace → Workspace → Prop
  | intro (c : Collection) (v : Workspace) (h : o.Beside c v.collection)
      (hkeys : ks <+: v.collection.keys) : Along o ks { v with collection := c } v

/-- A context belongs to a schema that is there and was not there at first. -/
structure Knows (o : Override) (ks : List SchemaKey) (cx : Context) : Prop where
  key_eq : ks[cx.schema]? = some cx.key
  first_le : o.first ≤ cx.schema

namespace Along

theorem collection (h : o.Along ks w v) : o.Beside w.collection v.collection := by
  cases h
  assumption

theorem keys (h : o.Along ks w v) : ks <+: v.collection.keys := by
  cases h
  assumption

theorem mono {ks' : List SchemaKey} (h : o.Along ks w v) (hks : ks' <+: ks) :
    o.Along ks' w v := by
  cases h with
  | intro c v hcd hkeys => exact .intro c v hcd (hks.trans hkeys)

/-- Going on with other collections that have the same keys. -/
theorem exchange (h : o.Along ks w v) {c d : Collection} (hcd : o.Beside c d)
    (hkeys : d.keys = v.collection.keys) :
    o.Along ks { w with collection := c } { v with collection := d } := by
  cases h with
  | intro _ v _ hks => exact .intro c { v with collection := d } hcd (hkeys ▸ hks)

theorem met (h : o.Along ks w v) (more : List ForeignContent) :
    o.Along ks { w with met := w.met ++ more } { v with met := v.met ++ more } := by
  cases h with
  | intro c v hcd hkeys => exact .intro c { v with met := v.met ++ more } hcd hkeys

/-- The key of a schema of the second collection that a context belongs to. -/
theorem key_of_knows (h : o.Along ks w v) (hcx : o.Knows ks cx) {t : Schema}
    (ht : v.collection.schemas[cx.schema]? = some t) : t.key = cx.key := by
  obtain ⟨more, hmore⟩ := h.keys
  have hget : v.collection.keys[cx.schema]? = some cx.key := by
    rw [← hmore, List.getElem?_append_left (List.getElem?_eq_some_iff.1 hcx.key_eq).1]
    exact hcx.key_eq
  rw [Collection.getElem?_keys, ht] at hget
  exact Option.some.inj hget

/-- A change of both collections that leaves items and components alone. -/
theorem modify_shell (h : o.Along ks w v) (n : Nat) {f : Schema → Schema}
    (hf : ∀ s, (f s).shell = f s.shell) (hitems : ∀ s, (f s).items = s.items)
    (hkey : ∀ s, (f s).key = s.key) (hcomponents : ∀ s, (f s).components = s.components) :
    o.Along ks { w with collection := w.collection.modify n f }
      { v with collection := v.collection.modify n f } :=
  h.exchange (h.collection.modify_shell hf hitems hkey hcomponents) (Collection.keys_modify hkey)

theorem update {f g : Collection → Collection} (h : o.Along ks w v)
    (hfg : o.Beside (f w.collection) (g v.collection))
    (hkeys : (g v.collection).keys = v.collection.keys) :
    Alongside (o.Along ks) (Compose.update f) w (Compose.update g) v :=
  ⟨rfl, h.exchange hfg hkeys⟩

end Along

section Fetch

theorem ask_along (h : o.Along ks w v) (r : Request) :
    Alongside (o.Along ks) (ask env r) w (ask env r) v := by
  cases h with
  | intro c v hcd hkeys =>
      unfold Alongside ask
      rw [exec_bind, exec_bind, exec_modify, exec_modify]
      cases env.resolver.answer r with
      | error e => exact ⟨rfl, .intro c { v with requests := _ } hcd hkeys⟩
      | ok found =>
          cases found with
          | none => exact ⟨rfl, .intro c { v with requests := _ } hcd hkeys⟩
          | some d =>
              exact ⟨rfl, .intro c { v with requests := _, nextTicket := _, cache := _ } hcd hkeys⟩

/-- The same documents are in use, so that the cache answers alike. -/
theorem alive_eq (h : o.Along ks w v) : w.alive = v.alive := by
  cases h with
  | intro c v hcd hkeys =>
      funext ticket
      unfold Workspace.alive
      rw [hcd.ticketsOf_eq]

theorem fetch_along (h : o.Along ks w v) (r : Request) :
    Alongside (o.Along ks) (fetch env r) w (fetch env r) v := by
  have halive := alive_eq h
  unfold fetch
  refine .get_bind ?_
  rw [halive]
  cases h with
  | intro c v hcd hkeys =>
      dsimp only
      cases hcache : v.cache with
      | none =>
          have hrest : o.Along ks { v with collection := c } v := .intro c v hcd hkeys
          rw [hcache] at hrest
          exact ask_along hrest r
      | some cache =>
          have hrest := Along.intro (o := o) c
            { v with cache := some (cache.get v.alive r).2 } hcd hkeys
          dsimp only
          cases (cache.get v.alive r).1 with
          | none => exact ask_along hrest r
          | some s => exact .of_pure (some s) hrest

/-- Nothing is fetched only if the resolver finds nothing. -/
theorem fetch_unanswered (r : Request) (w : Workspace) :
    Ends (fetch env r) w (fun found _ => found = none → env.resolver.answer r = .ok none)
      fun _ _ => True := by
  have hask : ∀ w, Ends (ask env r) w
      (fun found _ => found = none → env.resolver.answer r = .ok none) fun _ _ => True :=
    fun w => ask_ends (fun _ _ => trivial) (fun h _ => h) fun _ _ => nofun
  exact fetch_ends_of (fun _ => hask _) (fun _ _ => hask _) fun _ _ _ _ => nofun

theorem resolveNested_unanswered (build : Build) (r : Request) (parent : Option SchemaKey)
    (inherited : Option String) (w : Workspace) :
    Ends (resolveNested env build r parent inherited) w
      (fun found _ => found = none → env.resolver.answer r = .ok none) fun _ _ => True := by
  unfold resolveNested
  refine (fetch_unanswered r w).bind fun found w' hfound => ?_
  cases found with
  | none => exact (ends_pure none).2 fun _ => hfound rfl
  | some source =>
      dsimp only
      rw [ends_bind, ends_get]
      split
      · exact (ends_pure _).2 nofun
      · exact (Ends.trivial _ _).bind fun _ _ _ => nofun

theorem seek_unanswered (build : Build) (cx : Context) (e : ExternalRef) (w : Workspace) :
    Ends (seek env build cx e) w (fun found _ => found = none →
        ∀ l, e.location = some l → env.resolver.answer (e.requestIn cx.key l) = .ok none)
      fun _ _ => True := by
  unfold seek
  split
  · rename_i hlocation
    rintro - l hl
    rw [hlocation] at hl
    cases hl
  · rename_i l hlocation
    refine (resolveNested_unanswered build _ _ _ w).mono ?_ fun _ _ h => h
    rintro found w' hfound hnone l' hl'
    cases hlocation.symm.trans hl'
    exact hfound hnone

end Fetch

section Bench

theorem onBench_along (h : o.Along ks w v) (n : Nat) {reader : Attempt Workbench α}
    (hreader : Reader.Heedless reader) :
    Alongside (o.Along ks) (onBench n reader) w (onBench n reader) v := by
  have hcomponents : Workbench.Alike { components := w.collection.components n }
      { components := v.collection.components n } := ⟨h.collection.components n, rfl, rfl⟩
  obtain ⟨houtcome, hbench⟩ := hreader _ _ hcomponents
  unfold Alongside
  rw [Plan.exec_onBench, Plan.exec_onBench]
  refine ⟨houtcome, ?_⟩
  rw [← hbench.met_eq]
  refine (h.met _).exchange (h.collection.absorb n hbench.components) ?_
  exact (Collection.SameFrame.absorb n _).keys_eq

theorem onBench_leads {n : Nat} {reader : Attempt Workbench α} {Q : α → Prop}
    {E : SchemaError → Workbench → Prop} (w : Workspace)
    (hreader : Ends reader { components := w.collection.components n } (fun a _ => Q a) E) :
    Ends (onBench n reader) w (fun a _ => Q a) fun _ _ => True := by
  unfold Ends at hreader ⊢
  rw [Plan.exec_onBench]
  generalize exec reader { components := w.collection.components n } = r at hreader
  obtain ⟨e | a, bench⟩ := r
  · trivial
  · exact hreader

end Bench

section Walk

/-- Documents are built along. -/
def Builds (o : Override) (build : Build) : Prop :=
  ∀ ks w v source parent inherited, o.first ≤ ks.length → o.Along ks w v →
    Alongside (o.Along ks) (build source parent inherited) w (build source parent inherited) v

variable {build : Build} (hbuild : o.Builds build) (hfirst : o.first ≤ ks.length)
  (henv : env.resolver = o.resolver)

include hbuild hfirst in
theorem resolveNested_along (h : o.Along ks w v) (r : Request) (parent : Option SchemaKey)
    (inherited : Option String) :
    Alongside (o.Along ks) (resolveNested env build r parent inherited) w
      (resolveNested env build r parent inherited) v := by
  unfold resolveNested
  refine (fetch_along h r).bind fun found w₁ v₁ h₁ => ?_
  cases found with
  | none => exact .of_pure none h₁
  | some source =>
      refine .get_bind ?_
      rw [h₁.collection.number?_eq]
      cases v₁.collection.number? (keyOf source inherited) with
      | some n => exact .of_pure (some n) h₁
      | none =>
          exact (hbuild ks w₁ v₁ source parent inherited hfirst h₁).bind fun n _ _ h₂ =>
            .of_pure (some n) h₂

include hbuild hfirst in
theorem seek_along (h : o.Along ks w v) (cx : Context) (e : ExternalRef) :
    Alongside (o.Along ks) (seek env build cx e) w (seek env build cx e) v := by
  unfold seek
  split
  · exact .of_pure none h
  · exact resolveNested_along hbuild hfirst h _ _ _

include henv in
/-- An import for which nothing has been found is left to the override, or
leads to the same in both collections. -/
theorem targetIn_cases {c d : Collection} (h : o.Beside c d) (key : SchemaKey) (e : ExternalRef)
    (found : Option Nat) (hfound : found = none → ∀ l, e.location = some l →
      env.resolver.answer (e.requestIn key l) = .ok none) :
    e.targetIn found c = e.targetIn found d ∨
      o.Serves key e ∧ e.targetIn found c = some o.number ∧ e.targetIn found d = o.before? := by
  unfold ExternalRef.targetIn
  rw [h.known?_eq]
  by_cases hserves : found = none ∧ e.kind = .importation ∧ e.namespaceName.getD "" = o.uri
  · obtain ⟨rfl, hkind, huri⟩ := hserves
    rw [if_pos hkind, if_pos hkind, if_pos huri, huri]
    refine .inr ⟨⟨hkind, huri, fun l hl => henv ▸ hfound rfl l hl⟩, rfl, ?_⟩
    rw [Collection.known?, h.late]
    rfl
  · refine .inl ?_
    cases found with
    | some n => rfl
    | none =>
        split
        · rename_i hkind
          rw [if_neg fun huri => hserves ⟨rfl, hkind, huri⟩]
        · rfl

include henv in
theorem listExternal_along (h : o.Along ks w v) (hcx : o.Knows ks cx) {scope : Scope}
    {r : ExternalRef} {d : Draft} (hd : Reader.RefersTo r d) (children : List Xml.Node)
    (found : Option Nat) (hfound : found = none → ∀ l, r.location = some l →
      env.resolver.answer (r.requestIn cx.key l) = .ok none) :
    Alongside (o.Along ks) (listExternal cx scope d children (r.targetIn found)) w
      (listExternal cx scope d children (r.targetIn found)) v := by
  have htarget := targetIn_cases henv h.collection cx.key r found hfound
  unfold listExternal
  refine .get_bind ?_
  dsimp only
  have hdraft : Ends (onBench cx.schema (Reader.children cx scope d children)) w
      (fun d _ => Reader.RefersTo r d) fun _ _ => True := by
    have hopened : (Reader.referring cx r).draft (w.collection.components cx.schema) none d :=
      fun _ => hd
    refine onBench_leads w (((Reader.referring cx r).children_ends
      (Xml.Node.everyIn_of_forall (fun _ => trivial) children) hopened).mono ?_ fun _ _ h => h)
    rintro d b ⟨-, hd⟩
    exact hd rfl
  refine (onBench_along h cx.schema (Reader.heedless_children cx scope d children)).bind_of hdraft
    fun draft w₁ v₁ hdraft h₁ => ?_
  obtain ⟨e, rfl, hkind, hlocation, hspace⟩ := hdraft
  refine h₁.update (h₁.collection.addItem fun t ht => ?_) (Collection.GrowsInPlace.addItem _ _ _).keys_eq
  rw [h₁.key_of_knows hcx ht]
  rcases htarget with heq | ⟨hserves, hearly, hlate⟩
  · rw [heq]
    exact .same _
  · rw [hearly, hlate]
    refine .served e hcx.first_le ⟨hkind.trans hserves.kind_eq, ?_, ?_⟩
    · rw [hspace]
      exact hserves.uri_eq
    · intro l hl
      have hrequest : e.requestIn cx.key l = r.requestIn cx.key l := by
        unfold ExternalRef.requestIn
        rw [hkind, hspace]
      rw [hrequest]
      exact hserves.unlocated l (hlocation ▸ hl)

include hbuild hfirst henv in
theorem external_along (h : o.Along ks w v) (hcx : o.Knows ks cx) (scope : Scope)
    (kind : ExternalKind) (e : Xml.Element) :
    Alongside (o.Along ks) (external env build cx scope kind e) w
      (external env build cx scope kind e) v := by
  have hdraft : Ends (onBench cx.schema (Reader.meetAll cx (Reader.foreignAttributes e.tag)
      (.external (reference kind e.tag)))) w
      (fun d _ => Reader.RefersTo (reference kind e.tag) d) fun _ _ => True := by
    have hopened : (Reader.referring cx (reference kind e.tag)).opened none
        (.external (reference kind e.tag)) := fun _ => ⟨_, rfl, rfl, rfl, rfl⟩
    refine onBench_leads w (((Reader.referring cx (reference kind e.tag)).meetAll_ends hopened
      (fun _ _ _ hd _ hrole => (hd hrole).mapCommon _) rfl).mono ?_ fun _ _ h => h)
    rintro d b ⟨-, hd, -⟩
    exact hd rfl
  rw [external_eq]
  refine (onBench_along h cx.schema (Reader.heedless_meetAll cx _ _)).bind_of hdraft
    fun draft w₁ v₁ hdraft h₁ => ?_
  exact (seek_along hbuild hfirst h₁ cx _).bind_of (seek_unanswered build cx _ w₁)
    fun found w₂ v₂ hfound h₂ => listExternal_along henv h₂ hcx hdraft e.children found hfound

theorem meet_along (h : o.Along ks w v) (cx : Context) (content : ForeignContent) :
    Alongside (o.Along ks) (meet cx content) w (meet cx content) v := by
  unfold meet
  have hmet : Alongside (o.Along ks)
      (modify fun w => { w with met := w.met ++ [content] } : Compose Unit) w
      (modify fun w => { w with met := w.met ++ [content] } : Compose Unit) v :=
    ⟨rfl, h.met [content]⟩
  refine hmet.bind fun _ w₁ v₁ h₁ => ?_
  split
  · refine ⟨rfl, h₁.modify_shell cx.schema ?_ ?_ ?_ ?_⟩
    all_goals exact fun _ => rfl
  · exact .of_pure _ h₁

theorem enlist_along (h : o.Along ks w v) (cx : Context) (p : Part) :
    Alongside (o.Along ks) (enlist cx p) w (enlist cx p) v := by
  cases p with
  | note a =>
      exact h.update (h.collection.addItem fun _ _ => .same _)
        (Collection.GrowsInPlace.addItem _ _ _).keys_eq
  | component ref =>
      unfold enlist attempt
      refine .get_bind ?_
      dsimp only
      rcases h.collection.enlist ref.id with ⟨e, hc, hd⟩ | ⟨c, d, hc, hd, hcd⟩
      · rw [hc, hd]
        exact .of_throw e h
      · rw [hc, hd]
        exact h.update hcd (Collection.GrowsInPlace.enlist hd).keys_eq
  | _ => exact .of_pure _ h

include hbuild hfirst henv in
theorem topLevelChild_along (h : o.Along ks w v) (hcx : o.Knows ks cx) (scope : Scope)
    (e : Xml.Element) :
    Alongside (o.Along ks) (topLevelChild env build cx scope e) w
      (topLevelChild env build cx scope e) v := by
  unfold topLevelChild
  split
  · exact .of_pure _ h
  · exact meet_along h cx _
  · exact external_along hbuild hfirst henv h hcx scope _ e
  · split
    · exact .of_pure _ h
    · exact (onBench_along h cx.schema (Reader.heedless_construct cx scope _ e)).bind
        fun part _ _ h₁ => enlist_along h₁ cx part

include hbuild hfirst henv in
theorem topLevelPass_along (hcx : o.Knows ks cx) (scope : Scope) (elements : List Xml.Element)
    (h : o.Along ks w v) :
    Alongside (o.Along ks) (topLevelPass env build cx scope elements) w
      (topLevelPass env build cx scope elements) v := by
  induction elements generalizing w v with
  | nil => exact .of_pure _ h
  | cons e rest ih =>
      exact (topLevelChild_along hbuild hfirst henv h hcx scope e).bind fun _ _ _ h₁ => ih h₁

/-- A document begins in the same way in both collections. -/
theorem opened_along (env : Environment) (h : o.Along ks w v) (source : Source)
    (parent : Option SchemaKey) (inherited : Option String) :
    o.Along (Compose.opened env v source parent inherited).collection.keys
      (Compose.opened env w source parent inherited)
      (Compose.opened env v source parent inherited) := by
  cases h with
  | intro c v hcd hkeys =>
      have hsize := hcd.size_eq
      unfold Compose.opened
      dsimp only
      rw [hsize]
      exact .intro _ { v with collection := _, met := _ } (hcd.push _) (List.prefix_refl _)

include hfirst in
/-- A schema that is begun was not there at first. -/
theorem knows_opened (env : Environment) (h : o.Along ks w v) (source : Source)
    (parent : Option SchemaKey) (inherited : Option String) :
    o.Knows (Compose.opened env v source parent inherited).collection.keys
      (Context.ofSchema (rootSchema env.policy v.collection.schemas.size source parent inherited)
        env.policy) := by
  refine ⟨?_, ?_⟩
  · rw [Collection.getElem?_keys]
    exact congrArg (Option.map Schema.key) (Plan.schemas_opened env v source parent inherited)
  · have hle := h.keys.length_le
    rw [Collection.length_keys] at hle
    exact hfirst.trans hle

theorem fallback_eq (h : o.Along ks w v) (source : Source) (parent : Option SchemaKey)
    (inherited : Option String) :
    fallback w source parent inherited = fallback v source parent inherited := by
  have hsize := h.collection.size_eq
  unfold fallback
  rw [hsize]
  cases parent with
  | none => rfl
  | some key =>
      rw [Option.bind_some, Option.bind_some, (h.collection.push _).bindings_eq key]

/-- The building of documents goes on along, however deeply they are nested. -/
theorem buildSource_along (henv : env.resolver = o.resolver) (fuel : Nat) :
    o.Builds (buildSource env fuel) := by
  induction fuel with
  | zero =>
      intro ks w v source parent inherited _ h
      unfold buildSource
      exact .of_throw _ h
  | succ fuel ih =>
      intro ks w v source parent inherited hfirst h
      unfold Alongside
      cases hroot : source.document.tag.is schemaNamespace "schema" with
      | false =>
          rw [exec_buildSource_of_not_schema env parent hroot,
            exec_buildSource_of_not_schema env parent hroot]
          exact ⟨rfl, h⟩
      | true =>
          have hshell := h.collection.schema?_eq (keyOf source inherited)
          cases hnew : v.collection.schema? (keyOf source inherited) with
          | some t =>
              have hregistered : (w.collection.schema? (keyOf source inherited)).isSome := by
                rw [← Option.isSome_map, hshell, hnew]
                rfl
              rw [exec_buildSource_of_registered env parent hroot hregistered,
                exec_buildSource_of_registered env parent hroot (by rw [hnew]; rfl)]
              exact ⟨rfl, h⟩
          | none =>
              have hnew' : w.collection.schema? (keyOf source inherited) = none := by
                rw [hnew] at hshell
                exact Option.map_eq_none_iff.1 hshell
              have hsize := h.collection.size_eq
              have hkeys : (opened env v source parent inherited).collection.keys =
                  v.collection.keys ++ [keyOf source inherited] := Collection.keys_push _ _
              have hprefix : ks <+: (opened env v source parent inherited).collection.keys :=
                hkeys ▸ h.keys.trans (List.prefix_append _ _)
              have hpass := topLevelPass_along ih (hfirst.trans hprefix.length_le) henv
                (knows_opened hfirst env h source parent inherited)
                ((Scope.inherited (fallback v source parent inherited)).enter
                  source.document.tag.declared)
                source.document.childElements (opened_along env h source parent inherited)
              rw [exec_buildSource env parent hroot hnew' fuel,
                exec_buildSource env parent hroot hnew fuel, fallback_eq h, hsize]
              unfold Alongside at hpass
              generalize exec (topLevelPass env (buildSource env fuel) _ _ _)
                (opened env w source parent inherited) = x at hpass ⊢
              generalize exec (topLevelPass env (buildSource env fuel) _ _ _)
                (opened env v source parent inherited) = y at hpass ⊢
              obtain ⟨r, w'⟩ := x
              obtain ⟨r', v'⟩ := y
              obtain ⟨houtcome, h'⟩ := hpass
              cases houtcome
              have hlater := h'.mono hprefix
              cases r with
              | error e => exact ⟨rfl, hlater⟩
              | ok a =>
                  refine ⟨rfl, hlater.modify_shell v.collection.schemas.size ?_ ?_ ?_ ?_⟩
                  all_goals exact fun _ => rfl

include hfirst henv in
theorem run_along (h : o.Along ks w v) (reading : Reading) :
    Alongside (o.Along ks) (reading.run env) w (reading.run env) v := by
  have hbuild : ∀ d, Alongside (o.Along ks) (build env d) w (build env d) v := by
    intro d
    unfold build Alongside
    rw [exec_bind, exec_bind]
    have hissued : o.Along ks { w with nextTicket := w.nextTicket + 1 }
        { v with nextTicket := v.nextTicket + 1 } := by
      cases h with
      | intro c v hcd hkeys => exact .intro c { v with nextTicket := _ } hcd hkeys
    cases h with
    | intro c v hcd hkeys => exact buildSource_along henv _ ks _ _ _ none none hfirst hissued
  cases reading with
  | document d => exact (hbuild d).bind fun n _ _ h' => .of_pure (some n) h'
  | text locator content =>
      refine Alongside.bind (?_ : Alongside _ (buildText env locator content) _ _ _)
        fun n _ _ h' => .of_pure (some n) h'
      unfold buildText
      split
      · exact .of_throw _ h
      · exact hbuild _
  | location place base =>
      exact resolveNested_along (buildSource_along henv _) hfirst h _ none none

end Walk

section Late

/-- What an import that is left to the override leads to when the override is
installed after the import has been read: the schema that stood in for the
namespace then, or else the override, if the import gives no location and names
its namespace. -/
def late? (o : Override) (e : ExternalRef) : Option Nat :=
  o.before? <|>
    if e.location.isNone && e.namespaceName.isSome then some o.number else none

/-- A reference of a schema that was read with the override, and of one that
was read before the override was installed. -/
structure TwinRefs (o : Override) (c d : Collection) (n : Nat) (key : SchemaKey)
    (e e' : ExternalRef) : Prop where
  same : { e with target := none } = { e' with target := none }
  target : c.externalTarget? e = d.externalTarget? e' ∨
    o.first ≤ n ∧ o.Serves key e' ∧ c.externalTarget? e = some o.number ∧
      d.externalTarget? e' = o.late? e'

/-- A collection with the override from the beginning agrees with one that has
got it in the end. -/
structure Agrees (o : Override) (c d : Collection) : Prop where
  size_eq : c.schemas.size = d.schemas.size
  externals : ∀ (n : Nat) (s t : Schema), c.schemas[n]? = some s → d.schemas[n]? = some t →
    s.key = t.key ∧ List.Forall₂ (o.TwinRefs c d n t.key) s.externals t.externals
  find?_eq : (∀ (n : Nat) (t : Schema), o.first ≤ n → d.schemas[n]? = some t →
      ∀ e ∈ t.externals, o.Serves t.key e → o.late? e = some o.number) →
    ∀ (kind : ComponentKind) (name : QName), c.find? kind name = d.find? kind name

variable {c d : Collection} {n : Nat} {s t : Schema}

/-- The late override decides where nothing stood in for the namespace. -/
theorem externalTarget?_late (hd : d.known = (o.uri, o.number) :: o.known) {key : SchemaKey}
    {e : ExternalRef} (he : o.Serves key e) :
    d.externalTarget? { e with target := o.before? } = o.late? e := by
  have hknown : d.known? o.uri = some o.number := by
    rw [Collection.known?, hd, List.lookup_cons_self]
  unfold Collection.externalTarget? late?
  cases o.before? with
  | some n => rfl
  | none =>
      dsimp only
      rw [he.kind_eq]
      cases hspace : e.namespaceName with
      | none => cases e.location <;> rfl
      | some uri =>
          have huri : uri = o.uri := by
            have := he.uri_eq
            rw [hspace] at this
            exact this
          cases e.location with
          | none => exact huri ▸ hknown
          | some l => rfl

theorem TwinItems.refs {key : SchemaKey} {item item' : SchemaItem}
    (hc : c.known = d.known) (hd : d.known = (o.uri, o.number) :: o.known)
    (h : o.TwinItems n key item item') :
    Option.Rel (o.TwinRefs c d n key) item.external? item'.external? := by
  cases h with
  | same item =>
      cases item.external? with
      | none => exact .none
      | some e =>
          refine .some ⟨rfl, .inl ?_⟩
          unfold Collection.externalTarget? Collection.known?
          rw [hc]
  | served e hn he =>
      exact .some ⟨rfl, .inr ⟨hn, ⟨he.kind_eq, he.uri_eq, he.unlocated⟩, rfl,
        externalTarget?_late hd he⟩⟩

/-- Where the late override decides as the early one, the references lead to the
same schemas. -/
theorem filterMap_externalTarget?_eq {key : SchemaKey} {es es' : List ExternalRef}
    (h : List.Forall₂ (o.TwinRefs c d n key) es es')
    (hsettled : o.first ≤ n → ∀ e ∈ es', o.Serves key e → o.late? e = some o.number) :
    es.filterMap c.externalTarget? = es'.filterMap d.externalTarget? := by
  induction h with
  | nil => rfl
  | @cons e e' rest rest' hfirst _ ih =>
      have htarget : c.externalTarget? e = d.externalTarget? e' := by
        rcases hfirst.target with heq | ⟨hn, hserves, hearly, hlate⟩
        · exact heq
        · rw [hearly, hlate, hsettled hn e' List.mem_cons_self hserves]
      rw [List.filterMap_cons, List.filterMap_cons, htarget,
        ih fun hn e he => hsettled hn e (List.mem_cons_of_mem e' he)]

theorem Beside.agrees (h : o.Beside c d) : o.Agrees c (d.mapNamespace o.uri o.number) := by
  have hknown : (d.mapNamespace o.uri o.number).known = (o.uri, o.number) :: o.known :=
    congrArg (List.cons _) h.late
  have hrefs : ∀ (n : Nat) (s t : Schema), o.Twins n s t →
      List.Forall₂ (o.TwinRefs c (d.mapNamespace o.uri o.number) n t.key) s.externals
        t.externals := by
    intro n s t htwins
    exact List.rel_filterMap (fun _ _ hitem => hitem.refs (h.early.trans hknown.symm) hknown)
      htwins.items
  refine ⟨h.size_eq, ?_, ?_⟩
  · intro n s t hs ht
    obtain ⟨s', hs', htwins⟩ := h.exists_early ht
    cases hs.symm.trans hs'
    exact ⟨htwins.key_eq, hrefs n s t htwins⟩
  · intro hsettled kind name
    have hgraph : (d.mapNamespace o.uri o.number).SameGraph c := by
      intro n
      show _ = (d.schemas[n]?).map _
      cases ht : d.schemas[n]? with
      | none => rw [h.schemas_eq_none ht, Option.map_none, Option.map_none]
      | some t =>
          obtain ⟨s, hs, htwins⟩ := h.exists_early ht
          have hnaming : s.naming = t.naming := (congrArg Schema.naming htwins.shell_eq :)
          have htargets : c.targets s = (d.mapNamespace o.uri o.number).targets t :=
            filterMap_externalTarget?_eq (hrefs n s t htwins) fun hn => hsettled n t hn ht
          rw [hs, Option.map_some, Option.map_some, hnaming, htargets]
    exact hgraph.find?_eq kind name

end Late

end Override

namespace Compose

/-- A schema is made to stand in for a namespace before something is read or
after that.  Either way the reading comes to the same end and leaves the same
schemas, and a reference leads to the same schema, or it is an import of the
namespace that is left to the override.  Such an import leads to the override
when that came first; when it came last, the import leads to what stood in for
the namespace before, or else to the override if the import gives no location
and names its namespace.  If this is the same for all such imports, every
search finds the same. -/
theorem mapNamespace_order (env : Environment) (reading : Reading) (w : Workspace) (uri : String)
    (n : Nat) :
    let early := exec (reading.run env) { w with collection := w.collection.mapNamespace uri n }
    let late := exec (reading.run env) w
    let override : Override :=
      ⟨env.resolver, uri, n, w.collection.known, w.collection.schemas.size⟩
    early.1 = late.1 ∧
      override.Agrees early.2.collection (late.2.collection.mapNamespace uri n) := by
  intro early late override
  have hbegin : override.Along w.collection.keys
      { w with collection := w.collection.mapNamespace uri n } w :=
    .intro _ w (Override.Beside.refl _ _ uri n) (List.prefix_refl _)
  have hfirst : override.first ≤ w.collection.keys.length :=
    (Collection.length_keys w.collection).ge
  obtain ⟨houtcome, hend⟩ := Override.run_along hfirst rfl hbegin reading
  exact ⟨houtcome, hend.collection.agrees⟩

/-- An import without a location and without a namespace is served by an
override that is there when it is read, and never by a later one. -/
example :
    let text := "<s:schema xmlns:s=\"http://www.w3.org/2001/XMLSchema\" " ++
      "targetNamespace=\"urn:a\"><s:import/></s:schema>"
    let read (c : Collection) := c.perform (.buildText ⟨.nothing, .keep⟩ {} "a.xsd" text)
    let targets (c : Collection) := c.schemas.toList.flatMap c.targets
    targets (read (Collection.empty.mapNamespace "" 0)) = [0] ∧
      targets ((read Collection.empty).mapNamespace "" 0) = [] := by
  decide +kernel

end Compose

end XmlSchema
