import XmlSchema.Proofs.Resolution.Origin

/-!
# Compositions record what stands in documents

Every step of a composition keeps to what is recorded: schemas are begun where
something refers to their documents, and what is read into them has a site
there.  A composition that fails because of a prefix has come upon a document
in which the prefix means nothing.
-/

namespace XmlSchema

open Attempt

namespace Collection

theorem SameCounts.enlist {c later : Collection} {kind : ComponentKind} {id : ComponentId kind}
    (h : c.enlist id = .ok later) : c.SameCounts later := by
  obtain ⟨c', hc', rfl⟩ := enlist_cases h
  refine SameCounts.trans ?_ (.of_components (components_addItem _ _))
  rcases register_cases hc' with ⟨-, rfl⟩ | ⟨s, x, name, -, -, -, -, rfl⟩
  · exact .of_components fun _ => rfl
  · have henroll : c.SameCounts (c.enroll id name) := .of_components (components_enroll id name)
    exact henroll.trans (.settle name id)

theorem enlist_ne_unboundPrefix {c : Collection} {kind : ComponentKind} {id : ComponentId kind}
    {pfx token : String} {key : SchemaKey} :
    c.enlist id ≠ .error (.unboundPrefix pfx token key) := by
  intro h
  rcases bind_eq_error_iff.1 h with h | ⟨c', -, h⟩
  · unfold Collection.register at h
    split at h
    · cases h
    · split at h
      · cases h
      · split at h <;> cases h
  · cases h

end Collection

namespace Compose

open Collection

variable {supply : Supply} {env : Environment} {w w' w'' : Workspace} {cx : Context}
  {source : Source} {lent : Bindings}

/-- A workspace in which all is recorded, with a cache of known answers. -/
structure Recorded (supply : Supply) (w : Workspace) : Prop where
  collection : w.collection.Recounted supply
  cache : ∀ cache, w.cache = some cache → ∀ entry ∈ cache.entries, supply.answers entry.1 entry.2

/-- All that a composition adds is recorded. -/
structure Records (supply : Supply) (w w' : Workspace) : Prop where
  recorded : Recorded supply w'
  grows : w.collection.Grows w'.collection

/-- When an error tells of a prefix, it is the answer to a request, or the
prefix means nothing in a document that has been read. -/
def Blames (supply : Supply) (env : Environment) (c : Collection) (e : SchemaError) : Prop :=
  ∀ pfx token key, e = .unboundPrefix pfx token key →
    (∃ r, env.resolver.answer r = .error e) ∨ c.Unread supply e

/-- A composition that fails has recorded what it has read. -/
def Breaks (supply : Supply) (env : Environment) (w : Workspace) (e : SchemaError)
    (w' : Workspace) : Prop :=
  Records supply w w' ∧ Blames supply env w'.collection e

/-- The schema of a context is being read from a document. -/
def Underway (supply : Supply) (env : Environment) (c : Collection) (cx : Context)
    (source : Source) (lent : Bindings) : Prop :=
  ∃ s, c.schemas[cx.schema]? = some s ∧ Context.ofSchema s env.policy = cx ∧
    Origin supply c cx.schema s source lent

/-- What the building of a document comes to. -/
def Recording (supply : Supply) (env : Environment) (build : Build) : Prop :=
  ∀ w source parent inherited lent, Recorded supply w →
    Occasion supply w.collection w.collection.schemas.size source parent inherited lent →
    Ends (build source parent inherited) w (fun _ w' => Records supply w w')
      (Breaks supply env w)

theorem Records.refl (h : Recorded supply w) : Records supply w w := ⟨h, .refl _⟩

theorem Records.trans (h : Records supply w w') (h' : Records supply w' w'') :
    Records supply w w'' :=
  ⟨h'.recorded, h.grows.trans h'.grows⟩

theorem Breaks.after {e : SchemaError} (h : Records supply w w')
    (h' : Breaks supply env w' e w'') : Breaks supply env w e w'' :=
  ⟨h.trans h'.1, h'.2⟩

theorem Underway.grow {c later : Collection} (h : Underway supply env c cx source lent)
    (hc : c.Grows later) : Underway supply env later cx source lent := by
  obtain ⟨s, hs, hcx, horigin⟩ := h
  obtain ⟨s', hs', hgrows⟩ := hc _ s hs
  obtain ⟨t, ht, hcx'⟩ := hc.places ⟨s, hs, hcx⟩
  cases Option.some.inj (hs'.symm.trans ht)
  exact ⟨s', hs', hcx', horigin.grow hc hgrows⟩

/-- A change in which no component is new. -/
theorem Records.inPlace (h : Recorded supply w) {c : Collection}
    (hc : w.collection.GrowsInPlace c) (hcounts : w.collection.SameCounts c) :
    Records supply w { w with collection := c } :=
  ⟨⟨h.collection.inPlace hc hcounts, h.cache⟩, hc.grows⟩

/-- A change that leaves all components alone. -/
theorem Records.modify (h : Recorded supply w) (n : Nat) {f : Schema → Schema}
    (hf : ∀ s : Schema, s.Grows (f s)) (hcs : ∀ s, (f s).components = s.components) :
    Records supply w { w with collection := w.collection.modify n f } :=
  .inPlace h (.modify fun s _ => hf s) (.of_components (components_modify_of_eq hcs))

section Walk

variable (hanswers : ∀ r source,
  env.resolver.answer r = .ok (some ⟨source.locator, source.document⟩) → supply.answers r source)
include hanswers

theorem fetch_records (h : Recorded supply w) (r : Request) :
    Ends (fetch env r) w
      (fun found w' => Records supply w w' ∧ ∀ source, found = some source →
        supply.answers r source)
      (Breaks supply env w) := by
  have hask : ∀ w₁, Records supply w w₁ →
      Ends (ask env r) w₁
        (fun found w' => Records supply w w' ∧ ∀ source, found = some source →
          supply.answers r source)
        (Breaks supply env w) := by
    intro w₁ hw₁
    have hrecords : Records supply w { w₁ with requests := w₁.requests ++ [r] } :=
      ⟨⟨hw₁.recorded.collection, hw₁.recorded.cache⟩, hw₁.grows⟩
    refine ask_ends ?_ ?_ ?_
    · exact fun e hanswer => ⟨hrecords, fun _ _ _ _ => .inl ⟨r, hanswer⟩⟩
    · exact fun _ => ⟨hrecords, fun _ hsource => by cases hsource⟩
    · intro d hanswer
      have hfresh : supply.answers r ⟨d.locator, d.document, w₁.nextTicket⟩ :=
        hanswers r _ hanswer
      refine ⟨⟨⟨hw₁.recorded.collection, fun cache hcache entry hentry => ?_⟩, hw₁.grows⟩, ?_⟩
      · obtain ⟨old, hold, rfl⟩ := Option.map_eq_some_iff.1 hcache
        rcases List.mem_cons.1 hentry with rfl | hentry
        · exact hfresh
        · exact hw₁.recorded.cache old hold entry (old.entries_removeAll_subset [r] hentry)
      · intro source hsource
        exact Option.some.inj hsource ▸ hfresh
  have hget : ∀ cache, w.cache = some cache →
      Records supply w { w with cache := some (cache.get w.alive r).2 } := by
    intro cache hcache
    refine ⟨⟨h.collection, fun later hlater entry hentry => ?_⟩, .refl _⟩
    cases hlater
    exact h.cache cache hcache entry (cache.entries_get_subset w.alive r hentry)
  refine fetch_ends_of ?_ ?_ ?_
  · exact fun _ => hask w (.refl h)
  · exact fun cache hcache => hask _ (hget cache hcache)
  · intro cache source hcache hfound
    refine ⟨hget cache hcache, fun found heq => ?_⟩
    cases heq
    exact h.cache cache hcache (r, source) (ResolutionCache.mem_entries_of_get hfound)

theorem resolveNested_records {build : Build} (hbuild : Recording supply env build)
    (h : Recorded supply w) (r : Request) (parent : Option SchemaKey) (inherited : Option String)
    (lent : Bindings)
    (hoccasion : ∀ source, supply.answers r source →
      Occasion supply w.collection w.collection.schemas.size source parent inherited lent) :
    Ends (resolveNested env build r parent inherited) w (fun _ w' => Records supply w w')
      (Breaks supply env w) := by
  unfold resolveNested
  refine Ends.bind (fetch_records hanswers h r) ?_
  rintro found w₁ ⟨hw₁, hfound⟩
  cases found with
  | none => exact hw₁
  | some source =>
      dsimp only
      rw [ends_bind, ends_get]
      split
      · exact hw₁
      · refine Ends.bind ((hbuild w₁ source parent inherited lent hw₁.recorded ?_).mono
          (fun _ _ h => h) fun _ _ h => .after hw₁ h) ?_
        · exact (hoccasion source (hfound source rfl)).grow hw₁.grows hw₁.grows.size_le
        · exact fun n w₂ hw₂ => hw₁.trans hw₂

omit hanswers in
/-- Reading into the schema of a context. -/
theorem onBench_records {α : Type} {reader : Attempt Workbench α} {Q : α → Prop}
    (h : Recorded supply w) (hcx : Underway supply env w.collection cx source lent)
    (hreader : ∀ places, places.schema = cx.schema →
      Laid (.of source cx.key lent) (Site.root source.document) places
        (w.collection.components cx.schema) →
      Ends reader { components := w.collection.components cx.schema }
        (Reader.Places (.of source cx.key lent) (Site.root source.document) places
          { components := w.collection.components cx.schema } fun _ a => Q a)
        (Reader.Halts cx (.of source cx.key lent) (Site.root source.document) places
          { components := w.collection.components cx.schema })) :
    Ends (onBench cx.schema reader) w (fun a w' => Records supply w w' ∧ Q a)
      (Breaks supply env w) := by
  obtain ⟨s, hs, rfl, horigin⟩ := hcx
  have hcs : w.collection.components (Context.ofSchema s env.policy).schema = s.components :=
    components_of_schema hs
  obtain ⟨places, hschema, hlaid⟩ := h.collection.laid hs horigin
  -- what has been read is placed, and types that are found move nothing
  have habsorb : ∀ {later : Placement} {bench : Workbench},
      Reader.Onward (.of source s.key lent) (Site.root source.document) places s.components later
        bench.components →
      ∀ met, Records supply w { w with
        collection := w.collection.absorb (Context.ofSchema s env.policy).schema bench, met } := by
    intro later bench honward met
    have hfurnish := h.collection.furnish hs horigin honward.components
      (honward.keeps.schema_eq.trans hschema) honward.laid
    refine ⟨⟨hfurnish.inPlace (.attachAll bench.pending) (.attachAll bench.pending), h.cache⟩, ?_⟩
    exact (GrowsInPlace.absorb (hcs ▸ honward.components)).grows
  have hends := hreader places hschema (hcs ▸ hlaid)
  unfold Ends at hends ⊢
  rw [Plan.exec_onBench]
  rcases hexec : exec reader
      { components := w.collection.components (Context.ofSchema s env.policy).schema } with
    ⟨e | a, bench⟩
  all_goals rw [hexec] at hends
  · obtain ⟨⟨later, honward⟩, hfails⟩ := hends
    have hrecords := habsorb (hcs ▸ honward) (w.met ++ bench.met)
    obtain ⟨s', hs', hgrows⟩ := hrecords.grows _ s hs
    refine ⟨hrecords, fun pfx token key _ => .inr ⟨_, s', source, lent, hs',
      horigin.grow hrecords.grows hgrows, ?_⟩⟩
    rw [hgrows.key_eq]
    exact hfails
  · obtain ⟨later, honward, ha⟩ := hends
    exact ⟨habsorb (hcs ▸ honward) (w.met ++ bench.met), ha⟩

omit hanswers in
/-- A child of the root is one of its nodes. -/
theorem mem_kids {document e : Xml.Element} (he : e ∈ document.childElements) :
    .element e.tag e.children ∈ (Site.root document).kids := by
  obtain ⟨node, hnode, hsome⟩ := List.mem_filterMap.1 he
  cases node with
  | element tag kids =>
      cases hsome
      exact hnode
  | _ => cases hsome

omit hanswers in
theorem listExternal_records (h : Recorded supply w)
    (hcx : Underway supply env w.collection cx source lent) {scope : Scope}
    (hscope : (Site.root source.document).Scoped (.of source cx.key lent) scope)
    {kind : ExternalKind} {e : Xml.Element} (he : e ∈ source.document.childElements)
    (hkind : ChildClass.of e.tag.name = .known (.external kind)) {d : Draft}
    (hd : (Draft.external (reference kind e.tag)).SameRecord d) (target : Collection → Option Nat) :
    Ends (listExternal cx (scope.enter e.tag.declared) d e.children target) w
      (fun _ w' => Records supply w w') (Breaks supply env w) := by
  unfold listExternal
  rw [ends_bind, ends_get]
  have hst : cx.Sets (.of source cx.key lent) := by
    obtain ⟨s, -, rfl, horigin⟩ := hcx
    exact horigin.sets env.policy
  refine Ends.bind (onBench_records (Q := fun _ => True) h hcx fun places hschema hlaid => ?_) ?_
  · have hinner : (Site.root source.document).Holds (.external kind)
        ((Site.root source.document).below e.tag e.children) :=
      ⟨e.tag, e.children, mem_kids he, hkind, rfl⟩
    have hdrafted : Drafted (.of source cx.key lent) places
        ((Site.root source.document).below e.tag e.children) d :=
      (Drafted.of_empty (List.forall_mem_nil _) rfl fun _ _ h => by cases h).congr hd
    refine (Reader.children_ends hst hschema ((Site.Within.refl _).child hinner)
      (hscope.enter e.tag e.children) (List.cons_ne_nil _ _) hlaid hdrafted
      (List.Subset.refl _)).mono ?_ fun _ _ h => h
    rintro d' b ⟨later, honward, -⟩
    exact ⟨later, honward, trivial⟩
  rintro d' w₁ ⟨hw₁, -⟩
  cases d' with
  | external r =>
      exact hw₁.trans (.inPlace hw₁.recorded (.addItem _ _ _)
        (.of_components (components_addItem _ _)))
  | _ => exact hw₁

theorem seek_records {build : Build} (hbuild : Recording supply env build)
    (h : Recorded supply w) (hcx : Underway supply env w.collection cx source lent)
    {kind : ExternalKind} {e : Xml.Element} (he : e ∈ source.document.childElements)
    (hkind : ChildClass.of e.tag.name = .known (.external kind)) :
    Ends (seek env build cx (reference kind e.tag)) w (fun _ w' => Records supply w w')
      (Breaks supply env w) := by
  unfold seek
  split
  · exact .refl h
  · rename_i l hlocation
    refine resolveNested_records hanswers hbuild h _ (some cx.key) _
      source.document.tag.declared fun found hfound => ?_
    obtain ⟨s, hs, rfl, parent, inherited, hread, -⟩ := hcx
    exact .reference (Array.getElem?_eq_some_iff.1 hs).1 hs hread he hkind hlocation hfound

theorem external_records {build : Build} (hbuild : Recording supply env build)
    (h : Recorded supply w) (hcx : Underway supply env w.collection cx source lent)
    {scope : Scope} (hscope : (Site.root source.document).Scoped (.of source cx.key lent) scope)
    {kind : ExternalKind} {e : Xml.Element} (he : e ∈ source.document.childElements)
    (hkind : ChildClass.of e.tag.name = .known (.external kind)) :
    Ends (external env build cx scope kind e) w (fun _ w' => Records supply w w')
      (Breaks supply env w) := by
  rw [external_eq]
  refine Ends.bind (onBench_records (Q := (Draft.external (reference kind e.tag)).SameRecord) h hcx
    fun places hschema hlaid => ?_) ?_
  · refine (Reader.meetAll_ends cx _ _ _).mono ?_ fun _ _ h => h.elim
    rintro d b ⟨hcs, hd⟩
    exact ⟨places, .of_eq hcs hlaid, hd⟩
  rintro d w₁ ⟨hw₁, hd⟩
  have hcx₁ := hcx.grow hw₁.grows
  refine Ends.bind ((seek_records hanswers hbuild hw₁.recorded hcx₁ he hkind).mono
    (fun _ _ h => h) fun _ _ h => .after hw₁ h) ?_
  rintro found w₂ hw₂
  have hw := hw₁.trans hw₂
  exact (listExternal_records hw₂.recorded (hcx₁.grow hw₂.grows) hscope he hkind hd _).mono
    (fun _ _ h => hw.trans h) fun _ _ h => .after hw h

omit hanswers in
theorem meet_records (h : Recorded supply w) (cx : Context) (content : ForeignContent) :
    Ends (meet cx content) w (fun _ w' => Records supply w w') (Breaks supply env w) := by
  unfold meet
  rw [ends_bind, ends_modify]
  split
  · have hw : Recorded supply { w with met := w.met ++ [content] } := ⟨h.collection, h.cache⟩
    let f : Schema → Schema := fun s => { s with foreign := s.foreign ++ [content] }
    have hmodify := Records.modify (f := f) hw cx.schema
      (fun s => ⟨rfl, .refl _, List.prefix_refl _, List.prefix_refl _⟩) fun _ => rfl
    exact ⟨hmodify.recorded, hmodify.grows⟩
  · exact ⟨⟨h.collection, h.cache⟩, .refl _⟩

omit hanswers in
theorem enlist_records (h : Recorded supply w) (cx : Context) (p : Part) :
    Ends (enlist cx p) w (fun _ w' => Records supply w w') (Breaks supply env w) := by
  cases p with
  | note a =>
      exact .inPlace h (.addItem _ _ _) (.of_components (components_addItem _ _))
  | component ref =>
      unfold enlist attempt
      rw [ends_bind, ends_get]
      dsimp only
      cases hc : w.collection.enlist ref.id with
      | error e =>
          exact ⟨.refl h, fun pfx token key heq => absurd (heq ▸ hc) enlist_ne_unboundPrefix⟩
      | ok c => exact .inPlace h (.enlist hc) (.enlist hc)
  | _ => exact .refl h

theorem topLevelChild_records {build : Build} (hbuild : Recording supply env build)
    (h : Recorded supply w) (hcx : Underway supply env w.collection cx source lent)
    {scope : Scope} (hscope : (Site.root source.document).Scoped (.of source cx.key lent) scope)
    {e : Xml.Element} (he : e ∈ source.document.childElements) :
    Ends (topLevelChild env build cx scope e) w (fun _ w' => Records supply w w')
      (Breaks supply env w) := by
  unfold topLevelChild
  split
  · exact .refl h
  · exact meet_records h cx _
  · rename_i kind hkind
    exact external_records hanswers hbuild h hcx hscope he hkind
  · rename_i construct _ hconstruct
    split
    · exact .refl h
    · rename_i role hrole
      have hst : cx.Sets (.of source cx.key lent) := by
        obtain ⟨s, -, rfl, horigin⟩ := hcx
        exact horigin.sets env.policy
      refine Ends.bind (onBench_records (Q := fun _ => True) h hcx fun places hschema hlaid =>
        Reader.construct_ends hst hschema rfl hscope hlaid (mem_kids he) hconstruct hrole) ?_
      rintro p w₁ ⟨hw₁, -⟩
      exact (enlist_records hw₁.recorded cx p).mono (fun _ _ h => hw₁.trans h)
        fun _ _ h => .after hw₁ h

theorem topLevelPass_records {build : Build} (hbuild : Recording supply env build)
    {scope : Scope} (hscope : (Site.root source.document).Scoped (.of source cx.key lent) scope)
    {elements : List Xml.Element} (h : Recorded supply w)
    (hcx : Underway supply env w.collection cx source lent)
    (helements : elements ⊆ source.document.childElements) :
    Ends (topLevelPass env build cx scope elements) w (fun _ w' => Records supply w w')
      (Breaks supply env w) := by
  induction elements generalizing w with
  | nil => exact .refl h
  | cons e rest ih =>
      obtain ⟨he, hrest⟩ := List.cons_subset.1 helements
      refine Ends.bind (topLevelChild_records hanswers hbuild h hcx hscope he) ?_
      rintro _ w₁ hw₁
      exact (ih hw₁.recorded (hcx.grow hw₁.grows) hrest).mono (fun _ _ h => hw₁.trans h)
        fun _ _ h => .after hw₁ h

omit hanswers in
/-- A document borrows the bindings of the root that refers to it. -/
theorem fallback_lent (h : w.collection.Keyed) {parent : Option SchemaKey}
    {inherited : Option String}
    (ho : Occasion supply w.collection w.collection.schemas.size source parent inherited lent)
    (hnew : w.collection.schema? (keyOf source inherited) = none) :
    fallback w source parent inherited = lent := by
  let fresh : Schema :=
    { number := w.collection.schemas.size
      key := keyOf source inherited
      targetNamespace := declaredTarget? source.document }
  have hkeyed : (w.collection.push fresh).Keyed := h.push rfl hnew
  unfold fallback
  cases ho with
  | handed => rfl
  | @reference m p _ _ _ _ _ _ hm hp hread =>
      have hp' : (w.collection.push fresh).schemas[m]? = some p := by
        rw [schemas_push, if_neg (Nat.ne_of_lt hm), hp]
      have hfound : (w.collection.push fresh).schema? p.key = some p := hkeyed.schema?_eq hp'
      rw [Option.bind_some, hfound]
      exact hread.bindings_eq

theorem buildSource_records (fuel : Nat) : Recording supply env (buildSource env fuel) := by
  induction fuel with
  | zero => exact fun w source parent inherited lent h _ => ⟨.refl h, nofun⟩
  | succ fuel ih =>
      intro w source parent inherited lent h ho
      unfold Ends
      cases hroot : source.document.tag.is schemaNamespace "schema" with
      | false =>
          rw [exec_buildSource_of_not_schema env parent hroot]
          exact ⟨.refl h, nofun⟩
      | true =>
          cases hnew : w.collection.schema? (keyOf source inherited) with
          | some s =>
              rw [exec_buildSource_of_registered env parent hroot (by rw [hnew]; rfl)]
              exact ⟨.refl h, nofun⟩
          | none =>
              let root := rootSchema env.policy w.collection.schemas.size source parent inherited
              let cx := Context.ofSchema root env.policy
              have hw₁ : Records supply w (opened env w source parent inherited) :=
                ⟨⟨h.collection.push env.policy ho hnew, h.cache⟩, .push _ _⟩
              have horigin : Origin supply (w.collection.push root) cx.schema root source lent :=
                ⟨parent, inherited, ⟨rfl, rfl, rfl, rfl, rfl, rfl⟩,
                  ho.grow (.push _ _) (Nat.le_refl _)⟩
              have hcx : Underway supply env (opened env w source parent inherited).collection cx
                  source lent :=
                ⟨root, Plan.schemas_opened env w source parent inherited, rfl, horigin⟩
              let scope := (Scope.inherited lent).enter source.document.tag.declared
              have hscope : (Site.root source.document).Scoped (.of source cx.key lent) scope :=
                Site.scoped_root (.of source cx.key lent) source.document
              have hpass : Ends (topLevelPass env (buildSource env fuel)
                  (Context.ofSchema root env.policy) scope source.document.childElements)
                  (opened env w source parent inherited)
                  (fun _ w' => Records supply (opened env w source parent inherited) w')
                  (Breaks supply env (opened env w source parent inherited)) :=
                topLevelPass_records hanswers ih hscope hw₁.recorded hcx (List.Subset.refl _)
              rw [exec_buildSource env parent hroot hnew fuel,
                fallback_lent h.collection.keyed ho hnew]
              unfold Ends at hpass
              split at hpass
              · rename_i w₂ heq
                rw [heq]
                have hw := hw₁.trans hpass
                have hfinish := Records.modify
                  (f := fun s : Schema => { s with progress := .complete }) hw.recorded
                  w.collection.schemas.size
                  (fun s => ⟨rfl, .refl _, List.prefix_refl _, List.prefix_refl _⟩) fun _ => rfl
                exact hw.trans hfinish
              · rename_i e w₂ heq
                rw [heq]
                exact .after hw₁ hpass

end Walk

end Compose

end XmlSchema
