import XmlSchema.Proofs.Collection.Seclusion
import XmlSchema.Proofs.Resolution.Operation
import XmlSchema.Proofs.Resolution.Plotting

/-!
# Compositions draw plots

Composing documents without a cache and without schemas that stand in for
namespaces draws the plot of their skeletons.  It can fail where the plot could
be drawn only because of what stands inside of a document: a prefix without a
meaning, a global component without a name, or a name that is taken.
-/

namespace XmlSchema

open Attempt

namespace Compose

/-- The reference to another document that a child of a root is. -/
def reference? (e : Xml.Element) : Option ExternalRef :=
  match ChildClass.of e.tag.name with
  | .known (.external kind) => some (reference kind e.tag).bare
  | _ => none

/-- What a composition depends on in a document. -/
def skeletonOf (document : Xml.Element) : Skeleton where
  isSchema := document.tag.is schemaNamespace "schema"
  target := declaredTarget? document
  references := document.childElements.filterMap reference?

end Compose

/-- Where the resolver leads requests. -/
def Environment.guide (env : Environment) : Guide := fun r =>
  match env.resolver.answer r with
  | .error _ => none
  | .ok none => some none
  | .ok (some d) => some (some (d.locator, Compose.skeletonOf d.document))

/-- The resolver answers with documents of which all names are proper. -/
def Environment.Proper (env : Environment) : Prop :=
  ∀ r d, env.resolver.answer r = .ok (some d) → d.document.Proper

/-- What a composition has made of a document so far, components aside. -/
def Schema.sheet (s : Schema) : Sheet where
  number := s.number
  builtin := s.builtin
  key := s.key
  target := s.targetNamespace
  parent := s.parent
  links := s.externals.map ExternalRef.bare

/-- What is seen of a schema: its sheet, and, when documents have been parsed,
whether its foreign content is foreign. -/
def Schema.sight (parsed : Prop) (s : Schema) : Sheet × Prop := (s.sheet, parsed → s.Secluded)

namespace Collection

/-- The sheets of a collection. -/
def sheets (c : Collection) : List Sheet := c.schemas.toList.map Schema.sheet

variable {parsed : Prop} {c later : Collection} {n : Nat}

theorem getElem?_sheets (c : Collection) (i : Nat) :
    c.sheets[i]? = (c.schemas[i]?).map Schema.sheet := by
  unfold sheets
  rw [List.getElem?_map, Array.getElem?_toList]

theorem length_sheets (c : Collection) : c.sheets.length = c.schemas.size := by
  unfold sheets
  rw [List.length_map, Array.length_toList]

theorem sight_congr {s s' : Schema} (hsheet : s'.sheet = s.sheet)
    (hforeign : s'.foreign = s.foreign) (hexternals : s'.externals = s.externals) :
    s'.sight parsed = s.sight parsed := by
  unfold Schema.sight
  rw [hsheet, Schema.secluded_congr hforeign hexternals]

theorem blind_sight (parsed : Prop) : Schema.Blind (Schema.sight parsed) where
  frame _ := sight_congr rfl rfl rfl
  names _ _ := sight_congr rfl rfl rfl
  item s item hitem := by
    refine sight_congr ?_ rfl (s.externals_addItem hitem)
    unfold Schema.sheet
    rw [s.externals_addItem hitem]
    rfl

theorem SameView.sheets_eq (h : c.SameView (Schema.sight parsed) later) :
    later.sheets = c.sheets := by
  refine List.ext_getElem? fun i => ?_
  rw [getElem?_sheets, getElem?_sheets, show Schema.sheet = Prod.fst ∘ Schema.sight parsed from rfl,
    ← Option.map_map, ← Option.map_map, h.view_eq i]

theorem SameView.secluded (h : c.SameView (Schema.sight parsed) later)
    (hc : parsed → c.Secluded) : parsed → later.Secluded := by
  intro hparsed i s' hs'
  have hi := h.view_eq i
  rw [hs', Option.map_some, eq_comm, Option.map_eq_some_iff] at hi
  obtain ⟨s, hs, hsight⟩ := hi
  have hsecluded : (parsed → s.Secluded) = (parsed → s'.Secluded) := congrArg Prod.snd hsight
  exact hsecluded.mp (fun hparsed => hc hparsed i s hs) hparsed

theorem sheets_push (c : Collection) (s : Schema) : (c.push s).sheets = c.sheets ++ [s.sheet] := by
  unfold sheets push
  rw [Array.toList_push, List.map_append, List.map_singleton]

/-- A reference to a document is one more link of its sheet. -/
theorem sheets_addExternal (c : Collection) (n : Nat) (e : ExternalRef) :
    (c.addItem n (.external e)).sheets =
      c.sheets.modify n fun s => { s with links := s.links ++ [e.bare] } := by
  refine List.ext_getElem? fun i => ?_
  rw [getElem?_sheets, List.getElem?_modify, getElem?_sheets, addItem, schemas_modify]
  cases c.schemas[i]? with
  | none => split <;> rfl
  | some s =>
      by_cases hi : n = i
      · rw [if_pos hi]
        simp [Schema.sheet, Schema.externals, Schema.addItem, SchemaItem.external?, hi]
      · rw [if_neg hi]
        simp [hi]

end Collection

namespace Workspace

/-- The sheets of a workspace, with the requests that it has made. -/
def plot (w : Workspace) : Plot := ⟨w.collection.sheets, w.requests⟩

/-- Without a cache, without schemas that stand in for namespaces, and, when
documents have been parsed, with nothing but foreign content among the foreign
content. -/
structure Plain (parsed : Prop) (w : Workspace) : Prop where
  cache_eq : w.cache = none
  known_eq : w.collection.known = []
  secluded : parsed → w.collection.Secluded

variable {parsed : Prop} {w : Workspace} {c : Collection}

theorem Plain.view (h : w.Plain parsed) (hc : w.collection.SameView (Schema.sight parsed) c)
    (met : List ForeignContent) : ({ w with collection := c, met } : Workspace).Plain parsed :=
  ⟨h.cache_eq, hc.known_eq.trans h.known_eq, hc.secluded h.secluded⟩

theorem plot_view (hc : w.collection.SameView (Schema.sight parsed) c) (met : List ForeignContent) :
    ({ w with collection := c, met } : Workspace).plot = w.plot :=
  congrArg (Plot.mk · w.requests) hc.sheets_eq

theorem number?_plot (w : Workspace) (key : SchemaKey) :
    w.plot.number? key = w.collection.number? key := by
  unfold plot Plot.number? Collection.number? Collection.sheets
  rw [List.find?_map, Option.map_map]
  rfl

end Workspace

namespace Compose

open Collection

/-- What can stand inside of a document so that it cannot be read. -/
inductive Unfit : SchemaError → Prop
  | unboundPrefix (pfx token : String) (key : SchemaKey) : Unfit (.unboundPrefix pfx token key)
  | unnamed (kind : ComponentKind) (key : SchemaKey) : Unfit (.unnamedComponent kind key)
  | duplicate (kind : ComponentKind) (name : QName) (key : SchemaKey) :
      Unfit (.duplicateComponent kind name key)

/-- A step ends well with what is drawn, and fails when nothing is drawn or
because of what stands inside of a document. -/
def Traces {α β : Type} (parsed : Prop) (m : Compose α) (w : Workspace) (drawn : Option β)
    (R : β → α → Workspace → Prop) : Prop :=
  Ends m w (fun a w' => w'.Plain parsed ∧ ∃ b, drawn = some b ∧ R b a w')
    (fun e _ => Unfit e ∨ drawn = none)

/-- A step that draws nothing. -/
def Stays {α : Type} (parsed : Prop) (m : Compose α) (w : Workspace) (Q : α → Prop) : Prop :=
  Ends m w (fun a w' => w'.Plain parsed ∧ w'.plot = w.plot ∧ Q a) (fun e _ => Unfit e)

variable {parsed : Prop} {env : Environment} {w : Workspace} {cx : Context} {α β γ : Type}

theorem Traces.after {m : Compose α} {f : α → Compose γ} {Q : α → Prop}
    {R : β → γ → Workspace → Prop} (drawn : Plot → Option β) (hm : Stays parsed m w Q)
    (hf : ∀ a w', w'.Plain parsed → Q a → Traces parsed (f a) w' (drawn w'.plot) R) :
    Traces parsed (m >>= f) w (drawn w.plot) R := by
  refine Ends.bind (Ends.mono hm (fun _ _ h => h) fun _ _ he => .inl he) ?_
  rintro a w' ⟨hplain, hplot, ha⟩
  exact hplot ▸ hf a w' hplain ha

theorem onBench_stays {reader : Attempt Workbench α} {Q : α → Prop} (hw : w.Plain parsed) (n : Nat)
    (hreader : ∀ b, Ends reader b (fun a _ => Q a) (fun e _ => Unfit e)) :
    Stays parsed (onBench n reader) w Q := by
  have hreader := hreader { components := w.collection.components n }
  unfold Stays Ends
  unfold Ends at hreader
  rw [Plan.exec_onBench]
  rcases hexec : exec reader { components := w.collection.components n } with ⟨e | a, bench⟩
  all_goals rw [hexec] at hreader
  · exact hreader
  · have hview : w.collection.SameView (Schema.sight parsed) (w.collection.absorb n bench) :=
      .absorb (blind_sight parsed) n bench
    exact ⟨hw.view hview _, Workspace.plot_view hview _, hreader⟩

section Reading

variable {b : Workbench} {r : ExternalRef} {d : Draft}

theorem unfit_of_refuses {e : SchemaError} (h : Reader.Refuses cx e) : Unfit e := by
  obtain ⟨pfx, token, rfl⟩ := h
  exact .unboundPrefix pfx token cx.key

/-- What a reference to another document guarantees while it is read. -/
def heeding (parsed : Prop) (cx : Context) (r : ExternalRef) : Reader.Discipline cx :=
  (Reader.referring cx r).and (Reader.secluding parsed cx)

theorem children_refer (hd : Reader.RefersTo r d ∧ Reader.Keeping parsed d) (scope : Scope)
    {kids : List Xml.Node} (hkids : parsed → Xml.Node.EveryIn Xml.Tag.Proper kids) :
    Ends (Reader.children cx scope d kids) b
      (fun d' _ => Reader.RefersTo r d' ∧ Reader.Keeping parsed d') (fun e _ => Unfit e) := by
  have hdraft : (heeding parsed cx r).draft b.components none d := ⟨fun _ => hd.1, fun _ => hd.2⟩
  have hheeded : Xml.Node.EveryIn (heeding parsed cx r).tag kids := by
    by_cases hparsed : parsed
    · exact (hkids hparsed).mono fun _ ht => ⟨trivial, fun _ => ht⟩
    · exact Xml.Node.everyIn_of_forall (fun _ => ⟨trivial, fun h => absurd h hparsed⟩) kids
  refine ((heeding parsed cx r).children_ends hheeded hdraft).mono ?_ ?_
  · exact fun d' _ h => ⟨h.2.1 rfl, h.2.2 rfl⟩
  · exact fun e _ h => unfit_of_refuses h.2

theorem foreignAttributes_refer (kind : ExternalKind) {t : Xml.Tag} (ht : parsed → t.Proper) :
    Ends (Reader.meetAll cx (Reader.foreignAttributes t) (.external (reference kind t))) b
      (fun d' _ => Reader.RefersTo (reference kind t) d' ∧ Reader.Keeping parsed d')
      (fun e _ => Unfit e) := by
  have hopened : (heeding parsed cx (reference kind t)).opened none
      (.external (reference kind t)) :=
    ⟨fun _ => ⟨_, rfl, rfl, rfl, rfl⟩, fun _ => ⟨_, rfl, fun _ => nofun⟩⟩
  refine ((heeding parsed cx (reference kind t)).meetAll_ends hopened ?_ rfl).mono ?_
    fun _ _ h => h.elim
  · exact fun _ hc _ => (heeding parsed cx (reference kind t)).foreign_attribute ⟨trivial, ht⟩ hc
  · exact fun d' _ h => ⟨h.2.1.1 rfl, h.2.1.2 rfl⟩

theorem construct_unfit (scope : Scope) (role : Role) (e : Xml.Element) :
    Ends (Reader.construct cx scope role e) b (fun _ _ => True) (fun e _ => Unfit e) :=
  ((Reader.referring cx default).construct_ends trivial
    (Xml.Node.everyIn_of_forall (fun _ => trivial) e.children)).mono (fun _ _ _ => trivial)
      fun _ _ h => unfit_of_refuses h.2

end Reading

/-- The building of documents draws them. -/
def Sketches (parsed : Prop) (build : Build) (draw : Plot.Draw) : Prop :=
  ∀ w source parent inherited, w.Plain parsed → (parsed → source.document.Proper) →
    Traces parsed (build source parent inherited) w
      (draw source.locator (skeletonOf source.document) parent inherited w.plot)
      fun drawn n w' => drawn = (n, w'.plot)

theorem fetch_traces (henv : parsed → env.Proper) (hw : w.Plain parsed) (r : Request) :
    Ends (fetch env r) w
      (fun found w' => w'.Plain parsed ∧ w'.plot = w.plot.ask r ∧ env.guide r =
          some (found.map fun source => (source.locator, skeletonOf source.document)) ∧
        ∀ source, found = some source → parsed → source.document.Proper)
      (fun _ _ => env.guide r = none) := by
  unfold Environment.guide
  refine fetch_ends_of (fun _ => ask_ends ?_ ?_ ?_) ?_ ?_
  · intro e hanswer
    rw [hanswer]
  · intro hanswer
    rw [hanswer]
    exact ⟨⟨hw.cache_eq, hw.known_eq, hw.secluded⟩, rfl, rfl, nofun⟩
  · intro d hanswer
    rw [hanswer]
    refine ⟨⟨?_, hw.known_eq, hw.secluded⟩, rfl, rfl, fun source hsource hparsed => ?_⟩
    · show w.cache.map _ = none
      rw [hw.cache_eq]
      rfl
    · cases hsource
      exact henv hparsed r d hanswer
  · intro cache hcache
    rw [hw.cache_eq] at hcache
    cases hcache
  · intro cache source hcache
    rw [hw.cache_eq] at hcache
    cases hcache

theorem resolveNested_traces (henv : parsed → env.Proper) {build : Build} {draw : Plot.Draw}
    (hbuild : Sketches parsed build draw) (hw : w.Plain parsed) (r : Request)
    (parent : Option SchemaKey) (inherited : Option String) :
    Traces parsed (resolveNested env build r parent inherited) w
      (Plot.follow env.guide draw r parent inherited w.plot)
      fun drawn found w' => drawn = (found, w'.plot) := by
  unfold resolveNested Plot.follow
  refine Ends.bind ((fetch_traces henv hw r).mono (fun _ _ h => h) fun e w' h => .inr ?_) ?_
  · rw [h]
  rintro found w₁ ⟨hw₁, hplot, hguide, hproper⟩
  rw [hguide, ← hplot]
  cases found with
  | none => exact ⟨hw₁, _, rfl, rfl⟩
  | some source =>
      dsimp only [Option.map_some]
      rw [ends_bind, ends_get]
      have hkey : (skeletonOf source.document).keyAt source.locator inherited =
          keyOf source inherited := rfl
      rw [hkey, Workspace.number?_plot]
      cases w₁.collection.number? (keyOf source inherited) with
      | some n => exact ⟨hw₁, _, rfl, rfl⟩
      | none =>
          dsimp only
          refine Ends.bind ((hbuild w₁ source parent inherited hw₁ (hproper _ rfl)).mono
            (fun _ _ h => h) ?_) ?_
          · rintro e w' (he | hnone)
            · exact .inl he
            · exact .inr (by rw [hnone]; rfl)
          · rintro n w₂ ⟨hw₂, drawn, hdrawn, rfl⟩
            exact ⟨hw₂, _, by rw [hdrawn]; rfl, rfl⟩

theorem listExternal_traces (hw : w.Plain parsed) (scope : Scope) {kids : List Xml.Node}
    (hkids : parsed → Xml.Node.EveryIn Xml.Tag.Proper kids) {r : ExternalRef} {d : Draft}
    (hd : Reader.RefersTo r d ∧ Reader.Keeping parsed d) (target : Collection → Option Nat)
    {found : Option Nat} (htarget : target w.collection = found) :
    Traces parsed (listExternal cx scope d kids target) w
      (some (w.plot.link cx.schema { r.bare with target := found }))
      fun drawn _ w' => drawn = w'.plot := by
  unfold Traces listExternal
  rw [ends_bind, ends_get]
  refine Traces.after (fun p => some (p.link cx.schema { r.bare with target := found }))
    (onBench_stays hw cx.schema fun b => children_refer hd scope hkids) ?_
  rintro draft w₁ hw₁ ⟨⟨e, rfl, hkind, hlocation, hspace⟩, e', he', hsecluded⟩
  cases he'
  have hbare : { r.bare with target := found } =
      ({ e with target := target w.collection } : ExternalRef).bare := by
    unfold ExternalRef.bare
    rw [hkind, hlocation, hspace, htarget]
  have hplot : w₁.plot.link cx.schema { r.bare with target := found } =
      ({ w₁ with
        collection := w₁.collection.addItem cx.schema
          (.external { e with target := target w.collection }) } : Workspace).plot := by
    unfold Workspace.plot Plot.link
    dsimp only
    rw [hbare, sheets_addExternal]
  have htargeted : parsed → ({ e with target := target w.collection } : ExternalRef).Secluded :=
    hsecluded
  refine ⟨⟨hw₁.cache_eq, hw₁.known_eq, fun hparsed => ?_⟩, _, rfl, hplot⟩
  exact (hw₁.secluded hparsed).addExternal (htargeted hparsed) cx.schema

/-- No schema stands in for a namespace. -/
theorem targetIn_plain (hw : w.Plain parsed) (e : ExternalRef) (found : Option Nat) :
    e.targetIn found w.collection = found := by
  have hnone : w.collection.known? (e.namespaceName.getD "") = none := by
    unfold Collection.known?
    rw [hw.known_eq]
    rfl
  rw [ExternalRef.targetIn, hnone, ite_self]
  cases found <;> rfl

theorem external_traces (henv : parsed → env.Proper) {build : Build} {draw : Plot.Draw}
    (hbuild : Sketches parsed build draw) (hw : w.Plain parsed) (scope : Scope)
    (kind : ExternalKind) {e : Xml.Element} (he : parsed → e.Proper) :
    Traces parsed (external env build cx scope kind e) w
      (Plot.refer env.guide draw cx.key cx.schema w.plot (reference kind e.tag).bare)
      fun drawn _ w' => drawn = w'.plot := by
  rw [external_eq]
  refine Traces.after
    (fun p => Plot.refer env.guide draw cx.key cx.schema p (reference kind e.tag).bare)
    (onBench_stays hw cx.schema fun b =>
      foreignAttributes_refer kind fun hparsed => (he hparsed).tag) ?_
  intro draft w₁ hw₁ hdraft
  have hkids : parsed → Xml.Node.EveryIn Xml.Tag.Proper e.children :=
    fun hparsed => (he hparsed).children
  have hlocated : (reference kind e.tag).bare.location = (reference kind e.tag).location := rfl
  unfold seek
  cases hlocation : (reference kind e.tag).location with
  | none =>
      rw [Plot.refer_of_none (hlocated.trans hlocation)]
      dsimp only
      rw [pure_bind]
      exact listExternal_traces hw₁ _ hkids hdraft _ (targetIn_plain hw₁ _ none)
  | some l =>
      rw [Plot.refer_of_some (hlocated.trans hlocation)]
      dsimp only
      refine Ends.bind ((resolveNested_traces henv hbuild hw₁
        ((reference kind e.tag).bare.requestIn cx.key l) (some cx.key)
        ((reference kind e.tag).bare.inheritedIn cx.key)).mono (fun _ _ h => h) ?_) ?_
      · rintro err w' (herr | hnone)
        · exact .inl herr
        · exact .inr (by rw [hnone]; rfl)
      · rintro found w₂ ⟨hw₂, drawn, hdrawn, rfl⟩
        rw [hdrawn, Option.map_some]
        exact listExternal_traces hw₂ _ hkids hdraft _ (targetIn_plain hw₂ _ found)

theorem meet_stays (hw : w.Plain parsed) (cx : Context) {content : ForeignContent}
    (hc : parsed → content.Outside) : Stays parsed (meet cx content) w fun _ => True := by
  unfold meet Stays
  rw [ends_bind, ends_modify]
  split
  · have hview : w.collection.SameView (Schema.sight parsed) (w.collection.modify cx.schema fun s =>
        { s with foreign := s.foreign ++ [content] }) := by
      refine .modify fun s => Prod.ext rfl (propext (forall_congr' fun hparsed => ?_))
      refine ⟨fun h => ⟨fun other hother => ?_, h.references⟩,
        fun h => ⟨fun other hother => ?_, h.references⟩⟩
      · exact h.own other (List.mem_append_left _ hother)
      · rcases List.mem_append.1 hother with hother | hother
        · exact h.own other hother
        · rw [List.mem_singleton.1 hother]
          exact hc hparsed
    exact ⟨hw.view hview _, Workspace.plot_view hview _, trivial⟩
  · exact ⟨⟨hw.cache_eq, hw.known_eq, hw.secluded⟩, rfl, trivial⟩

theorem enlist_unfit {c : Collection} {kind : ComponentKind} {id : ComponentId kind}
    {e : SchemaError} (h : c.enlist id = .error e) : Unfit e := by
  rcases bind_eq_error_iff.1 h with h | ⟨c', -, h⟩
  · unfold Collection.register at h
    split at h
    · cases h
    · split at h
      · cases h
        exact .unnamed _ _
      · split at h
        · cases h
          exact .duplicate _ _ _
        · cases h
  · cases h

theorem enlist_stays (hw : w.Plain parsed) (cx : Context) (p : Part) :
    Stays parsed (enlist cx p) w fun _ => True := by
  cases p with
  | note a =>
      have hview : w.collection.SameView (Schema.sight parsed)
          (w.collection.addItem cx.schema (.note a)) :=
        .addItem (blind_sight parsed) rfl cx.schema
      exact ⟨hw.view hview w.met, Workspace.plot_view hview w.met, trivial⟩
  | component ref =>
      unfold enlist attempt Stays
      rw [ends_bind, ends_get]
      dsimp only
      cases hc : w.collection.enlist ref.id with
      | error e => exact enlist_unfit hc
      | ok c =>
          have hview : w.collection.SameView (Schema.sight parsed) c :=
            .enlist (blind_sight parsed) hc
          exact ⟨hw.view hview w.met, Workspace.plot_view hview w.met, trivial⟩
  | _ => exact ⟨hw, rfl, trivial⟩

theorem reference?_external {e : Xml.Element} {kind : ExternalKind}
    (h : ChildClass.of e.tag.name = .known (.external kind)) :
    reference? e = some (reference kind e.tag).bare := by
  unfold reference?
  rw [h]

theorem reference?_other {e : Xml.Element}
    (h : ∀ kind, ChildClass.of e.tag.name ≠ .known (.external kind)) : reference? e = none := by
  unfold reference?
  split
  · rename_i kind hclass
    exact absurd hclass (h kind)
  · rfl

/-- A child of the root is followed when it refers to a document, and draws
nothing otherwise. -/
theorem topLevelChild_traces (henv : parsed → env.Proper) {build : Build} {draw : Plot.Draw}
    (hbuild : Sketches parsed build draw) (hw : w.Plain parsed) (scope : Scope) {e : Xml.Element}
    (he : parsed → (Xml.Node.ofElement e).Every Xml.Tag.Proper) :
    Traces parsed (topLevelChild env build cx scope e) w
      ((reference? e).toList.foldlM (Plot.refer env.guide draw cx.key cx.schema) w.plot)
      fun drawn _ w' => drawn = w'.plot := by
  have hstays : (∀ kind, ChildClass.of e.tag.name ≠ .known (.external kind)) →
      ∀ {m : Compose Unit}, Stays parsed m w (fun _ => True) → Traces parsed m w
        ((reference? e).toList.foldlM (Plot.refer env.guide draw cx.key cx.schema) w.plot)
        fun drawn _ w' => drawn = w'.plot := by
    intro hother m hm
    rw [reference?_other hother]
    refine Ends.mono hm ?_ fun _ _ he => .inl he
    rintro - w' ⟨hw', hplot, -⟩
    exact ⟨hw', _, rfl, hplot.symm⟩
  have hnothing : Stays parsed (pure ⟨⟩ : Compose Unit) w (fun _ => True) := ⟨hw, rfl, trivial⟩
  unfold topLevelChild
  split
  · rename_i hclass
    exact hstays (by rw [hclass]; exact fun _ => nofun) hnothing
  · rename_i hclass
    exact hstays (by rw [hclass]; exact fun _ => nofun) (meet_stays hw cx fun _ => hclass)
  · rename_i kind hclass
    rw [reference?_external hclass]
    have hfold : List.foldlM (Plot.refer env.guide draw cx.key cx.schema) w.plot
        [(reference kind e.tag).bare] =
        Plot.refer env.guide draw cx.key cx.schema w.plot (reference kind e.tag).bare := by
      rw [List.foldlM_cons]
      exact bind_pure _
    unfold Xml.Node.ofElement Xml.Node.Every at he
    rw [hclass] at he
    exact hfold ▸ external_traces henv hbuild hw scope kind fun hparsed =>
      ⟨(he hparsed).1, (he hparsed).2⟩
  · rename_i construct hnot hclass
    have hother : ∀ kind, ChildClass.of e.tag.name ≠ .known (.external kind) := by
      rw [hclass]
      rintro kind heq
      exact hnot kind (ChildClass.known.inj heq)
    split
    · exact hstays hother hnothing
    · refine hstays hother ?_
      refine Ends.bind (onBench_stays hw cx.schema fun b => construct_unfit scope _ e) ?_
      rintro p w₁ ⟨hw₁, hplot, -⟩
      exact hplot ▸ enlist_stays hw₁ cx p

theorem topLevelPass_traces (henv : parsed → env.Proper) {build : Build} {draw : Plot.Draw}
    (hbuild : Sketches parsed build draw) (hw : w.Plain parsed) (scope : Scope)
    {elements : List Xml.Element}
    (helements : ∀ e ∈ elements, parsed → (Xml.Node.ofElement e).Every Xml.Tag.Proper) :
    Traces parsed (topLevelPass env build cx scope elements) w
      ((elements.filterMap reference?).foldlM (Plot.refer env.guide draw cx.key cx.schema) w.plot)
      fun drawn _ w' => drawn = w'.plot := by
  induction elements generalizing w with
  | nil => exact ⟨hw, _, rfl, rfl⟩
  | cons e rest ih =>
      have hrefs : (e :: rest).filterMap reference? =
          (reference? e).toList ++ rest.filterMap reference? := by
        rw [List.filterMap_cons]
        cases reference? e <;> rfl
      rw [hrefs, List.foldlM_append]
      refine Ends.bind ((topLevelChild_traces henv hbuild hw scope
        (helements e List.mem_cons_self)).mono (fun _ _ h => h) ?_) ?_
      · rintro err w' (herr | hnone)
        · exact .inl herr
        · exact .inr (by rw [hnone]; rfl)
      · rintro - w₁ ⟨hw₁, drawn, hdrawn, rfl⟩
        rw [hdrawn]
        exact ih hw₁ fun e' he' => helements e' (List.mem_cons_of_mem e he')

theorem isNone_number? (w : Workspace) (key : SchemaKey) :
    (w.plot.number? key).isNone = (w.collection.schema? key).isNone := by
  rw [Workspace.number?_plot]
  unfold Collection.number?
  rw [Option.isNone_map]
  rfl

theorem secluded_rootSchema {source : Source} (h : source.document.tag.Proper)
    (policy : ForeignPolicy) (n : Nat) (parent : Option SchemaKey) (inherited : Option String) :
    (rootSchema policy n source parent inherited).Secluded := by
  refine ⟨fun content hcontent => ?_, nofun⟩
  cases policy with
  | keep => exact Reader.outside_of_attributes h hcontent
  | drop => cases hcontent

theorem mem_children_of_childElements {root e : Xml.Element} (h : e ∈ root.childElements) :
    Xml.Node.ofElement e ∈ root.children := by
  obtain ⟨node, hnode, hnode'⟩ := List.mem_filterMap.1 h
  cases node <;> cases hnode'
  exact hnode

/-- Building a document draws it, with all that it refers to. -/
theorem buildSource_sketches (henv : parsed → env.Proper) (fuel : Nat) :
    Sketches parsed (buildSource env fuel) (Plot.draw env.guide fuel) := by
  induction fuel with
  | zero => exact fun w source parent inherited _ _ => .inr rfl
  | succ fuel ih =>
      intro w source parent inherited hw hproper
      have hkey : (skeletonOf source.document).keyAt source.locator inherited =
          keyOf source inherited := rfl
      unfold Traces Ends Plot.draw
      dsimp only
      rw [hkey, isNone_number?]
      cases hroot : source.document.tag.is schemaNamespace "schema" with
      | false =>
          rw [exec_buildSource_of_not_schema env parent hroot]
          refine .inr (if_neg ?_)
          rw [show (skeletonOf source.document).isSchema = false from hroot]
          exact Bool.false_ne_true
      | true =>
          cases hnew : w.collection.schema? (keyOf source inherited) with
          | some s =>
              rw [exec_buildSource_of_registered env parent hroot (by rw [hnew]; rfl)]
              exact .inr (if_neg (by simp))
          | none =>
              let root := rootSchema env.policy w.collection.schemas.size source parent inherited
              have hopened : (opened env w source parent inherited).plot =
                  w.plot.begin (keyOf source inherited) (declaredTarget? source.document)
                    parent := by
                unfold opened Workspace.plot Plot.begin
                dsimp only
                rw [Collection.sheets_push, Collection.length_sheets]
                rfl
              have hplain : (opened env w source parent inherited).Plain parsed :=
                ⟨hw.cache_eq, hw.known_eq, fun hparsed =>
                  (hw.secluded hparsed).push (secluded_rootSchema (hproper hparsed).tag _ _ _ _)⟩
              have hpass : Traces parsed (topLevelPass env (buildSource env fuel)
                  (Context.ofSchema root env.policy)
                  ((Scope.inherited (fallback w source parent inherited)).enter
                    source.document.tag.declared) source.document.childElements)
                  (opened env w source parent inherited)
                  ((skeletonOf source.document).references.foldlM
                    (Plot.refer env.guide (Plot.draw env.guide fuel) (keyOf source inherited)
                      w.collection.schemas.size) (opened env w source parent inherited).plot)
                  fun drawn _ w' => drawn = w'.plot :=
                topLevelPass_traces henv ih hplain _ fun e he hparsed =>
                  (hproper hparsed).children.of_mem (mem_children_of_childElements he)
              have hschema : ((skeletonOf source.document).isSchema && true) = true := by
                rw [Bool.and_true]
                exact hroot
              have hlength : w.plot.sheets.length = w.collection.schemas.size :=
                w.collection.length_sheets
              rw [exec_buildSource env parent hroot hnew fuel, Option.isNone_none, if_pos hschema,
                hlength, show (skeletonOf source.document).target =
                  declaredTarget? source.document from rfl, ← hopened]
              unfold Traces Ends at hpass
              split at hpass
              · rename_i w₂ heq
                obtain ⟨hw₂, drawn, hdrawn, rfl⟩ := hpass
                have hview : w₂.collection.SameView (Schema.sight parsed)
                    (w₂.collection.modify w.collection.schemas.size fun s =>
                      { s with progress := .complete }) :=
                  .modify fun _ => Collection.sight_congr rfl rfl rfl
                rw [heq, hdrawn]
                refine ⟨hw₂.view hview w₂.met, _, rfl, ?_⟩
                exact congrArg _ (Workspace.plot_view hview w₂.met).symm
              · rename_i err w₂ heq
                rw [heq]
                exact hpass.imp_right fun hnone => by rw [hnone]; rfl

/-- Reading a document at its place draws what it leads to. -/
theorem readLocation_traces (henv : parsed → env.Proper) (hw : w.Plain parsed) (location : String)
    (base : Option String) :
    Traces parsed (readLocation env location base) w
      (Plot.follow env.guide (Plot.draw env.guide (env.resolver.depth + 1))
        ⟨"", location, base⟩ none none w.plot)
      fun drawn found w' => drawn = (found, w'.plot) :=
  resolveNested_traces henv (buildSource_sketches henv _) hw _ none none

end Compose

end XmlSchema
