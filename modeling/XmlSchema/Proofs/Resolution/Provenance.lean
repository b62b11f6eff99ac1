import XmlSchema.Proofs.Document.Discipline
import XmlSchema.Proofs.Resolution.Recounting

/-!
# Components come from the document of their schema

A schema that has been begun from a document holds only what stems from that
document.  What this means is left open here: a provenance says what holds of
all that is read from a document.
-/

namespace XmlSchema

open Attempt

/-- What is supplied by reading a document, at its top level and inside of its
references to other documents. -/
structure Provenance where
  stems : Xml.Element → (kind : ComponentKind) → kind.Component → Prop
  stems_congr : ∀ {document kind x y}, kind.unresolved y = kind.unresolved x →
    stems document kind x → stems document kind y
  construct_reads : ∀ {document : Xml.Element} {cx : Context} {scope : Scope} {role : Role}
    {e : Xml.Element} {construct : Construct}, e ∈ document.childElements →
    ChildClass.of e.tag.name = .known construct → Role.ofTopLevel? construct = some role →
    ∀ w, Reader.Supplies (stems document) cx.schema (Reader.construct cx scope role e) w
      fun _ => True
  reference_reads : ∀ {document : Xml.Element} {cx : Context} {scope : Scope} {e : Xml.Element}
    {kind : ExternalKind}, e ∈ document.childElements →
    ChildClass.of e.tag.name = .known (.external kind) →
    ∀ r w, Reader.Supplies (stems document) cx.schema
      (Reader.children cx scope (.external r) e.children) w fun _ => True

theorem Schema.Grows.source_eq {s later : Schema} (h : s.Grows later) : later.source = s.source := by
  simpa [head] using congrArg Schema.source h.head_eq

namespace Collection

variable {V : Provenance} {c later : Collection} {n : Nat} {source : Source}

/-- All that is in a schema stems from its document. -/
def Stems (V : Provenance) (c : Collection) : Prop :=
  ∀ (n : Nat) (s : Schema) (source : Source), c.schemas[n]? = some s → s.source = some source →
    ∀ (kind : ComponentKind) (i : Nat) (x : kind.Component),
      (s.components.ofKind kind)[i]? = some x → V.stems source.document kind x

/-- A schema has been begun from a document. -/
def Sourced (c : Collection) (n : Nat) (source : Source) : Prop :=
  ∃ s, c.schemas[n]? = some s ∧ s.source = some source

/-- A later collection in which nothing stems from elsewhere. -/
structure Inherits (V : Provenance) (c later : Collection) : Prop where
  grows : c.Grows later
  stems : c.Stems V → later.Stems V

theorem Sourced.grow (h : c.Sourced n source) (hc : c.Grows later) : later.Sourced n source := by
  obtain ⟨s, hs, hsource⟩ := h
  obtain ⟨s', hs', hgrows⟩ := hc n s hs
  exact ⟨s', hs', hgrows.source_eq.trans hsource⟩

namespace Inherits

theorem refl (c : Collection) : c.Inherits V c := ⟨.refl c, id⟩

theorem trans {a b c : Collection} (hab : a.Inherits V b) (hbc : b.Inherits V c) :
    a.Inherits V c :=
  ⟨hab.grows.trans hbc.grows, hbc.stems ∘ hab.stems⟩

/-- A change in which no component is new. -/
theorem inPlace (hc : c.GrowsInPlace later) (hcounts : c.SameCounts later) :
    c.Inherits V later := by
  refine ⟨hc.grows, fun h n s' source hs' hsource kind i y hy => ?_⟩
  obtain ⟨s, hs, hgrows⟩ := hc.exists_earlier hs'
  have hcount := hcounts n kind
  rw [components_of_schema hs, components_of_schema hs'] at hcount
  obtain ⟨x, hx, hyx⟩ := hgrows.components.exists_earlier hcount hy
  exact V.stems_congr hyx (h n s source hs (hgrows.source_eq.symm.trans hsource) kind i x hx)

/-- A change that leaves all components alone. -/
theorem modify (n : Nat) {f : Schema → Schema} (hf : ∀ s : Schema, s.Grows (f s))
    (hcs : ∀ s, (f s).components = s.components) : c.Inherits V (c.modify n f) :=
  .inPlace (.modify fun s _ => hf s) (.of_components (components_modify_of_eq hcs))

theorem addItem (n : Nat) (item : SchemaItem) : c.Inherits V (c.addItem n item) :=
  .inPlace (.addItem _ _ _) (.of_components (components_addItem _ _))

/-- A document has been begun: nothing has been read from it yet. -/
theorem begin (policy : ForeignPolicy) (source : Source) (parent : Option SchemaKey)
    (inherited : Option String) :
    c.Inherits V (c.push (Compose.rootSchema policy c.schemas.size source parent inherited)) := by
  refine ⟨.push _ _, fun h n s source' hs hsource kind i x hx => ?_⟩
  rw [schemas_push] at hs
  split at hs
  · cases hs
    cases kind <;> simp [Compose.rootSchema, Compose.readRoot, Components.ofKind] at hx
  · exact h n s source' hs hsource kind i x hx

/-- More of its document has been read into a schema. -/
theorem absorb {cx : Context} {bench : Workbench} (hcx : c.Sourced cx.schema source)
    (hrun : Workbench.Run cx.schema (fun _ => V.stems source.document)
      { components := c.components cx.schema } bench) :
    c.Inherits V (c.absorb cx.schema bench) := by
  obtain ⟨s, hs, hsource⟩ := hcx
  have hcs : c.components cx.schema = s.components := components_of_schema hs
  have hextends : s.components.Extends bench.components := hcs ▸ hrun.extends
  refine Inherits.trans (b := c.furnish cx.schema bench.components) ?_
    (.inPlace (.attachAll _) (.attachAll _))
  have hfurnish : c.GrowsInPlace (c.furnish cx.schema bench.components) :=
    .modify fun t ht => by
      cases Option.some.inj (hs.symm.trans ht)
      exact .of_components s hextends
  refine ⟨hfurnish.grows, fun h n s' source' hs' hsource' kind i x hx => ?_⟩
  obtain ⟨t, ht, rfl⟩ := schemas_modify_some hs'
  by_cases hn : cx.schema = n
  · subst hn
    cases Option.some.inj (hs.symm.trans ht)
    rw [if_pos rfl] at hsource' hx
    cases Option.some.inj (hsource.symm.trans hsource')
    -- a component was there before, or it has been read from the document
    rcases hrun.origin hx with hold | ⟨cs, hread, -, -⟩
    · exact h _ s source hs hsource kind i x (hcs ▸ hold)
    · exact hread
  · rw [if_neg hn] at hsource' hx
    exact h n t source' ht hsource' kind i x hx

end Inherits

end Collection

namespace Compose

open Collection

variable {V : Provenance} {env : Environment} {w : Workspace} {cx : Context} {source : Source}
  {α β : Type}

/-- A step after which nothing stems from elsewhere, whether it succeeds or
fails. -/
def Derives (V : Provenance) (m : Compose α) (w : Workspace) (Q : α → Prop) : Prop :=
  Ends m w (fun a w' => w.collection.Inherits V w'.collection ∧ Q a)
    (fun _ w' => w.collection.Inherits V w'.collection)

/-- Building a document is such a step. -/
def BuildsFaithfully (V : Provenance) (build : Build) : Prop :=
  ∀ w source parent inherited, Derives V (build source parent inherited) w fun _ => True

theorem Derives.bind {m : Compose α} {f : α → Compose β} {Q : α → Prop} {R : β → Prop}
    (h : Derives V m w Q)
    (hf : ∀ a w', w.collection.Grows w'.collection → Q a → Derives V (f a) w' R) :
    Derives V (m >>= f) w R := by
  refine Ends.bind h ?_
  rintro a w' ⟨hw', ha⟩
  refine (hf a w' hw'.grows ha).mono ?_ ?_
  · exact fun b w'' hw'' => ⟨hw'.trans hw''.1, hw''.2⟩
  · exact fun e w'' hw'' => hw'.trans hw''

theorem fetch_derives (r : Request) (w : Workspace) :
    Derives V (fetch env r) w fun _ => True := by
  have hask : ∀ w₁ : Workspace, w₁.collection = w.collection →
      Ends (ask env r) w₁ (fun _ w' => w.collection.Inherits V w'.collection ∧ True)
        (fun _ w' => w.collection.Inherits V w'.collection) := by
    intro w₁ hw₁
    have hsame : w.collection.Inherits V w₁.collection := hw₁ ▸ .refl _
    exact ask_ends (fun _ _ => hsame) (fun _ => ⟨hsame, trivial⟩) fun _ _ => ⟨hsame, trivial⟩
  refine fetch_ends_of ?_ ?_ ?_
  · exact fun _ => hask w rfl
  · exact fun _ _ => hask _ rfl
  · exact fun _ _ _ _ => ⟨.refl _, trivial⟩

theorem resolveNested_derives {build : Build} (hbuild : BuildsFaithfully V build) (r : Request)
    (parent : Option SchemaKey) (inherited : Option String) (w : Workspace) :
    Derives V (resolveNested env build r parent inherited) w fun _ => True := by
  unfold resolveNested
  refine Derives.bind (fetch_derives r w) fun found w₁ _ _ => ?_
  cases found with
  | none => exact ⟨.refl _, trivial⟩
  | some source =>
      dsimp only
      unfold Derives
      rw [ends_bind, ends_get]
      split
      · exact ⟨.refl _, trivial⟩
      · exact Derives.bind (hbuild w₁ source parent inherited) fun _ _ _ _ => ⟨.refl _, trivial⟩

/-- Reading into a schema what its document holds. -/
theorem onBench_derives {reader : Attempt Workbench α} {Q : α → Prop}
    (hcx : w.collection.Sourced cx.schema source)
    (hreader : Reader.Supplies (V.stems source.document) cx.schema reader
      { components := w.collection.components cx.schema } Q) :
    Derives V (onBench cx.schema reader) w Q := by
  unfold Derives Reader.Supplies Ends at *
  rw [Plan.exec_onBench]
  rcases hexec : exec reader { components := w.collection.components cx.schema } with ⟨e | a, bench⟩
  all_goals rw [hexec] at hreader
  · exact .absorb hcx hreader
  · exact ⟨.absorb hcx hreader.1, hreader.2⟩

theorem listExternal_derives (hcx : w.collection.Sourced cx.schema source) (scope : Scope)
    {e : Xml.Element} (he : e ∈ source.document.childElements) {kind : ExternalKind}
    (hc : ChildClass.of e.tag.name = .known (.external kind)) (r : ExternalRef)
    (target : Collection → Option Nat) :
    Derives V (listExternal cx scope (.external r) e.children target) w fun _ => True := by
  unfold listExternal Derives
  rw [ends_bind, ends_get]
  have hread : Derives V (onBench cx.schema (Reader.children cx scope (.external r) e.children)) w
      fun _ => True := onBench_derives hcx (V.reference_reads he hc r _)
  refine Derives.bind hread fun d' w₁ _ _ => ?_
  cases d' with
  | external r => exact ⟨.addItem _ _, trivial⟩
  | _ => exact ⟨.refl _, trivial⟩

theorem seek_derives {build : Build} (hbuild : BuildsFaithfully V build) (e : ExternalRef)
    (w : Workspace) : Derives V (seek env build cx e) w fun _ => True := by
  unfold seek
  split
  · exact ⟨.refl _, trivial⟩
  · exact resolveNested_derives hbuild _ _ _ w

theorem external_derives {build : Build} (hbuild : BuildsFaithfully V build)
    (hcx : w.collection.Sourced cx.schema source) (scope : Scope) {kind : ExternalKind}
    {e : Xml.Element} (he : e ∈ source.document.childElements)
    (hc : ChildClass.of e.tag.name = .known (.external kind)) :
    Derives V (external env build cx scope kind e) w fun _ => True := by
  rw [external_eq]
  have hbegin : Derives V (onBench cx.schema (Reader.meetAll cx (Reader.foreignAttributes e.tag)
      (.external (reference kind e.tag)))) w fun d => ∃ r, d = .external r := by
    refine onBench_derives hcx (Reader.meetAll_supplies ?_ ⟨_, rfl⟩ _)
    rintro content - _ ⟨r, rfl⟩
    exact ⟨_, rfl⟩
  refine hbegin.bind ?_
  rintro _ w₁ hw₁ ⟨r, rfl⟩
  refine (seek_derives hbuild _ w₁).bind fun found w₂ hw₂ _ => ?_
  exact listExternal_derives ((hcx.grow hw₁).grow hw₂) _ he hc r _

theorem meet_derives (cx : Context) (content : ForeignContent) (w : Workspace) :
    Derives V (meet cx content) w fun _ => True := by
  unfold meet Derives
  rw [ends_bind, ends_modify]
  split
  · refine ⟨.modify _ (fun s => ?_) fun _ => rfl, trivial⟩
    exact ⟨rfl, .refl _, List.prefix_refl _, List.prefix_refl _⟩
  · exact ⟨.refl _, trivial⟩

theorem enlist_derives (cx : Context) (p : Part) (w : Workspace) :
    Derives V (enlist cx p) w fun _ => True := by
  cases p with
  | note a => exact ⟨.addItem _ _, trivial⟩
  | component ref =>
      unfold enlist attempt Derives
      rw [ends_bind, ends_get]
      dsimp only
      cases hc : w.collection.enlist ref.id with
      | error e => exact .refl _
      | ok c => exact ⟨.inPlace (.enlist hc) (.enlist hc), trivial⟩
  | _ => exact ⟨.refl _, trivial⟩

theorem topLevelChild_derives {build : Build} (hbuild : BuildsFaithfully V build)
    (hcx : w.collection.Sourced cx.schema source) (scope : Scope) {e : Xml.Element}
    (he : e ∈ source.document.childElements) :
    Derives V (topLevelChild env build cx scope e) w fun _ => True := by
  unfold topLevelChild
  split
  · exact ⟨.refl _, trivial⟩
  · exact meet_derives cx _ w
  · rename_i kind hc
    exact external_derives hbuild hcx scope he hc
  · rename_i construct _ hc
    split
    · exact ⟨.refl _, trivial⟩
    · rename_i role hrole
      exact (onBench_derives hcx (V.construct_reads he hc hrole _)).bind
        fun p w₁ _ _ => enlist_derives cx p w₁

theorem topLevelPass_derives {build : Build} (hbuild : BuildsFaithfully V build) (scope : Scope)
    {elements : List Xml.Element} (hcx : w.collection.Sourced cx.schema source)
    (helements : elements ⊆ source.document.childElements) :
    Derives V (topLevelPass env build cx scope elements) w fun _ => True := by
  induction elements generalizing w with
  | nil => exact ⟨.refl _, trivial⟩
  | cons e rest ih =>
      obtain ⟨he, hrest⟩ := List.cons_subset.1 helements
      refine (topLevelChild_derives hbuild hcx scope he).bind fun _ w₁ hw₁ _ => ?_
      exact ih (hcx.grow hw₁) hrest

theorem buildSource_derives (fuel : Nat) : BuildsFaithfully V (buildSource env fuel) := by
  induction fuel with
  | zero => exact fun w source parent inherited => .refl _
  | succ fuel ih =>
      intro w source parent inherited
      unfold Derives Ends
      cases hroot : source.document.tag.is schemaNamespace "schema" with
      | false =>
          rw [exec_buildSource_of_not_schema env parent hroot]
          exact .refl _
      | true =>
          cases hnew : w.collection.schema? (keyOf source inherited) with
          | some s =>
              rw [exec_buildSource_of_registered env parent hroot (by rw [hnew]; rfl)]
              exact .refl _
          | none =>
              let root := rootSchema env.policy w.collection.schemas.size source parent inherited
              let cx := Context.ofSchema root env.policy
              have hbegin : w.collection.Inherits V
                  (opened env w source parent inherited).collection :=
                .begin env.policy source parent inherited
              have hcx : (opened env w source parent inherited).collection.Sourced cx.schema
                  source :=
                ⟨root, Plan.schemas_opened env w source parent inherited, rfl⟩
              have hpass : Derives V (topLevelPass env (buildSource env fuel) cx
                  ((Scope.inherited (fallback w source parent inherited)).enter
                    source.document.tag.declared)
                  source.document.childElements) (opened env w source parent inherited)
                  fun _ => True :=
                topLevelPass_derives ih _ hcx (List.Subset.refl _)
              rw [exec_buildSource env parent hroot hnew fuel]
              unfold Derives Ends at hpass
              split at hpass
              · rename_i w₂ heq
                rw [heq]
                refine ⟨(hbegin.trans hpass.1).trans (.modify _ (fun s => ?_) fun _ => rfl), trivial⟩
                exact ⟨rfl, .refl _, List.prefix_refl _, List.prefix_refl _⟩
              · rename_i e w₂ heq
                rw [heq]
                exact hbegin.trans hpass

theorem build_derives (env : Environment) (d : Located) (w : Workspace) :
    Derives V (build env d) w fun _ => True := by
  have hissue : Derives V (issue d) w fun _ => True := ⟨.refl _, trivial⟩
  exact hissue.bind fun source w₁ _ _ => buildSource_derives _ w₁ source none none

theorem buildText_derives (env : Environment) (locator text : String) (w : Workspace) :
    Derives V (buildText env locator text) w fun _ => True := by
  unfold buildText
  split
  · exact .refl _
  · exact build_derives env _ w

theorem readLocation_derives (env : Environment) (location : String) (base : Option String)
    (w : Workspace) : Derives V (readLocation env location base) w fun _ => True :=
  resolveNested_derives (buildSource_derives _) _ none none w

end Compose

namespace Collection

variable {V : Provenance} {c : Collection}

/-- Calls that build documents add nothing that stems from elsewhere. -/
theorem inherits_perform {op : Operation} (hop : op.Builds) (c : Collection) :
    c.Inherits V (c.perform op) := by
  have hstate : ∀ {α : Type} {m : Compose α} {w : Workspace},
      Compose.Derives V m w (fun _ => True) → w.collection.Inherits V (exec m w).2.collection :=
    fun h => Ends.state (h.mono (fun _ _ h => h.1) fun _ _ h => h)
  cases op with
  | build env w d => exact hstate (Compose.build_derives env d { w with collection := c })
  | buildText env w locator text =>
      exact hstate (Compose.buildText_derives env locator text { w with collection := c })
  | readLocation env w location base =>
      exact hstate (Compose.readLocation_derives env location base { w with collection := c })
  | _ => cases hop

end Collection

end XmlSchema
