import Mathlib.Data.List.Induction
import XmlSchema.Proofs.Collection.Search
import XmlSchema.Proofs.Collection.Views
import XmlSchema.Proofs.Resolution.Operation
import XmlSchema.Resolution.Sharing

/-!
# Which schemas are finished

A schema is registered before its document has been read, and it stays
registered when the reading fails.  A call that succeeds finishes every schema
that it registers; it finishes none that was there before.  So what a call
answers with, and whatever can be reached from it, is finished except for what
an earlier call has left behind when it failed.
-/

namespace XmlSchema

open Attempt

/-- What a schema says of itself while its document is read, components and
names aside. -/
def Schema.standing (s : Schema) : Nat × Progress × List ExternalRef :=
  (s.number, s.progress, s.externals)

namespace Collection

/-- How far the reading of a schema has come, if there is such a schema. -/
def progress? (c : Collection) (n : Nat) : Option Progress :=
  (c.schemas[n]?).map Schema.progress

/-- Schemas are found under their numbers, and whatever refers to a schema
refers to one that is registered. -/
structure Linked (c : Collection) : Prop where
  numbered : c.Numbered
  target : ∀ (n : Nat) (s : Schema), c.schemas[n]? = some s → ∀ e ∈ s.externals,
    ∀ m, e.target = some m → m < c.schemas.size
  known : ∀ uri m, c.known? uri = some m → m < c.schemas.size

/-- A later collection in which no earlier schema has come any further. -/
structure Advances (c later : Collection) : Prop where
  size_le : c.schemas.size ≤ later.schemas.size
  progress : ∀ n < c.schemas.size, later.progress? n = c.progress? n
  linked : c.Linked → later.Linked

/-- A later collection in which all that is new is finished. -/
structure Settles (c later : Collection) : Prop extends c.Advances later where
  complete : ∀ n, c.schemas.size ≤ n → n < later.schemas.size →
    later.progress? n = some .complete

/-- A collection in which no schema is new, has come further or refers to more
documents. -/
structure Steady (c later : Collection) : Prop where
  known : later.known = c.known
  standing : ∀ i : Nat,
    (later.schemas[i]?).map Schema.standing = (c.schemas[i]?).map Schema.standing

variable {c c' later : Collection} {n : Nat}

theorem Linked.lt_of_refers (h : c.Linked) {m : Nat} (href : c.Refers n m) :
    m < c.schemas.size := by
  obtain ⟨s, hs, hm⟩ := href
  obtain ⟨e, he, htarget⟩ := List.mem_filterMap.1 hm
  unfold externalTarget? at htarget
  split at htarget
  · rename_i htargeted
    cases htarget
    exact h.target n s hs e he _ htargeted
  · split at htarget
    · obtain ⟨uri, -, hknown⟩ := Option.bind_eq_some_iff.1 htarget
      exact h.known uri m hknown
    · cases htarget

theorem Linked.lt_of_reaches (h : c.Linked) {m : Nat} (hn : n < c.schemas.size)
    (hreach : Relation.ReflTransGen c.Refers n m) : m < c.schemas.size := by
  cases hreach with
  | refl => exact hn
  | tail _ href => exact h.lt_of_refers href

section Steady

namespace Steady

theorem of_view (h : c.SameView Schema.standing later) : c.Steady later :=
  ⟨h.known_eq, h.view_eq⟩

theorem refl (c : Collection) : c.Steady c := .of_view (.refl _ c)

theorem modify {f : Schema → Schema} (hf : ∀ s, (f s).standing = s.standing) :
    c.Steady (c.modify n f) := .of_view (.modify hf)

theorem exists_earlier (h : c.Steady later) {s' : Schema} (hs' : later.schemas[n]? = some s') :
    ∃ s, c.schemas[n]? = some s ∧ s'.standing = s.standing := by
  have hi := h.standing n
  rw [hs', Option.map_some, eq_comm, Option.map_eq_some_iff] at hi
  obtain ⟨s, hs, hstanding⟩ := hi
  exact ⟨s, hs, hstanding.symm⟩

theorem size_le (h : c.Steady later) : later.schemas.size ≤ c.schemas.size := by
  refine Nat.le_of_not_lt fun hlt => ?_
  obtain ⟨s, hs, -⟩ := h.exists_earlier (Array.getElem?_eq_getElem hlt)
  exact absurd (Array.getElem?_eq_some_iff.1 hs).1 (Nat.lt_irrefl _)

theorem symm (h : c.Steady later) : later.Steady c :=
  ⟨h.known.symm, fun i => (h.standing i).symm⟩

theorem size_eq (h : c.Steady later) : later.schemas.size = c.schemas.size :=
  Nat.le_antisymm h.size_le h.symm.size_le

theorem progress_eq (h : c.Steady later) (n : Nat) : later.progress? n = c.progress? n := by
  have hprogress : Schema.progress = (fun t => t.2.1) ∘ Schema.standing := rfl
  unfold progress?
  rw [hprogress, ← Option.map_map, ← Option.map_map, h.standing n]

theorem linked (h : c.Steady later) (hc : c.Linked) : later.Linked where
  numbered i s' hs' := by
    obtain ⟨s, hs, hstanding⟩ := h.exists_earlier hs'
    exact (congrArg Prod.fst hstanding).trans (hc.numbered i s hs)
  target i s' hs' e he m hm := by
    obtain ⟨s, hs, hstanding⟩ := h.exists_earlier hs'
    have hexternals : s'.externals = s.externals := congrArg (·.2.2) hstanding
    rw [h.size_eq]
    exact hc.target i s hs e (hexternals ▸ he) m hm
  known uri m hm := by
    rw [h.size_eq]
    rw [known?, h.known] at hm
    exact hc.known uri m hm

end Steady

theorem blind_standing : Schema.Blind Schema.standing where
  frame _ := rfl
  names _ _ := rfl
  item s item hitem := by
    unfold Schema.standing
    rw [s.externals_addItem hitem]
    rfl

theorem Steady.absorb (n : Nat) (bench : Workbench) : c.Steady (c.absorb n bench) :=
  .of_view (.absorb blind_standing n bench)

/-- Nothing but a reference to a document changes the standing of a schema. -/
theorem Steady.addItem {item : SchemaItem} (hitem : item.external? = none) (n : Nat) :
    c.Steady (c.addItem n item) := .of_view (.addItem blind_standing hitem n)

theorem Steady.enlist {kind : ComponentKind} {id : ComponentId kind}
    (h : c.enlist id = .ok later) : c.Steady later := .of_view (.enlist blind_standing h)

end Steady

section Advances

theorem Advances.trans (h : c.Advances c') (h' : c'.Advances later) : c.Advances later where
  size_le := Nat.le_trans h.size_le h'.size_le
  progress n hn := (h'.progress n (Nat.lt_of_lt_of_le hn h.size_le)).trans (h.progress n hn)
  linked hc := h'.linked (h.linked hc)

theorem Settles.trans (h : c.Settles c') (h' : c'.Settles later) : c.Settles later where
  toAdvances := h.toAdvances.trans h'.toAdvances
  complete n hn hlt := by
    -- what is new is either new since the middle or finished there already
    by_cases hmid : n < c'.schemas.size
    · rw [h'.progress n hmid]
      exact h.complete n hn hmid
    · exact h'.complete n (Nat.le_of_not_lt hmid) hlt

theorem Steady.settles (h : c.Steady later) : c.Settles later where
  size_le := Nat.le_of_eq h.size_eq.symm
  progress i _ := h.progress_eq i
  linked := h.linked
  complete _ hn hlt := absurd hlt (Nat.not_lt.2 (h.size_eq ▸ hn))

theorem Settles.refl (c : Collection) : c.Settles c := (Steady.refl c).settles

theorem Advances.refl (c : Collection) : c.Advances c := (Settles.refl c).toAdvances

/-- A reference to a document is listed with a target that is registered. -/
theorem Settles.addExternal {e : ExternalRef}
    (he : c.Linked → ∀ m, e.target = some m → m < c.schemas.size) (n : Nat) :
    c.Settles (c.addItem n (.external e)) := by
  have hsize : (c.addItem n (.external e)).schemas.size = c.schemas.size := size_modify
  have hprogress : ∀ i, (c.addItem n (.external e)).progress? i = c.progress? i := by
    intro i
    unfold progress? addItem
    rw [schemas_modify]
    split
    · rw [Option.map_map]
      rfl
    · rfl
  refine ⟨⟨Nat.le_of_eq hsize.symm, fun i _ => hprogress i, fun hc => ⟨?_, ?_, ?_⟩⟩, ?_⟩
  · exact hc.numbered.modify fun _ => rfl
  · intro i s' hs' e' he' m hm
    rw [hsize]
    obtain ⟨s, hs, rfl⟩ := schemas_modify_some hs'
    split at he'
    · have hexternals : (s.addItem (.external e)).externals = s.externals ++ [e] := by
        unfold Schema.externals Schema.addItem
        rw [List.filterMap_append]
        rfl
      rw [hexternals] at he'
      rcases List.mem_append.1 he' with he' | he'
      · exact hc.target i s hs e' he' m hm
      · rw [List.mem_singleton.1 he'] at hm
        exact he hc m hm
    · exact hc.target i s hs e' he' m hm
  · intro uri m hm
    rw [hsize]
    exact hc.known uri m hm
  · intro i hi hlt
    exact absurd hlt (Nat.not_lt.2 (hsize ▸ hi))

theorem Advances.push {s : Schema} (hnumber : s.number = c.schemas.size)
    (hitems : s.items = []) : c.Advances (c.push s) := by
  have hsize : (c.push s).schemas.size = c.schemas.size + 1 := Array.size_push _
  refine ⟨by omega, ?_, fun hc => ⟨hc.numbered.push hnumber, ?_, ?_⟩⟩
  · intro i hi
    unfold progress?
    rw [schemas_push, if_neg (Nat.ne_of_lt hi)]
  · intro i t ht e he m hm
    rw [schemas_push] at ht
    split at ht
    · cases ht
      rw [Schema.externals, hitems] at he
      cases he
    · have := hc.target i t ht e he m hm
      omega
  · intro uri m hm
    have := hc.known uri m hm
    omega

/-- When all that a document refers to has been finished, so is its schema. -/
theorem Settles.finish {s : Schema} (hnumber : s.number = c.schemas.size)
    (hitems : s.items = []) (h : (c.push s).Settles later) :
    c.Settles (later.modify c.schemas.size fun s => { s with progress := .complete }) := by
  have hsize : (c.push s).schemas.size = c.schemas.size + 1 := Array.size_push _
  have hle := h.size_le
  have hpush := Advances.push hnumber hitems
  have hsize' : (later.modify c.schemas.size fun s =>
      { s with progress := .complete }).schemas.size = later.schemas.size := size_modify
  have hother : ∀ i, i ≠ c.schemas.size → (later.modify c.schemas.size fun s =>
      { s with progress := .complete }).progress? i = later.progress? i := by
    intro i hi
    unfold progress?
    rw [schemas_modify, if_neg (Ne.symm hi)]
  refine ⟨⟨by omega, ?_, fun hc => ?_⟩, ?_⟩
  · intro i hi
    rw [hother i (Nat.ne_of_lt hi), h.progress i (by omega), hpush.progress i hi]
  · have hlater := h.linked (hpush.linked hc)
    refine ⟨hlater.numbered.modify fun _ => rfl, ?_, ?_⟩
    · intro i t' ht' e he m hm
      rw [hsize']
      obtain ⟨t, ht, rfl⟩ := schemas_modify_some ht'
      refine hlater.target i t ht e ?_ m hm
      split at he <;> exact he
    · intro uri m hm
      rw [hsize']
      exact hlater.known uri m hm
  · intro i hi hlt
    rw [hsize'] at hlt
    by_cases hlast : i = c.schemas.size
    · subst hlast
      unfold progress?
      rw [schemas_modify, if_pos rfl, Array.getElem?_eq_getElem hlt]
      rfl
    · rw [hother i hlast]
      exact h.complete i (by omega) hlt

end Advances

end Collection

namespace Compose

open Collection

variable {env : Environment} {w w' : Workspace} {cx : Context} {α β : Type}

/-- A step ends well with all that is new finished, and when it fails it has
taken no schema further that was there before. -/
def Finishes (m : Compose α) (w : Workspace) (Q : α → Workspace → Prop) : Prop :=
  Ends m w (fun a w' => w.collection.Settles w'.collection ∧ Q a w')
    (fun _ w' => w.collection.Advances w'.collection)

/-- The number of a schema, if it is anything. -/
def Named (w : Workspace) (found : Option Nat) : Prop :=
  ∀ n, found = some n → n < w.collection.schemas.size

namespace Finishes

variable {Q : α → Workspace → Prop} {R : β → Workspace → Prop}

theorem of_throw (e : SchemaError) : Finishes (throw e : Compose α) w Q := Advances.refl _

theorem of_pure {a : α} (ha : Q a w) : Finishes (pure a : Compose α) w Q := ⟨.refl _, ha⟩

theorem bind {m : Compose α} {f : α → Compose β} (hm : Finishes m w Q)
    (hf : ∀ a w', w.collection.Settles w'.collection → Q a w' → Finishes (f a) w' R) :
    Finishes (m >>= f) w R := by
  refine (ends_bind m f).2 (Ends.mono hm ?_ fun _ _ he => he)
  rintro a w' ⟨hw', ha⟩
  refine Ends.mono (hf a w' hw' ha) ?_ ?_
  · rintro b w'' ⟨hw'', hb⟩
    exact ⟨hw'.trans hw'', hb⟩
  · intro e w'' hw''
    exact hw'.toAdvances.trans hw''

theorem get_bind {f : Workspace → Compose β} (h : Finishes (f w) w R) :
    Finishes (get >>= f) w R := (ends_bind _ _).2 h

theorem mono {Q' : α → Workspace → Prop} {m : Compose α} (hm : Finishes m w Q)
    (hQ : ∀ a w', Q a w' → Q' a w') : Finishes m w Q' :=
  Ends.mono hm (fun a w' h => ⟨h.1, hQ a w' h.2⟩) fun _ _ he => he

/-- A change of the collection in which nothing begins. -/
theorem of_update {f : Collection → Collection} (h : w.collection.Settles (f w.collection)) :
    Finishes (update f) w fun _ _ => True := ⟨h, trivial⟩

end Finishes

/-- The search for a document leaves the collection as it is. -/
theorem fetch_keeps (env : Environment) (r : Request) (w : Workspace) :
    Ends (fetch env r) w (fun _ w' => w'.collection = w.collection)
      (fun _ w' => w'.collection = w.collection) := by
  have hask : ∀ w₁ : Workspace, w₁.collection = w.collection →
      Ends (ask env r) w₁ (fun _ w' => w'.collection = w.collection)
        (fun _ w' => w'.collection = w.collection) :=
    fun w₁ hw₁ => ask_ends (fun _ _ => hw₁) (fun _ => hw₁) fun _ _ => hw₁
  exact fetch_ends_of (fun _ => hask w rfl) (fun _ _ => hask _ rfl) fun _ _ _ _ => rfl

theorem fetch_finishes (env : Environment) (r : Request) (w : Workspace) :
    Finishes (fetch env r) w fun _ _ => True :=
  (fetch_keeps env r w).mono (fun _ _ h => ⟨h ▸ .refl _, trivial⟩) fun _ _ h => h ▸ .refl _

theorem onBench_finishes (n : Nat) (reader : Attempt Workbench α) (w : Workspace) :
    Finishes (onBench n reader) w fun _ _ => True := by
  have hsteady := Steady.absorb (c := w.collection) n
    (exec reader { components := w.collection.components n }).2
  unfold Finishes Ends
  rw [Plan.exec_onBench]
  cases (exec reader { components := w.collection.components n }).1 with
  | error e => exact hsteady.settles.toAdvances
  | ok a => exact ⟨hsteady.settles, trivial⟩

/-- The building of documents finishes what it registers. -/
def Completes (build : Build) : Prop :=
  ∀ w source parent inherited, w.collection.Linked →
    Finishes (build source parent inherited) w fun n w' => Named w' (some n)

theorem resolveNested_finishes {build : Build} (hbuild : Completes build)
    (hw : w.collection.Linked) (r : Request) (parent : Option SchemaKey)
    (inherited : Option String) :
    Finishes (resolveNested env build r parent inherited) w fun found w' => Named w' found := by
  unfold resolveNested
  refine (fetch_finishes env r w).bind fun source w₁ hw₁ _ => ?_
  have hlinked := hw₁.linked hw
  cases source with
  | none => exact .of_pure nofun
  | some source =>
      refine .get_bind ?_
      cases hn : w₁.collection.number? (keyOf source inherited) with
      | some n =>
          obtain ⟨s, hs, -⟩ := exists_of_number? hlinked.numbered hn
          refine .of_pure fun m hm => ?_
          cases hm
          exact (Array.getElem?_eq_some_iff.1 hs).1
      | none =>
          refine (hbuild w₁ source parent inherited hlinked).bind fun n w₂ _ hn₂ => ?_
          exact .of_pure hn₂

theorem listExternal_finishes (scope : Scope) (d : Draft) (children : List Xml.Node)
    (target : Collection → Option Nat) (htarget : Named w (target w.collection)) :
    Finishes (listExternal cx scope d children target) w fun _ _ => True := by
  unfold listExternal
  refine .get_bind ((onBench_finishes cx.schema _ w).bind fun draft w₁ hw₁ _ => ?_)
  split
  · exact .of_update (.addExternal (fun _ m hm =>
      Nat.lt_of_lt_of_le (htarget m hm) hw₁.size_le) cx.schema)
  · exact .of_pure trivial

theorem seek_finishes {build : Build} (hbuild : Completes build) (hw : w.collection.Linked)
    (cx : Context) (e : ExternalRef) :
    Finishes (seek env build cx e) w fun found w' => Named w' found := by
  unfold seek
  split
  · exact .of_pure nofun
  · exact resolveNested_finishes hbuild hw _ _ _

/-- The target of a reference is what its location has led to, or a schema that
stands in for its namespace. -/
theorem targetIn_named (hw : w.collection.Linked) (e : ExternalRef) {found : Option Nat}
    (hfound : Named w found) : Named w (e.targetIn found w.collection) := by
  intro m hm
  cases found with
  | some n => exact hfound m hm
  | none =>
      replace hm : (if e.kind = .importation then
        w.collection.known? (e.namespaceName.getD "") else none) = some m := hm
      split at hm
      · exact hw.known _ m hm
      · cases hm

theorem external_finishes {build : Build} (hbuild : Completes build) (hw : w.collection.Linked)
    (scope : Scope) (kind : ExternalKind) (e : Xml.Element) :
    Finishes (external env build cx scope kind e) w fun _ _ => True := by
  rw [external_eq]
  refine (onBench_finishes cx.schema _ w).bind fun draft w₁ hw₁ _ => ?_
  have hlinked₁ := hw₁.linked hw
  refine (seek_finishes hbuild hlinked₁ cx _).bind fun found w₂ hw₂ hfound => ?_
  exact listExternal_finishes _ draft e.children _
    (targetIn_named (hw₂.linked hlinked₁) _ hfound)

theorem meet_finishes (cx : Context) (content : ForeignContent) (w : Workspace) :
    Finishes (meet cx content) w fun _ _ => True := by
  unfold meet Finishes
  rw [ends_bind, ends_modify]
  split
  · have hsteady : w.collection.Steady (w.collection.modify cx.schema fun s =>
        { s with foreign := s.foreign ++ [content] }) := .modify fun _ => rfl
    exact ⟨hsteady.settles, trivial⟩
  · exact ⟨.refl _, trivial⟩

theorem enlist_finishes (cx : Context) (p : Part) (w : Workspace) :
    Finishes (enlist cx p) w fun _ _ => True := by
  cases p with
  | note a =>
      have hsteady : w.collection.Steady (w.collection.addItem cx.schema (.note a)) :=
        .addItem rfl cx.schema
      exact ⟨hsteady.settles, trivial⟩
  | component ref =>
      unfold enlist attempt
      refine .get_bind ?_
      dsimp only
      cases hc : w.collection.enlist ref.id with
      | error e => exact Advances.refl _
      | ok c => exact ⟨(Steady.enlist hc).settles, trivial⟩
  | _ => exact .of_pure trivial

theorem topLevelChild_finishes {build : Build} (hbuild : Completes build)
    (hw : w.collection.Linked) (scope : Scope) (e : Xml.Element) :
    Finishes (topLevelChild env build cx scope e) w fun _ _ => True := by
  unfold topLevelChild
  split
  · exact .of_pure trivial
  · exact meet_finishes cx _ w
  · exact external_finishes hbuild hw scope _ e
  · split
    · exact .of_pure trivial
    · exact (onBench_finishes cx.schema _ w).bind fun part w₁ _ _ => enlist_finishes cx part w₁

theorem topLevelPass_finishes {build : Build} (hbuild : Completes build)
    (hw : w.collection.Linked) (scope : Scope) (elements : List Xml.Element) :
    Finishes (topLevelPass env build cx scope elements) w fun _ _ => True := by
  induction elements generalizing w with
  | nil => exact .of_pure trivial
  | cons e rest ih =>
      exact (topLevelChild_finishes hbuild hw scope e).bind fun _ w₁ hw₁ _ =>
        ih (hw₁.linked hw)

/-- A document whose building succeeds is finished, with all that it has led
to; the building of a document that was there already begins nothing. -/
theorem buildSource_completes (env : Environment) (fuel : Nat) :
    Completes (buildSource env fuel) := by
  induction fuel with
  | zero => exact fun w source parent inherited _ => .of_throw _
  | succ fuel ih =>
      intro w source parent inherited hw
      unfold Finishes Ends
      cases hroot : source.document.tag.is schemaNamespace "schema" with
      | false =>
          rw [exec_buildSource_of_not_schema env parent hroot]
          exact .refl _
      | true =>
          cases hnew : w.collection.schema? (keyOf source inherited) with
          | some s =>
              rw [exec_buildSource_of_registered env parent hroot (by rw [hnew]; rfl)]
              exact .refl _
          | none =>
              let root := rootSchema env.policy w.collection.schemas.size source parent inherited
              have hpush : w.collection.Advances (w.collection.push root) := .push rfl rfl
              let scope := (Scope.inherited (fallback w source parent inherited)).enter
                source.document.tag.declared
              have hpass : Finishes (topLevelPass env (buildSource env fuel)
                  (Context.ofSchema root env.policy) scope source.document.childElements)
                  (opened env w source parent inherited) fun _ _ => True :=
                topLevelPass_finishes ih (hpush.linked hw) scope source.document.childElements
              rw [exec_buildSource env parent hroot hnew fuel]
              unfold Finishes Ends at hpass
              split at hpass
              · rename_i w₂ heq
                rw [heq]
                have hfinish := Settles.finish (s := root) rfl rfl hpass.1
                refine ⟨hfinish, fun n hn => ?_⟩
                cases hn
                have hsize : (w.collection.push root).schemas.size =
                    w.collection.schemas.size + 1 := Array.size_push _
                have hle := hpass.1.size_le
                show _ < (w₂.collection.modify _ _).schemas.size
                rw [size_modify]
                exact Nat.lt_of_lt_of_le (hsize ▸ Nat.lt_succ_self _) hle
              · rename_i e w₂ heq
                rw [heq]
                exact hpush.trans hpass

theorem build_finishes (env : Environment) (d : Located) (hw : w.collection.Linked) :
    Finishes (build env d) w fun n w' => Named w' (some n) := by
  unfold build issue Finishes
  rw [ends_bind, ends_modifyGet]
  exact buildSource_completes env _ { w with nextTicket := w.nextTicket + 1 } _ none none hw

theorem buildText_finishes (env : Environment) (locator text : String)
    (hw : w.collection.Linked) :
    Finishes (buildText env locator text) w fun n w' => Named w' (some n) := by
  unfold buildText
  split
  · exact .of_throw _
  · exact build_finishes env _ hw

theorem readLocation_finishes (env : Environment) (location : String) (base : Option String)
    (hw : w.collection.Linked) :
    Finishes (readLocation env location base) w fun found w' => Named w' found :=
  resolveNested_finishes (buildSource_completes env _) hw _ none none

end Compose

/-- A call that reads documents into a collection.  The collection apart, the
workspace in which it begins is its own. -/
structure Call where
  env : Environment
  around : Workspace
  reading : Reading

namespace Call

/-- The answer of a call, and the collection that it leaves. -/
def perform (call : Call) (c : Collection) : Except SchemaError (Option Nat) × Collection :=
  let (answer, w) := exec (call.reading.run call.env) { call.around with collection := c }
  (answer, w.collection)

/-- The collection after some calls. -/
def performAll (calls : List Call) (c : Collection) : Collection :=
  calls.foldl (fun c call => (call.perform c).2) c

/-- A call fails and leaves a schema unfinished that it has registered. -/
def Abandons (call : Call) (c : Collection) (n : Nat) : Prop :=
  (∃ e, (call.perform c).1 = .error e) ∧ c.schemas.size ≤ n ∧
    ∃ s, (call.perform c).2.schemas[n]? = some s ∧ s.progress ≠ .complete

/-- One of some calls has failed and left a schema unfinished. -/
def LeftBehind (calls : List Call) (c : Collection) (n : Nat) : Prop :=
  ∃ before call rest, calls = before ++ call :: rest ∧ call.Abandons (performAll before c) n

variable {call : Call} {calls : List Call} {c : Collection} {n : Nat}

theorem performAll_concat (calls : List Call) (call : Call) (c : Collection) :
    performAll (calls ++ [call]) c = (call.perform (performAll calls c)).2 := by
  unfold performAll
  rw [List.foldl_append]
  rfl

theorem leftBehind_concat :
    LeftBehind (calls ++ [call]) c n ↔
      LeftBehind calls c n ∨ call.Abandons (performAll calls c) n := by
  constructor
  · rintro ⟨before, failed, rest, hcalls, habandons⟩
    rcases List.eq_nil_or_concat rest with rfl | ⟨init, last, rfl⟩
    · obtain ⟨rfl, hlast⟩ := List.append_inj' hcalls rfl
      cases hlast
      exact .inr habandons
    · rw [List.concat_eq_append, ← List.cons_append, ← List.append_assoc] at hcalls
      obtain ⟨rfl, -⟩ := List.append_inj' hcalls rfl
      exact .inl ⟨before, failed, init, rfl, habandons⟩
  · rintro (⟨before, failed, rest, rfl, habandons⟩ | habandons)
    · exact ⟨before, failed, rest ++ [call], by simp, habandons⟩
    · exact ⟨calls, call, [], rfl, habandons⟩

theorem run_finishes (reading : Reading) (env : Environment) {w : Workspace}
    (hw : w.collection.Linked) :
    Compose.Finishes (reading.run env) w fun found w' => Compose.Named w' found := by
  cases reading with
  | document d =>
      exact (Compose.build_finishes env d hw).bind fun n w' _ hn => .of_pure hn
  | text locator content =>
      exact (Compose.buildText_finishes env locator content hw).bind fun n w' _ hn => .of_pure hn
  | location place base => exact Compose.readLocation_finishes env place base hw

/-- A call that succeeds finishes what it registers and answers, if at all,
with the number of a schema. -/
theorem perform_ok (h : c.Linked) {found : Option Nat} (hanswer : (call.perform c).1 = .ok found) :
    c.Settles (call.perform c).2 ∧
      ∀ n, found = some n → n < (call.perform c).2.schemas.size := by
  have hends := run_finishes call.reading call.env (w := { call.around with collection := c }) h
  unfold Compose.Finishes at hends
  exact hends.of_ok (Prod.ext hanswer rfl)

theorem perform_advances (h : c.Linked) : c.Advances (call.perform c).2 := by
  have hends := run_finishes call.reading call.env (w := { call.around with collection := c }) h
  unfold Compose.Finishes at hends
  exact Ends.state (R := fun w' => c.Advances w'.collection)
    (hends.mono (fun _ _ h => h.1.toAdvances) fun _ _ h => h)

/-- What is finished and what is not after some calls from a collection in
which all is finished. -/
structure Accounts (c : Collection) (calls : List Call) (later : Collection) : Prop where
  linked : later.Linked
  leftBehind_lt : ∀ n, LeftBehind calls c n → n < later.schemas.size
  complete_iff : ∀ (n : Nat) (s : Schema), later.schemas[n]? = some s →
    (s.progress = .complete ↔ ¬ LeftBehind calls c n)

/-- One more call accounts for what it registers: all of it is finished if the
call succeeds, and what is not has been left behind if it fails. -/
theorem Accounts.perform (h : Accounts c calls (performAll calls c)) (call : Call) :
    Accounts c (calls ++ [call]) (call.perform (performAll calls c)).2 := by
  have hadvances : (performAll calls c).Advances (call.perform (performAll calls c)).2 :=
    perform_advances h.linked
  refine ⟨hadvances.linked h.linked, ?_, ?_⟩
  · intro n hn
    rcases leftBehind_concat.1 hn with hn | ⟨-, -, s, hs, -⟩
    · exact Nat.lt_of_lt_of_le (h.leftBehind_lt n hn) hadvances.size_le
    · exact (Array.getElem?_eq_some_iff.1 hs).1
  · intro n s hs
    rw [leftBehind_concat]
    by_cases hold : n < (performAll calls c).schemas.size
    · -- an earlier schema keeps its progress, and the call cannot abandon it
      have hprogress := hadvances.progress n hold
      have hearlier := Array.getElem?_eq_getElem hold
      unfold Collection.progress? at hprogress
      rw [hs, hearlier, Option.map_some, Option.map_some, Option.some.injEq] at hprogress
      have hnot : ¬ call.Abandons (performAll calls c) n :=
        fun habandons => absurd hold (Nat.not_lt.2 habandons.2.1)
      rw [hprogress, h.complete_iff n _ hearlier, or_iff_left hnot]
    · have hnew := Nat.le_of_not_lt hold
      have hnot : ¬ LeftBehind calls c n := fun hn => hold (h.leftBehind_lt n hn)
      rw [or_iff_right hnot]
      cases hanswer : (call.perform (performAll calls c)).1 with
      | ok found =>
          have hcomplete := (perform_ok h.linked hanswer).1.complete n hnew
            (Array.getElem?_eq_some_iff.1 hs).1
          unfold Collection.progress? at hcomplete
          rw [hs, Option.map_some, Option.some.injEq] at hcomplete
          refine iff_of_true hcomplete ?_
          rintro ⟨⟨e, he⟩, -⟩
          rw [hanswer] at he
          cases he
      | error e =>
          constructor
          · rintro hcomplete ⟨-, -, s', hs', hunfinished⟩
            cases Option.some.inj (hs.symm.trans hs')
            exact hunfinished hcomplete
          · intro hnot
            by_contra hunfinished
            exact hnot ⟨⟨e, hanswer⟩, hnew, s, hs, hunfinished⟩

theorem linked_empty : Collection.empty.Linked where
  numbered i s hs := by
    obtain ⟨rfl, rfl⟩ := Collection.schemas_empty hs
    rfl
  target i s hs e he := by
    obtain ⟨rfl, rfl⟩ := Collection.schemas_empty hs
    cases he
  known uri m hm := by cases hm

/-- What calls have made of the built-in types. -/
theorem accounts_performAll (calls : List Call) :
    Accounts .empty calls (performAll calls .empty) := by
  induction calls using List.reverseRecOn with
  | nil =>
      have hnothing : ∀ n, ¬ LeftBehind [] .empty n := by
        rintro n ⟨before, call, rest, hcalls, -⟩
        exact absurd hcalls.symm (List.append_ne_nil_of_right_ne_nil _ (List.cons_ne_nil _ _))
      refine ⟨linked_empty, fun n hn => absurd hn (hnothing n), fun n s hs => ?_⟩
      obtain ⟨-, rfl⟩ := Collection.schemas_empty hs
      exact iff_of_true rfl (hnothing n)
  | append_singleton calls call ih =>
      rw [performAll_concat]
      exact ih.perform call

end Call

namespace Collection

/-- When a call that follows others answers with a schema, that schema and
every one that can be reached from it is registered, and it is finished exactly
when none of the earlier calls has left it behind on failing.  Nothing finishes
later what a failed call has left behind, and it is handed out like any other. -/
theorem answered_complete_iff (calls : List Call) (call : Call) {n : Nat}
    (hanswer : (call.perform (Call.performAll calls .empty)).1 = .ok (some n)) :
    ∀ m, Relation.ReflTransGen (call.perform (Call.performAll calls .empty)).2.Refers n m →
      ∃ s, (call.perform (Call.performAll calls .empty)).2.schemas[m]? = some s ∧
        (s.progress = .complete ↔ ¬ Call.LeftBehind calls .empty m) := by
  have hbefore := Call.accounts_performAll calls
  have hafter := hbefore.perform call
  intro m hreach
  have hn := (Call.perform_ok hbefore.linked hanswer).2 n rfl
  have hm := hafter.linked.lt_of_reaches hn hreach
  have hs := Array.getElem?_eq_getElem hm
  refine ⟨_, hs, ?_⟩
  -- the call itself has left nothing behind, since it has succeeded
  have hnot : ¬ call.Abandons (Call.performAll calls .empty) m := by
    rintro ⟨⟨e, he⟩, -⟩
    rw [hanswer] at he
    cases he
  rw [hafter.complete_iff m _ hs, Call.leftBehind_concat, or_iff_left hnot]

/-- A document that uses a prefix without binding it. -/
def unboundDocument : String :=
  "<s:schema xmlns:s=\"http://www.w3.org/2001/XMLSchema\"><s:element name=\"e\" type=\"p:t\"/></s:schema>"

/-- Reading the document at its place. -/
def unboundCall : Call :=
  { env := ⟨.ofDocuments [("a.xsd", unboundDocument)], .keep⟩
    around := {}
    reading := .location "a.xsd" none }

/-- The first call fails and leaves a schema behind, which the second one is
answered with. -/
theorem answered_complete_iff_unbound :
    (unboundCall.perform (Call.performAll [unboundCall] .empty)).1 = .ok (some 1) ∧
      ∃ s, (unboundCall.perform (Call.performAll [unboundCall] .empty)).2.schemas[1]? = some s ∧
        s.progress = .topLevelPass ∧ Call.LeftBehind [unboundCall] .empty 1 := by
  have hanswer : (unboundCall.perform (Call.performAll [unboundCall] .empty)).1 = .ok (some 1) := by
    decide +kernel
  have hprogress : (unboundCall.perform (Call.performAll [unboundCall] .empty)).2.progress? 1 =
      some .topLevelPass := by
    decide +kernel
  obtain ⟨s, hs, hiff⟩ := answered_complete_iff [unboundCall] unboundCall hanswer 1 .refl
  unfold progress? at hprogress
  rw [hs, Option.map_some, Option.some.injEq] at hprogress
  refine ⟨hanswer, s, hs, hprogress, ?_⟩
  by_contra hnot
  exact absurd (hprogress.symm.trans (hiff.2 hnot)) (by decide)

end Collection

end XmlSchema
