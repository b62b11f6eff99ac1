import XmlSchema.Proofs.Collection.Registry
import XmlSchema.Proofs.Document.Facsimile
import XmlSchema.Proofs.Resolution.Walk

/-!
# Building a written document

A written document is built item by item.  So far a copy has been made of every
item that stood before, and of all components that these are made of; each copy
is listed, and registered under the name of its original.
-/

namespace XmlSchema

open Attempt

namespace Collection

/-- The kind and the name of the component that an item lists. -/
def title? (c : Collection) (item : SchemaItem) : Option (ComponentKind × QName) :=
  item.component?.bind fun ref => ((c.get? ref.id).bind ref.kind.nameOf).map (ref.kind, ·)

end Collection

/-- The name that is registered with its kind. -/
def Registration.title (r : Registration) : ComponentKind × QName := (r.kind, r.name)

namespace Tally

open Transcription

variable {c : Collection} {schema : Nat} {O : Tally} {cs : Components} {kind : ComponentKind}
  {copy original : ComponentId kind}

/-- What is taken for its original in any case is a copy of it. -/
theorem mem_of_forall (hex : ∃ f, Follows f O) (h : ∀ f, Follows f O → f kind copy = original) :
    ⟨kind, copy, original⟩ ∈ O := by
  classical
  obtain ⟨f, hf⟩ := hex
  by_contra hmem
  have hnone : ∀ m ∈ O, (⟨m.kind, m.copy⟩ : ComponentRef) ≠ ⟨kind, copy⟩ := by
    rintro ⟨kind', copy', original'⟩ hm heq
    cases heq
    have horiginal : original' = original := (hf _ hm).symm.trans (h f hf)
    exact hmem (horiginal ▸ hm)
  -- nothing keeps the copy from being taken for something else
  let other : ComponentId kind := ⟨original.schema, original.index + 1⟩
  let g := Function.update f kind (Function.update (f kind) copy other)
  have hg : Follows g O := by
    rintro ⟨kind', copy', original'⟩ hm
    have hkeep : g kind' copy' = f kind' copy' := by
      by_cases hkind : kind' = kind
      · subst hkind
        have hcopy : copy' ≠ copy := fun hcopy => hnone _ hm (by rw [hcopy])
        show Function.update f kind' _ kind' copy' = _
        rw [Function.update_self, Function.update_of_ne hcopy]
      · show Function.update f kind _ kind' copy' = _
        rw [Function.update_of_ne hkind]
    exact hkeep.trans (hf _ hm)
  have hother : g kind copy = other := by
    show Function.update f kind _ kind copy = _
    rw [Function.update_self, Function.update_self]
  have heq := congrArg ComponentId.index (hother.symm.trans (h g hg))
  exact absurd heq (Nat.succ_ne_self _)

theorem MatchesPart.component {p : Part} {ref : ComponentRef} (hex : ∃ f, Follows f O)
    (h : MatchesPart O p (.component ref)) :
    ∃ id : ComponentId ref.kind, p = .component ⟨ref.kind, id⟩ ∧ ⟨ref.kind, id, ref.id⟩ ∈ O := by
  obtain ⟨kind, original⟩ := ref
  have hid : ∀ f, Follows f O → (comparing f).part p = .component ⟨kind, original⟩ := h
  obtain ⟨f, hf⟩ := hex
  have hp := hid f hf
  cases p with
  | component r =>
      obtain ⟨kind', id⟩ := r
      obtain rfl : kind' = kind := congrArg ComponentRef.kind (Part.component.inj hp)
      refine ⟨id, rfl, mem_of_forall ⟨f, hf⟩ fun g hg => ?_⟩
      exact eq_of_heq (ComponentRef.mk.inj (Part.component.inj (hid g hg))).2
  | _ => cases hp

/-- A copy is there, and so is its original. -/
theorem Fits.exists_original (h : Fits c schema O cs) (hm : ⟨kind, copy, original⟩ ∈ O) :
    ∃ y x, cs.get? copy = some y ∧ c.get? original = some x ∧
      ∀ f, Follows f O → (comparing f).component kind y = plain.component kind x := by
  have hbounded := h.bounded _ hm
  obtain ⟨original', x, hm', hx, heq⟩ := h.copied kind copy.index _
    (Array.getElem?_eq_getElem hbounded)
  have hcopy : copy = ⟨schema, copy.index⟩ := by
    rw [← show copy.schema = schema from h.within _ hm]
  have hsame := h.functional _ hm _ hm' (by rw [hcopy])
  obtain rfl : original = original' := eq_of_heq (Copy.mk.inj hsame).2.2
  exact ⟨_, x, Array.getElem?_eq_getElem hbounded, hx, heq⟩

end Tally

/-- A schema is what the root of its document has made of it, but for the copies
of some items, of the components that these are made of, and of some names. -/
structure Schema.Remakes (t : Schema) (c : Collection) (first : Schema) (O : Tally)
    (done : List SchemaItem) (named : List (ComponentKind × QName)) : Prop where
  head_eq : t.head = first.head
  foreign_eq : t.foreign = first.foreign
  fits : Tally.Fits c first.number O t.components
  items : ∀ f, Tally.Follows f O →
    t.items.map (Transcription.comparing f).item = done.map Transcription.plain.item
  titles : t.names.map Registration.title = named

namespace Collection

open Transcription

variable {c b : Collection} {first : Schema} {O O' : Tally} {done : List SchemaItem}
  {named : List (ComponentKind × QName)}

/-- There is such a schema in a collection. -/
def Remakes (b c : Collection) (first : Schema) (O : Tally) (done : List SchemaItem)
    (named : List (ComponentKind × QName)) : Prop :=
  ∃ t, b.schemas[first.number]? = some t ∧ t.Remakes c first O done named

namespace Remakes

theorem fits (h : b.Remakes c first O done named) :
    Tally.Fits c first.number O (b.components first.number) := by
  obtain ⟨t, ht, hremakes⟩ := h
  rw [components_of_schema ht]
  exact hremakes.fits

/-- Finding the types of declarations makes no difference. -/
theorem grow {later : Collection} (h : b.Remakes c first O done named)
    (hgrows : b.GrowsInPlace later) (hframe : b.SameFrame later) (hcounts : b.SameCounts later) :
    later.Remakes c first O done named := by
  obtain ⟨t, ht, hremakes⟩ := h
  have heq := hframe first.number
  rw [ht, Option.map_some, Option.map_eq_some_iff] at heq
  obtain ⟨t', ht', heq⟩ := heq
  have hitems : t'.items = t.items := (congrArg Schema.items heq :)
  have hnames : t'.names = t.names := (congrArg Schema.names heq :)
  have hforeign : t'.foreign = t.foreign := (congrArg Schema.foreign heq :)
  have hhead : t'.head = t.head := (congrArg Schema.head heq :)
  refine ⟨t', ht', hhead.trans hremakes.head_eq, hforeign.trans hremakes.foreign_eq, ?_, ?_, ?_⟩
  · have hextends := hgrows.grows.components first.number
    have hcount := hcounts first.number
    rw [components_of_schema ht, components_of_schema ht'] at hextends hcount
    exact hremakes.fits.extend hextends hcount
  · rw [hitems]
    exact hremakes.items
  · rw [hnames]
    exact hremakes.titles

/-- What is read on a workbench is taken over. -/
theorem absorb {bench : Workbench} (h : b.Remakes c first O done named) (hO : O ⊆ O')
    (hfit : Tally.Fits c first.number O' bench.components) :
    (b.absorb first.number bench).Remakes c first O' done named := by
  obtain ⟨t, ht, hremakes⟩ := h
  have hfurnish : (b.furnish first.number bench.components).Remakes c first O' done named := by
    refine ⟨{ t with components := bench.components }, ?_, hremakes.head_eq, hremakes.foreign_eq,
      hfit, fun f hf => hremakes.items f (hf.of_subset hO), hremakes.titles⟩
    rw [furnish, schemas_modify, if_pos rfl, ht]
    rfl
  exact hfurnish.grow (.attachAll _) (.attachAll _) (.attachAll _)

/-- A copy of an item is listed. -/
theorem addItem {item original : SchemaItem} (h : b.Remakes c first O done named)
    (hitem : ∀ f, Tally.Follows f O → (comparing f).item item = plain.item original) :
    (b.addItem first.number item).Remakes c first O (done ++ [original]) named := by
  obtain ⟨t, ht, hremakes⟩ := h
  refine ⟨t.addItem item, ?_, hremakes.head_eq, hremakes.foreign_eq, hremakes.fits, fun f hf => ?_,
    hremakes.titles⟩
  · rw [Collection.addItem, schemas_modify, if_pos rfl, ht]
    rfl
  · rw [List.map_append, Schema.addItem, List.map_append, hremakes.items f hf]
    exact congrArg (fun i => done.map plain.item ++ [i]) (hitem f hf)

/-- A component that has been copied is registered and listed, if its name has
not been given to another one. -/
theorem enlist {ref : ComponentRef} {id : ComponentId ref.kind} {title : ComponentKind × QName}
    (h : b.Remakes c first O done named) (hmem : ⟨ref.kind, id, ref.id⟩ ∈ O)
    (htitle : c.title? (.component ref) = some title) (hfree : title ∉ named) :
    ∃ later, b.enlist id = .ok later ∧
      later.Remakes c first O (done ++ [.component ref]) (named ++ [title]) := by
  obtain ⟨t, ht, hremakes⟩ := h
  obtain ⟨y, x, hy, hx, heq⟩ := hremakes.fits.exists_original hmem
  obtain ⟨f, hf⟩ := hremakes.fits.exists_follows
  have hschema : id.schema = first.number := hremakes.fits.within _ hmem
  have hnumber : t.number = first.number := (congrArg Schema.number hremakes.head_eq :)
  have hbears : ref.kind.nameOf y = ref.kind.nameOf x := by
    rw [← nameOf_component (τ := comparing f), heq f hf, nameOf_component]
  obtain ⟨name, hname, rfl⟩ : ∃ name, ref.kind.nameOf y = some name ∧ (ref.kind, name) = title := by
    rw [title?, show (SchemaItem.component ref).component? = some ref from rfl, Option.bind_some,
      hx, Option.bind_some, ← hbears] at htitle
    exact Option.map_eq_some_iff.1 htitle
  have hget : t.get? id = some y := by
    rw [Schema.get?, if_pos (hschema.trans hnumber.symm)]
    exact hy
  have hlookup : t.lookup? ref.kind name = none := by
    refine Option.eq_none_iff_forall_ne_some.2 fun other hother => hfree ?_
    rw [← hremakes.titles]
    exact List.mem_map_of_mem (Schema.mem_of_lookup? hother)
  have henroll : (b.enroll id name).Remakes c first O done (named ++ [(ref.kind, name)]) := by
    refine ⟨{ t with names := t.names ++ [⟨ref.kind, name, id.index⟩] }, ?_, hremakes.head_eq,
      hremakes.foreign_eq, hremakes.fits, hremakes.items, ?_⟩
    · rw [enroll, schemas_modify, if_pos hschema, ht]
      rfl
    · rw [List.map_append, hremakes.titles]
      rfl
  have hsettle := henroll.grow (.settle name id) (.settle name id) (.settle name id)
  have hitem : ∀ g, Tally.Follows g O →
      (comparing g).item (.component ⟨ref.kind, id⟩) = plain.item (.component ref) := by
    intro g hg
    show SchemaItem.component ⟨ref.kind, g ref.kind id⟩ = .component ⟨ref.kind, ref.id⟩
    rw [hg _ hmem]
  have hlisted := hsettle.addItem hitem
  refine ⟨_, ?_, hlisted⟩
  unfold Collection.enlist
  rw [register_of_free (hschema.symm ▸ ht) hget hname hlookup, ← hschema]
  rfl

/-- Nor does how far the reading has come. -/
theorem finish (h : b.Remakes c first O done named) :
    (b.modify first.number fun s => { s with progress := .complete }).Remakes c first O done
      named := by
  obtain ⟨t, ht, hremakes⟩ := h
  refine ⟨{ t with progress := .complete }, ?_, hremakes.head_eq, hremakes.foreign_eq,
    hremakes.fits, hremakes.items, hremakes.titles⟩
  rw [schemas_modify, if_pos rfl, ht]
  rfl

end Remakes

end Collection

theorem Spelling.exists_of_itemReadAs {c : Collection} {cx : Context} {i : SchemaItem}
    {outer : Xml.Meaning} {node : Xml.Node} (h : (itemReadAs c cx i).Holds outer node) :
    ∃ e, node = Xml.Node.ofElement e := by
  cases i with
  | note a =>
      obtain ⟨e, he, -⟩ := h
      exact ⟨e, he⟩
  | external r =>
      obtain ⟨e, he, -⟩ := h
      exact ⟨e, he⟩
  | component ref =>
      obtain ⟨x, -, e, he, -⟩ := h
      exact ⟨e, he⟩

namespace Compose

open Transcription Tally

variable {env : Environment} {build : Build} {c : Collection} {cx : Context} {first : Schema}
  {O : Tally} {done : List SchemaItem} {w : Workspace} {outer : Xml.Meaning} {scope : Scope}
  {α : Type}

/-- A workspace without a cache in which some items have been copied. -/
structure Remade (c : Collection) (first : Schema) (done : List SchemaItem) (O : Tally)
    (w : Workspace) : Prop where
  cache_eq : w.cache = none
  remakes : w.collection.Remakes c first O done (done.filterMap c.title?)

/-- A step never fails, and leaves copies of some items. -/
def Remakes (c : Collection) (first : Schema) (O : Tally) (m : Compose α) (w : Workspace)
    (done : List SchemaItem) (Q : Tally → α → Prop) : Prop :=
  Ends m w (fun a w' => ∃ O', O ⊆ O' ∧ Remade c first done O' w' ∧ Q O' a) fun _ _ => False

theorem onBench_remakes (hcx : cx.schema = first.number) (h : Remade c first done O w)
    {reader : Attempt Workbench α} {Q : Tally → α → Prop}
    (hreader : ∀ bench : Workbench, Fits c cx.schema O bench.components →
      Reader.Copies c cx O bench reader Q) :
    Remakes c first O (onBench cx.schema reader) w done Q := by
  have hread := hreader { components := w.collection.components cx.schema }
    (hcx ▸ h.remakes.fits)
  unfold Reader.Copies Ends at hread
  unfold Remakes Ends
  rw [Plan.exec_onBench]
  rcases hexec : exec reader { components := w.collection.components cx.schema } with ⟨e | a, bench⟩
  all_goals rw [hexec] at hread
  · exact hread
  · obtain ⟨O', hO, hfit, ha⟩ := hread
    rw [hcx] at hfit ⊢
    exact ⟨O', hO, ⟨h.cache_eq, h.remakes.absorb hO hfit⟩, ha⟩

theorem Remakes.bind {β : Type} {m : Compose α} {f : α → Compose β} {Q : Tally → α → Prop}
    {R : Tally → β → Prop} {more : List SchemaItem} (h : Remakes c first O m w done Q)
    (hf : ∀ O' a w', O ⊆ O' → Remade c first done O' w' → Q O' a →
      Remakes c first O' (f a) w' more R) : Remakes c first O (m >>= f) w more R := by
  refine Ends.bind h ?_
  rintro a w' ⟨O', hO, hremade, ha⟩
  refine (hf O' a w' hO hremade ha).mono ?_ fun _ _ h => h
  rintro b w'' ⟨O'', hO', hremade', hb⟩
  exact ⟨O'', List.Subset.trans hO hO', hremade', hb⟩

theorem Remade.addItem (hcx : cx.schema = first.number) (h : Remade c first done O w)
    {item original : SchemaItem} (htitle : c.title? original = none)
    (hitem : ∀ f, Follows f O → (comparing f).item item = plain.item original) :
    Remade c first (done ++ [original]) O
      { w with collection := w.collection.addItem cx.schema item } where
  cache_eq := h.cache_eq
  remakes := by
    rw [List.filterMap_append, List.filterMap_cons, htitle, List.filterMap_nil, List.append_nil,
      hcx]
    exact h.remakes.addItem hitem

/-- A construct is read as a copy, which is listed. -/
theorem construct_remakes (hcx : cx.schema = first.number) (h : Remade c first done O w)
    {construct : Construct} {role : Role} {p : Part} {e : Xml.Element} (hscope : scope.Serves outer)
    (hrole : Role.ofTopLevel? construct = some role)
    (hreads : Reader.Says c cx construct role p outer e) {more : List SchemaItem}
    (henlist : ∀ O' p' w', MatchesPart O' p' p → Remade c first done O' w' →
      Remakes c first O' (enlist cx p') w' more fun _ _ => True) :
    Remakes c first O (topLevelChild env build cx scope e) w more fun _ _ => True := by
  have hread := onBench_remakes hcx h fun bench hfit => hreads.2 scope hscope O bench hfit
  have hsteps := hread.bind fun O' p' w' _ hremade hp => henlist O' p' w' hp hremade
  have hclass := hreads.1
  unfold topLevelChild
  cases construct <;> cases hrole <;> simp only [hclass, Role.ofTopLevel?] <;> exact hsteps

theorem note_remakes (hcx : cx.schema = first.number) (h : Remade c first done O w)
    {a : Annotation} {e : Xml.Element} (hscope : scope.Serves outer)
    (hreads : Reader.Says c cx .note .note (.note a) outer e) :
    Remakes c first O (topLevelChild env build cx scope e) w (done ++ [.note a])
      fun _ _ => True := by
  refine construct_remakes hcx h hscope rfl hreads fun O' p w' hp hremade => ?_
  obtain ⟨f, hf⟩ := hremade.remakes.fits.exists_follows
  have hpart := hp f hf
  cases p with
  | note a' =>
      exact ⟨O', List.Subset.refl O', hremade.addItem hcx rfl fun g hg =>
        congrArg SchemaItem.note (Part.note.inj (hp g hg)), trivial⟩
  | _ => cases hpart

theorem component_remakes (hcx : cx.schema = first.number) (h : Remade c first done O w)
    {ref : ComponentRef} {construct : Construct} {role : Role} {e : Xml.Element}
    (hscope : scope.Serves outer) (hrole : Role.ofTopLevel? construct = some role)
    (hreads : Reader.Says c cx construct role (.component ref) outer e)
    {title : ComponentKind × QName} (htitle : c.title? (.component ref) = some title)
    (hfree : title ∉ done.filterMap c.title?) :
    Remakes c first O (topLevelChild env build cx scope e) w (done ++ [.component ref])
      fun _ _ => True := by
  refine construct_remakes hcx h hscope hrole hreads fun O' p w' hp hremade => ?_
  obtain ⟨id, rfl, hmem⟩ := hp.component hremade.remakes.fits.exists_follows
  obtain ⟨later, hlater, hremakes⟩ := hremade.remakes.enlist hmem htitle hfree
  unfold enlist attempt Remakes
  rw [ends_bind, ends_get]
  dsimp only
  rw [hlater]
  refine ⟨O', List.Subset.refl O', ⟨hremade.cache_eq, ?_⟩, trivial⟩
  rw [List.filterMap_append, List.filterMap_cons, htitle]
  exact hremakes

/-- A reference that a construct can be begins as it was. -/
theorem reference_eq_begun {e : ExternalRef} {t : Xml.Tag} (hplain : e.Plain)
    (ht : ∀ name, t.attribute? name = Writer.valueOf? e.pairs name) :
    reference e.kind t = e.begun.untargeted := by
  have hlocation : t.attribute? "schemaLocation" = e.location := by
    rw [ht]
    simp [ExternalRef.pairs, Writer.valueOf?_cons, Writer.valueOf?_nil]
  have hnamespace (hkind : e.kind = .importation) :
      t.attribute? "namespace" = e.namespaceName := by
    rw [ht]
    simp [ExternalRef.pairs, hkind, Writer.valueOf?_cons, Writer.valueOf?_nil]
  have hid : t.attribute? "id" = e.common.xmlId := by
    rw [ht]
    simp [ExternalRef.pairs, Writer.valueOf?_cons, Writer.valueOf?_nil]
  rw [reference_of_attributes hplain hlocation hnamespace, hid]
  rfl

section External

variable (hnothing : ∀ r, env.resolver.answer r = .ok none)
include hnothing

theorem seek_remakes (h : Remade c first done O w) (e : ExternalRef) :
    Remakes c first O (seek env build cx e) w done fun _ _ => True := by
  have hsame : ∀ requests, Remade c first done O { w with requests } := fun _ =>
    ⟨h.cache_eq, h.remakes⟩
  unfold seek
  split
  · exact ⟨O, List.Subset.refl O, h, trivial⟩
  · unfold resolveNested Remakes
    rename_i l _
    have hfetch : Ends (fetch env (e.requestIn cx.key l)) w
        (fun found w' => found = none ∧ Remade c first done O w') fun _ _ => False := by
      refine fetch_ends_of (fun _ => ask_ends ?_ ?_ ?_) ?_ ?_
      · intro e' he'
        rw [hnothing] at he'
        cases he'
      · exact fun _ => ⟨rfl, hsame _⟩
      · intro d hd
        rw [hnothing] at hd
        cases hd
      · intro cache hcache
        rw [h.cache_eq] at hcache
        cases hcache
      · intro cache source hcache
        rw [h.cache_eq] at hcache
        cases hcache
    refine hfetch.bind ?_
    rintro found w' ⟨rfl, hremade⟩
    exact ⟨O, List.Subset.refl O, hremade, trivial⟩

theorem external_remakes (hcx : cx.schema = first.number) (hkeep : cx.policy = .keep)
    (h : Remade c first done O w) {e : ExternalRef} {el : Xml.Element} (hplain : e.Plain)
    (hscope : scope.Serves outer) (hformed : Reader.Formed c cx (.external e.kind) e.pairs
      (.external e.begun) (.external e) outer el) :
    Remakes c first O (topLevelChild env build cx scope el) w (done ++ [.external e])
      fun _ _ => True := by
  obtain ⟨contents, hcontents, -, hadds⟩ := hformed.completes
  have hinner : (scope.enter el.tag.declared).Serves outer :=
    hformed.declared ▸ hscope.enter_empty
  have hbegun : Matches O (.external (reference e.kind el.tag)) (.external e.begun) := by
    rw [reference_eq_begun hplain hformed.attribute?]
    exact fun _ _ => rfl
  unfold topLevelChild
  rw [hformed.class_eq]
  dsimp only
  rw [external_eq]
  refine (onBench_remakes hcx h fun bench hfit => Reader.meetAll_copies hkeep hfit
    hbegun hcontents).bind fun O₁ d w₁ _ hw₁ hd => ?_
  refine (seek_remakes hnothing hw₁ _).bind fun O₂ found w₂ hO₂ hw₂ _ => ?_
  unfold listExternal
  refine Remakes.bind (Q := fun _ _ => True) ⟨O₂, List.Subset.refl O₂, hw₂, trivial⟩
    fun O₃ collection w₃ hO₃ hw₃ _ => ?_
  have hd₃ := (hd.grow hO₂).grow hO₃
  refine (onBench_remakes hcx hw₃ fun bench hfit =>
    hadds _ hinner O₃ bench d hfit hd₃).bind fun O₄ d' w₄ _ hw₄ hd' => ?_
  obtain ⟨f, hf⟩ := hw₄.remakes.fits.exists_follows
  have hdraft := hd' f hf
  cases d' with
  | external e' =>
      exact ⟨O₄, List.Subset.refl O₄, hw₄.addItem hcx rfl fun g hg =>
        congrArg SchemaItem.external (Draft.external.inj (hd' g hg)), trivial⟩
  | _ => cases hdraft

theorem item_remakes (hcx : cx.schema = first.number) (hkeep : cx.policy = .keep)
    (hscope : scope.Serves outer) (h : Remade c first done O w) {i : SchemaItem} {el : Xml.Element}
    (hi : (Spelling.itemReadAs c cx i).Holds outer (.ofElement el))
    (hplain : ∀ e, i = .external e → e.Plain)
    (htitle : ∀ ref, i = .component ref →
      ∃ title, c.title? i = some title ∧ title ∉ done.filterMap c.title?) :
    Remakes c first O (topLevelChild env build cx scope el) w (done ++ [i]) fun _ _ => True := by
  have hinj : ∀ {el' : Xml.Element}, Xml.Node.ofElement el = .ofElement el' → el' = el := by
    intro el' heq
    cases el
    cases el'
    cases heq
    rfl
  cases i with
  | note a =>
      obtain ⟨el', heq, hreads⟩ := hi
      rw [hinj heq] at hreads
      exact note_remakes hcx h hscope hreads
  | external e =>
      obtain ⟨el', heq, hformed⟩ := hi
      rw [hinj heq] at hformed
      exact external_remakes hnothing hcx hkeep h (hplain e rfl) hscope hformed
  | component ref =>
      obtain ⟨x, hx, el', heq, hreads⟩ := hi
      rw [hinj heq] at hreads
      obtain ⟨title, htitle, hfree⟩ := htitle ref rfl
      exact component_remakes hcx h hscope (ref.kind.ofTopLevel?_construct x) hreads htitle hfree

/-- Items are built one after the other, when no two of them list components of
one name. -/
theorem items_remake (hcx : cx.schema = first.number) (hkeep : cx.policy = .keep)
    (hscope : scope.Serves outer) {items : List SchemaItem} {nodes : List Xml.Node}
    (hnodes : (Spelling.itemsReadAs c cx items).Holds outer nodes)
    (h : Remade c first done O w) (hplain : ∀ e, .external e ∈ items → e.Plain)
    (htitles : ∀ ref, .component ref ∈ items → (c.title? (.component ref)).isSome)
    (hdistinct : ((done ++ items).filterMap c.title?).Nodup) :
    Remakes c first O (topLevelPass env build cx scope (nodes.filterMap Xml.Node.element?)) w
      (done ++ items) fun _ _ => True := by
  induction hnodes generalizing done O w with
  | nil =>
      rw [List.append_nil]
      exact ⟨O, List.Subset.refl O, h, trivial⟩
  | @cons i node rest nodes hnode _ ih =>
      obtain ⟨el, rfl⟩ := Spelling.exists_of_itemReadAs hnode
      rw [List.append_cons] at hdistinct ⊢
      have hfirst : Remakes c first O (topLevelChild env build cx scope el) w (done ++ [i])
          fun _ _ => True := by
        -- the title is free: no item before has it, as no two items of the list share one
        refine item_remakes hnothing hcx hkeep hscope h hnode
          (fun e he => hplain e (he ▸ List.mem_cons_self)) fun ref href => ?_
        obtain ⟨title, htitle⟩ := Option.isSome_iff_exists.1
          (htitles ref (href ▸ List.mem_cons_self))
        refine ⟨title, href ▸ htitle, fun hmem => ?_⟩
        rw [List.filterMap_append, List.filterMap_append, href, List.filterMap_cons, htitle,
          List.append_assoc] at hdistinct
        exact List.disjoint_of_nodup_append hdistinct hmem List.mem_cons_self
      have hpass : Remakes c first O (topLevelPass env build cx scope
          (el :: nodes.filterMap Xml.Node.element?)) w (done ++ [i] ++ rest) fun _ _ => True := by
        unfold topLevelPass
        exact hfirst.bind fun O' _ w' _ hw' _ => ih hw'
          (fun e he => hplain e (List.mem_cons_of_mem _ he))
          (fun ref href => htitles ref (List.mem_cons_of_mem _ href)) hdistinct
      exact hpass

end External

/-- Foreign elements that stand first are handed over first. -/
theorem topLevelPass_foreign {es : List Xml.Element}
    (hes : ∀ e ∈ es, ChildClass.of e.tag.name = .foreign) (rest : List Xml.Element) :
    topLevelPass env build cx scope (es ++ rest) = (do
      meetAll cx (es.map .ofElement)
      topLevelPass env build cx scope rest) := by
  induction es with
  | nil => simp [meetAll]
  | cons e more ih =>
      obtain ⟨he, hmore⟩ := List.forall_mem_cons.1 hes
      have hfirst : topLevelChild env build cx scope e = meet cx (.ofElement e) := by
        unfold topLevelChild
        rw [he]
        rfl
      rw [List.cons_append, topLevelPass, hfirst, ih hmore]
      simp [meetAll, bind_assoc]

/-- The schema of a document of which the root and the foreign content have been
read. -/
def begunSchema (number : Nat) (source : Source) (es : List Xml.Element) : Schema :=
  { rootSchema .keep number source none none with
    foreign := Reader.foreignAttributes source.document.tag ++ es.map .ofElement }

/-- Nothing has been copied at first. -/
theorem remakes_begunSchema (c : Collection) (number : Nat) (source : Source)
    (es : List Xml.Element) :
    (begunSchema number source es).Remakes c (begunSchema number source es) [] [] [] where
  head_eq := rfl
  foreign_eq := rfl
  fits := by
    refine ⟨fun m hm => absurd hm List.not_mem_nil, fun m hm => absurd hm List.not_mem_nil,
      fun m hm => absurd hm List.not_mem_nil, fun kind i y hy => ?_⟩
    cases kind <;> cases hy
  items _ _ := rfl
  titles := rfl

/-- A document has been built once its children have been read. -/
theorem exec_build_of_pass {d : Located} {w' : Workspace}
    (hroot : d.document.tag.is schemaNamespace "schema" = true)
    (hnew : w.collection.schema? (d.keyUnder none) = none)
    (h : exec (topLevelPass env (buildSource env env.resolver.depth)
      (Context.ofSchema (rootSchema env.policy w.collection.schemas.size
        ⟨d.locator, d.document, w.nextTicket⟩ none none) env.policy)
      ((Scope.inherited {}).enter d.document.tag.declared) d.document.childElements)
      (opened env { w with nextTicket := w.nextTicket + 1 } ⟨d.locator, d.document, w.nextTicket⟩
        none none) = (.ok ⟨⟩, w')) :
    exec (Compose.build env d) w = (.ok w.collection.schemas.size,
      { w' with collection := w'.collection.modify w.collection.schemas.size fun s =>
          { s with progress := .complete } }) := by
  have hnew' : ({ w with nextTicket := w.nextTicket + 1 } : Workspace).collection.schema?
      (keyOf ⟨d.locator, d.document, w.nextTicket⟩ none) = none := hnew
  have hbuild := exec_buildSource env none hroot hnew' env.resolver.depth
  have hfallback : fallback { w with nextTicket := w.nextTicket + 1 }
      ⟨d.locator, d.document, w.nextTicket⟩ none none = {} := rfl
  rw [hfallback] at hbuild
  dsimp only at hbuild
  rw [h] at hbuild
  exact (exec_build env w d).trans hbuild

theorem childElements_eq {e : Xml.Element} {es : List Xml.Element} {nodes : List Xml.Node}
    (h : e.children = es.map Xml.Node.ofElement ++ nodes) :
    e.childElements = es ++ nodes.filterMap Xml.Node.element? := by
  unfold Xml.Element.childElements
  rw [h, List.filterMap_append, List.filterMap_map]
  exact congrArg (· ++ nodes.filterMap Xml.Node.element?) List.filterMap_some

/-- A document whose children are foreign elements and nodes that are read as
copies of items is built into a schema with copies of these items. -/
theorem build_remakes (hkeep : env.policy = .keep)
    (hnothing : ∀ r, env.resolver.answer r = .ok none) (hcache : w.cache = none) {d : Located}
    {es : List Xml.Element} {nodes : List Xml.Node} {items : List SchemaItem}
    (hroot : d.document.tag.is schemaNamespace "schema" = true)
    (hnew : w.collection.schema? (d.keyUnder none) = none)
    (hchildren : d.document.children = es.map Xml.Node.ofElement ++ nodes)
    (hes : ∀ e ∈ es, ChildClass.of e.tag.name = .foreign)
    (hfirst : first = begunSchema w.collection.schemas.size
      ⟨d.locator, d.document, w.nextTicket⟩ es)
    (hnodes : (Spelling.itemsReadAs c (Context.ofSchema first .keep) items).Holds outer nodes)
    (hscope : ((Scope.inherited {}).enter d.document.tag.declared).Serves outer)
    (hplain : ∀ e, .external e ∈ items → e.Plain)
    (htitles : ∀ ref, .component ref ∈ items → (c.title? (.component ref)).isSome)
    (hdistinct : (items.filterMap c.title?).Nodup) :
    Ends (Compose.build env d) w (fun n w' => n = first.number ∧
      ∃ O, w'.collection.Remakes c first O items (items.filterMap c.title?)) fun _ _ => False := by
  obtain ⟨resolver, policy⟩ := env
  cases hkeep
  subst hfirst
  let source : Source := ⟨d.locator, d.document, w.nextTicket⟩
  let w₀ : Workspace := opened ⟨resolver, .keep⟩ { w with nextTicket := w.nextTicket + 1 } source
    none none
  let first := begunSchema w.collection.schemas.size source es
  let w₁ : Workspace := { w₀ with
    collection := w.collection.push first
    met := w₀.met ++ es.map .ofElement }
  have hmeet : exec (meetAll (Context.ofSchema first .keep) (es.map .ofElement)) w₀ =
      (.ok ⟨⟩, w₁) := exec_meetAll rfl rfl _
  have hremade : Remade c first [] [] w₁ := by
    refine ⟨hcache, first, ?_, remakes_begunSchema c _ _ _⟩
    rw [Collection.schemas_push]
    exact if_pos rfl
  have hpass : Remakes c first [] (topLevelPass ⟨resolver, .keep⟩
      (buildSource ⟨resolver, .keep⟩ (Resolver.depth resolver)) (Context.ofSchema first .keep)
      ((Scope.inherited {}).enter d.document.tag.declared) (nodes.filterMap Xml.Node.element?)) w₁
      ([] ++ items) fun _ _ => True :=
    items_remake hnothing rfl rfl hscope hnodes hremade hplain htitles hdistinct
  -- the foreign children stand first, and meeting them is all that is done for them
  have hread : exec (topLevelPass ⟨resolver, .keep⟩
      (buildSource ⟨resolver, .keep⟩ (Resolver.depth resolver)) (Context.ofSchema first .keep)
      ((Scope.inherited {}).enter d.document.tag.declared) d.document.childElements) w₀ =
    exec (topLevelPass ⟨resolver, .keep⟩
      (buildSource ⟨resolver, .keep⟩ (Resolver.depth resolver)) (Context.ofSchema first .keep)
      ((Scope.inherited {}).enter d.document.tag.declared) (nodes.filterMap Xml.Node.element?))
      w₁ := by
    rw [childElements_eq hchildren, topLevelPass_foreign hes, exec_bind, hmeet]
  unfold Remakes Ends at hpass
  split at hpass
  · rename_i w₂ heq
    obtain ⟨O, -, hw₂, -⟩ := hpass
    unfold Ends
    rw [exec_build_of_pass hroot hnew (hread.trans heq)]
    exact ⟨rfl, O, hw₂.remakes.finish⟩
  · exact hpass.elim

end Compose

end XmlSchema