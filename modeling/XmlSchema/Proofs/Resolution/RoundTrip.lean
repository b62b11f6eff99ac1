import XmlSchema.Proofs.Collection.EmissionOrder
import XmlSchema.Proofs.Collection.Views
import XmlSchema.Proofs.Document.Authoring
import XmlSchema.Proofs.Document.Control
import XmlSchema.Proofs.Document.References
import XmlSchema.Proofs.Resolution.Rebuilding
import XmlSchema.Proofs.Resolution.Registry

/-!
# Documents that are written and read again

A document whose references are lexical is built into a schema of which nothing
is lost when it is written and read again.  What the schema is written as can be
built once more, by itself, and the new schema says what the old one says.
-/

namespace XmlSchema

open Attempt

theorem Schema.blind_foreign : Schema.Blind Schema.foreign where
  frame _ := rfl
  names _ _ := rfl
  item _ _ _ := rfl

namespace Collection

variable {c later : Collection} {n : Nat}

/-- The foreign content of a schema is what is left of it when it is written and
read again. -/
def KeepsForeign (c : Collection) (n : Nat) : Prop :=
  ∀ s, c.schemas[n]? = some s → ForeignContent.reread s.foreign = s.foreign

theorem SameView.keepsForeign (h : c.SameView Schema.foreign later) (hc : c.KeepsForeign n) :
    later.KeepsForeign n := by
  intro s' hs'
  have hn := h.view_eq n
  rw [hs', Option.map_some, eq_comm, Option.map_eq_some_iff] at hn
  obtain ⟨s, hs, heq⟩ := hn
  rw [← heq]
  exact hc s hs

end Collection

namespace Compose

open Collection

theorem begun_reference (cx : Context) (kind : ExternalKind) (t : Xml.Tag) :
    (Draft.external (reference kind t)).Begun cx none where
  dressed := ⟨.external (reference kind t), [], ⟨rfl, rfl⟩, fun _ h => absurd h List.not_mem_nil,
    rfl⟩
  authored := plain_reference kind t
  plays _ h := by cases h
  parts := rfl

namespace Plan

/-- The plan by which the document with a number is kept when its schema is
written and read again. -/
def kept (env : Environment) (number : Nat) {document : Xml.Element} (hproper : document.Proper)
    (hlexical : document.Lexical) : Plan env where
  cacheless := False
  reading cx := (Reader.grounding cx).and ((Reader.authoring cx).when (cx.schema = number))
  key _ := True
  admits n source := n = number → source.document = document
  first := number + 1
  tag_of_admits := by
    intro n source cx hadmits hcx
    by_cases hn : cx.schema = number
    · rw [hadmits (hcx.symm.trans hn)]
      refine ⟨⟨trivial, fun _ => ⟨hproper.tag, hlexical.tag⟩⟩, ?_⟩
      exact (hproper.children.and hlexical.children).mono fun t ht => ⟨trivial, fun _ => ht⟩
    · exact ⟨⟨trivial, fun h => absurd h hn⟩,
        Xml.Node.everyIn_of_forall (fun t => ⟨trivial, fun h => absurd h hn⟩) _⟩
  opened_reference kind _ := ⟨⟨rfl, trivial⟩, fun _ => begun_reference _ kind _⟩
  schema_of_part h := (h.1.1 _ List.mem_cons_self).schema_eq
  key_of_offers _ _ := trivial
  admits_of_offers hfirst _ hn := by omega

variable {env : Environment} {P : Plan env} {w w' : Workspace} {d : Located} {n : Nat}

/-- When a document has been built, its root was registered first, and the plan
has been kept to since, even if it is only known of what is read from there on. -/
theorem run_of_build (hc : w.collection.Numbered) (hcache : P.cacheless → w.cache = none)
    (hfirst : P.first ≤ w.collection.schemas.size + 1)
    (hadmits : ∀ ticket, P.admits w.collection.schemas.size ⟨d.locator, d.document, ticket⟩)
    (hkey : P.key (d.keyUnder none)) (h : exec (build env d) w = (.ok n, w')) :
    n = w.collection.schemas.size ∧ w.collection.schema? (d.keyUnder none) = none ∧
      P.Run (w.collection.push (rootSchema env.policy w.collection.schemas.size
        ⟨d.locator, d.document, w.nextTicket⟩ none none)) w'.collection := by
  cases hroot : d.document.tag.is schemaNamespace "schema" with
  | false =>
      rw [exec_build_of_not_schema env w d hroot] at h
      cases h
  | true =>
      cases hnew : w.collection.schema? (d.keyUnder none) with
      | some s =>
          rw [exec_build_of_registered env w d hroot (hnew ▸ rfl)] at h
          cases h
      | none =>
          let source : Source := ⟨d.locator, d.document, w.nextTicket⟩
          let w₀ : Workspace := { w with nextTicket := w.nextTicket + 1 }
          let first := rootSchema env.policy w.collection.schemas.size source none none
          have hs : (opened env w₀ source none none).collection.schemas[first.number]? =
              some first := schemas_opened env w₀ source none none
          have hready : P.Ready (opened env w₀ source none none) := by
            refine ⟨hc.push rfl, hcache, ?_⟩
            show P.first ≤ (w.collection.schemas.push _).size
            rw [Array.size_push]
            exact hfirst
          have hkids := every_childElements (P.tag_of_admits (hadmits w.nextTicket)
            (show (Context.ofSchema first env.policy).schema = _ from rfl)).2
          have hpass := topLevelPass_ends (buildSource_ends env.resolver.depth) hkey hready
            ⟨_, hs, rfl⟩ hkids ((Scope.inherited (fallback w₀ source none none)).enter
              d.document.tag.declared)
          have hbuild := (exec_build env w d).symm.trans h
          have hsource := exec_buildSource env none hroot
            (show w₀.collection.schema? (keyOf source none) = none from hnew) env.resolver.depth
          replace hbuild := hsource.symm.trans hbuild
          split at hbuild
          · rename_i w₂ heq
            cases hbuild
            exact ⟨rfl, rfl, (hpass.of_ok heq).run.tail (.finish _ _)⟩
          · cases hbuild

theorem Change.keepsForeign {c later : Collection} (step : P.Change c later)
    (hn : n < c.schemas.size) (h : c.KeepsForeign n) : later.KeepsForeign n := by
  cases step with
  | begin source parent inherited _ _ =>
      intro s hs
      rw [schemas_push, if_neg (Nat.ne_of_lt hn)] at hs
      exact h s hs
  | meet m t kids ht =>
      intro s' hs'
      obtain ⟨s, hs, rfl⟩ := schemas_modify_some hs'
      split
      · exact (ForeignContent.reread_append_ofElement (e := ⟨t, kids⟩) ht).trans
          (congrArg (· ++ [ForeignContent.ofElement ⟨t, kids⟩]) (h s hs))
      · exact h s hs
  | absorb cx bench _ _ => exact (SameView.absorb Schema.blind_foreign _ bench).keepsForeign h
  | note => exact (SameView.addItem Schema.blind_foreign rfl _).keepsForeign h
  | external cx e target _ _ _ =>
      have hview : ∀ s : Schema,
          (s.addItem (.external { e with target })).foreign = s.foreign := fun _ => rfl
      exact (SameView.modify hview).keepsForeign h
  | enlist _ _ _ _ _ _ _ _ h' => exact (SameView.enlist Schema.blind_foreign h').keepsForeign h
  | finish m =>
      have hview : ∀ s : Schema,
          ({ s with progress := .complete } : Schema).foreign = s.foreign := fun _ => rfl
      exact (SameView.modify hview).keepsForeign h

theorem Run.keepsForeign {c later : Collection} (hrun : P.Run c later) (hn : n < c.schemas.size)
    (h : c.KeepsForeign n) : later.KeepsForeign n := by
  induction hrun with
  | refl => exact h
  | tail hrun step ih => exact step.keepsForeign (Nat.lt_of_lt_of_le hn (Run.grows hrun).size_le) ih

theorem keepsForeign_push {c : Collection} {source : Source} (policy : ForeignPolicy)
    (hproper : source.document.Proper) (parent : Option SchemaKey) (inherited : Option String) :
    (c.push (rootSchema policy c.schemas.size source parent inherited)).KeepsForeign
      c.schemas.size := by
  intro s hs
  rw [schemas_push, if_pos rfl] at hs
  cases hs
  cases policy with
  | drop => rfl
  | keep =>
      refine ForeignContent.reread_map_ofAttribute fun a ha => ?_
      obtain ⟨hmem, huri⟩ := List.mem_filter.1 ha
      exact (hproper.tag a hmem).namespaceName_ne huri

section Kept

variable {c : Collection} {document : Xml.Element} {hproper : document.Proper}
  {hlexical : document.Lexical} {s : Schema} (hkeeps : (kept env n hproper hlexical).Keeps n c)
  (hc : c.Numbered) (hs : c.schemas[n]? = some s)
include hkeeps hc hs

/-- The components of the document are what is left of them when they are
written and read again as the schema with another number. -/
theorem Keeps.reproducible (number : Nat) :
    c.Reproducible { Context.ofSchema s env.policy with schema := number } n := by
  have hsupplied : ∀ {kind : ComponentKind} {id : ComponentId kind} {x}, id.schema = n →
      c.get? id = some x → ∃ x₀, kind.unresolved x = x₀ ∧ kind.unresolved x₀ = x₀ ∧
        ∃ cs : Components, cs.Extends (c.components n) ∧
        (Context.ofSchema s env.policy).Supplies cs kind x₀ ∧
          kind.Kept (Context.ofSchema s env.policy) cs x₀ := by
    intro kind id x hid hx
    rw [get?_eq hc, hid] at hx
    obtain ⟨cx, cs, x₀, hn, hcx, ⟨hsupplies, hkept⟩, -, hextends, hx₀⟩ :=
      hkeeps.components n kind id.index x (Nat.le_refl n) hx
    obtain ⟨t, ht, rfl⟩ := hcx
    rw [hn, hs] at ht
    cases ht
    have hfresh := hsupplies.unresolved
    exact ⟨x₀, hx₀.trans hfresh, hfresh, cs, hextends, hsupplies, hkept hn⟩
  refine ⟨fun {kind id x} hid hx => ?_, fun {kind id x} hid hx => ?_, fun {kind id x} hid hx => ?_⟩
  · obtain ⟨x₀, hx₀, hfresh, cs, -, -, hkept⟩ := hsupplied hid hx
    rw [Transcription.component_congr (hx₀.trans hfresh.symm), hkept.fixed, hx₀]
  · obtain ⟨x₀, hx₀, hfresh, cs, -, -, hkept⟩ := hsupplied hid hx
    exact hkept.authored.congr (hx₀.trans hfresh.symm)
  · obtain ⟨x₀, hx₀, hfresh, cs, hextends, hsupplies, hkept⟩ := hsupplied hid hx
    rw [ComponentKind.parts_congr (hx₀.trans hfresh.symm)]
    intro part hpart
    have hschema : part.id.schema = n := (hsupplies.parts part hpart).schema_eq.trans (hc n s hs)
    obtain ⟨y, hy, hencloses⟩ := (hkept.parts part hpart).extend hextends
      fun _ _ _ => ComponentKind.Encloses.congr
    refine ⟨hschema, y, ?_, hencloses⟩
    rw [get?_eq hc, hschema]
    exact hy

/-- So are its items. -/
theorem Keeps.reproduces {item : SchemaItem} (hitem : item ∈ s.items) : c.Reproduces n item := by
  have hlisted := hkeeps.items n s (Nat.le_refl n) hs item hitem
  have hget : ∀ {P : (kind : ComponentKind) → kind.Component → Prop} {ref : ComponentRef},
      ref.id.schema = n → (c.components n).Holds P ref →
        ∃ x, c.get? ref.id = some x ∧ P ref.kind x := by
    intro P ref hschema ⟨x, hx, hP⟩
    refine ⟨x, ?_, hP⟩
    rw [get?_eq hc, hschema]
    exact hx
  cases item with
  | note a =>
      obtain ⟨cx, construct, role, hn, -, -, -, hpart⟩ := hlisted
      exact Part.note.inj (hpart hn).fixed
  | external e =>
      obtain ⟨cx, e₀, hn, -, he, hdraft, -⟩ := hlisted
      have hkept := hdraft.2 hn
      have hcommon := congrArg ExternalRef.common (Draft.external.inj hkept.fixed)
      rw [he]
      refine ⟨hcommon, fun ref href => ?_⟩
      have hschema : ref.id.schema = n := (hdraft.1.1 ref href).schema_eq.trans hn
      obtain ⟨x, hx, hkind, htop, hrole⟩ := hget hschema (hkept.parts ref href)
      exact ⟨hkind, hschema, x, hx, htop, hrole⟩
  | component ref =>
      obtain ⟨cx, construct, role, name, hn, -, hrole, hpart, -, -⟩ := hlisted
      have hschema : ref.id.schema = n := (hpart.1.1 _ List.mem_cons_self).schema_eq.trans hn
      obtain ⟨x, hx, hfills⟩ := hget hschema ((hpart.2 hn).component ref rfl)
      exact ⟨hschema, x, hx, hfills.topLevel hrole⟩

omit hc in
/-- Its references are such as constructs can be. -/
theorem Keeps.plain {e : ExternalRef} (he : .external e ∈ s.items) : e.Plain := by
  obtain ⟨cx, e₀, hn, -, heq, hdraft, -⟩ := hkeeps.items n s (Nat.le_refl n) hs _ he
  have hplain : e₀.Plain := (hdraft.2 hn).authored
  rw [heq]
  exact ⟨hplain.location, hplain.namespaceName⟩

end Kept

end Plan

end Compose

theorem Located.proper_of_parse {locator text : String} {d : Located}
    (h : Located.parse locator text = .ok d) : d.document.Proper := by
  unfold Located.parse at h
  split at h
  · rename_i hdocument
    cases h
    exact Xml.Element.proper_of_parse hdocument
  · cases h

namespace PrefixTable

variable {t : PrefixTable}

/-- The prefixes that a document is written with have their meaning in it. -/
theorem Legible.serves (h : t.Legible) :
    ((Scope.inherited {}).enter t.declared).Serves t.meaning where
  plain pfx uri hpfx := by
    unfold meaning Xml.Meaning.enter Xml.Meaning.outermost at hpfx
    cases hlookup : t.declared.lookup? pfx with
    | some other => exact h.declared pfx (Bindings.mem_keys (Bindings.mem_of_lookup? hlookup))
    | none =>
        rw [hlookup] at hpfx
        have hxml : pfx = "xml" := by
          by_contra hne
          exact Option.some_ne_none uri (hpfx.symm.trans (if_neg hne))
        rw [hxml]
        decide
  bound pfx uri hpfx := by
    rw [Context.namespaceOf?_enter]
    by_cases hxml : pfx = "xml"
    · rw [if_pos hxml, ← h.sound.meaning_xml, ← hxml]
      exact hpfx
    · unfold meaning Xml.Meaning.enter Xml.Meaning.outermost at hpfx
      rw [if_neg hxml] at hpfx ⊢
      cases hlookup : t.declared.lookup? pfx with
      | some other =>
          rw [hlookup] at hpfx
          exact hpfx
      | none =>
          rw [hlookup] at hpfx
          cases hpfx
  unprefixed := by
    rw [Context.namespaceOf?_enter, if_neg (by decide), lookup?_eq_none h.sound.not_empty,
      Context.namespaceOf?_inherited]
    rfl

/-- So have those of a document that does not inherit its namespace. -/
theorem legible_ofSchema {s : Schema} (howns : s.targetNamespace.getD "" = s.logicalNamespace)
    (hplain : ∀ pfx ∈ s.bindings.keys, Text.Plain pfx) : (ofSchema s).Legible where
  sound := sound_ofSchema s
  unprefixed := by
    unfold ofSchema
    cases htarget : s.targetNamespace with
    | some target => rfl
    | none =>
        rw [htarget] at howns
        simp [← howns]
  recorded := hplain
  declared := nofun

end PrefixTable

/-- One schema has got the same from the root of its document as another one. -/
structure Schema.SameRoot (t s : Schema) : Prop where
  key_eq : t.key = s.key
  targetNamespace_eq : t.targetNamespace = s.targetNamespace
  version_eq : t.version = s.version
  xmlId_eq : t.xmlId = s.xmlId
  elementFormDefault_eq : t.elementFormDefault = s.elementFormDefault
  attributeFormDefault_eq : t.attributeFormDefault = s.attributeFormDefault
  blockDefault_eq : t.blockDefault = s.blockDefault
  finalDefault_eq : t.finalDefault = s.finalDefault

namespace Schema.SameRoot

variable {t t' s : Schema}

/-- What a schema gains while its document is read does not matter. -/
theorem of_head (h : t.head = t'.head) (hs : t'.SameRoot s) : t.SameRoot s where
  key_eq := (congrArg Schema.key h :).trans hs.key_eq
  targetNamespace_eq := (congrArg Schema.targetNamespace h :).trans hs.targetNamespace_eq
  version_eq := (congrArg Schema.version h :).trans hs.version_eq
  xmlId_eq := (congrArg Schema.xmlId h :).trans hs.xmlId_eq
  elementFormDefault_eq := (congrArg Schema.elementFormDefault h :).trans hs.elementFormDefault_eq
  attributeFormDefault_eq :=
    (congrArg Schema.attributeFormDefault h :).trans hs.attributeFormDefault_eq
  blockDefault_eq := (congrArg Schema.blockDefault h :).trans hs.blockDefault_eq
  finalDefault_eq := (congrArg Schema.finalDefault h :).trans hs.finalDefault_eq

theorem ofSchema_eq (h : t.SameRoot s) (policy : ForeignPolicy) :
    Context.ofSchema t policy = { Context.ofSchema s policy with schema := t.number } := by
  unfold Context.ofSchema Schema.elementForm Schema.attributeForm
  rw [h.key_eq, h.targetNamespace_eq, h.elementFormDefault_eq, h.attributeFormDefault_eq]

end Schema.SameRoot

/-- A schema says what another one says, when its components are taken for some
of those of a collection.  Its items are the items of the other one as they are
written, and foreign markup is compared without prefixes. -/
structure Schema.Restates (t s : Schema) (c : Collection)
    (f : (kind : ComponentKind) → ComponentId kind → ComponentId kind) : Prop where
  root : t.SameRoot s
  foreign_eq : t.foreign.map ForeignContent.bare = s.foreign.map ForeignContent.bare
  titles_eq : t.names.map Registration.title = s.names.map Registration.title
  items_eq : t.items.map (Transcription.comparing f).item =
    (Writer.writtenItems s.items).map Transcription.plain.item
  components : ∀ {kind : ComponentKind} {id : ComponentId kind} {y}, t.get? id = some y →
    ∃ x, c.get? (f kind id) = some x ∧
      (Transcription.comparing f).component kind y = Transcription.plain.component kind x

/-- A schema with copies of the items of another one says what that one says, if
their roots and their foreign contents do. -/
theorem Schema.Remakes.restates {t first s : Schema} {c : Collection} {O : Tally}
    {named : List (ComponentKind × QName)}
    {f : (kind : ComponentKind) → ComponentId kind → ComponentId kind}
    (h : t.Remakes c first O (Writer.writtenItems s.items) named) (hf : Tally.Follows f O)
    (hroot : first.SameRoot s)
    (hforeign : first.foreign.map ForeignContent.bare = s.foreign.map ForeignContent.bare)
    (hnamed : named = s.names.map Registration.title) : t.Restates s c f where
  root := .of_head h.head_eq hroot
  foreign_eq := h.foreign_eq ▸ hforeign
  titles_eq := h.titles.trans hnamed
  items_eq := h.items f hf
  components {kind id y} hy := by
    have hnumber : t.number = first.number := (congrArg Schema.number h.head_eq :)
    obtain ⟨hid, hget⟩ := Option.ite_none_right_eq_some.1 hy
    obtain ⟨original, x, hmem, hx, heq⟩ := h.fits.copied kind id.index y hget
    refine ⟨x, ?_, heq f hf⟩
    rw [← hnumber, ← hid] at hmem
    rw [show f kind id = original from hf _ hmem]
    exact hx

namespace Collection

variable {c : Collection} {n : Nat} {s : Schema}

/-- A component that is registered bears the name that it is registered under. -/
theorem title?_ref (hc : c.Numbered) (hs : c.schemas[n]? = some s) (hstep : s.InStep)
    {r : Registration} (hr : r ∈ s.names) :
    c.title? (.component (r.ref s.number)) = some r.title := by
  obtain ⟨x, hx, hname⟩ := hstep.named r hr
  have hget : c.get? (r.ref s.number).id = some x :=
    (get?_of_schema hc hs (hc n s hs)).trans hx
  have hbears : (c.get? (r.ref s.number).id).bind (r.ref s.number).kind.nameOf = some r.name :=
    Option.bind_eq_some_iff.2 ⟨x, hget, hname⟩
  exact congrArg (Option.map (r.kind, ·)) hbears

/-- Every component that is listed is registered. -/
theorem exists_title? (hc : c.Numbered) (hs : c.schemas[n]? = some s) (hstep : s.InStep)
    {ref : ComponentRef} (href : .component ref ∈ s.items) :
    ∃ r ∈ s.names, c.title? (.component ref) = some r.title := by
  have hlisted : ref ∈ s.listed := List.mem_filterMap.2 ⟨_, href, rfl⟩
  rw [hstep.listed_eq] at hlisted
  obtain ⟨r, hr, rfl⟩ := List.mem_map.1 hlisted
  exact ⟨r, hr, title?_ref hc hs hstep hr⟩

/-- The items of a schema list components of the names that it has registered. -/
theorem title?_items (hc : c.Numbered) (hs : c.schemas[n]? = some s) (hstep : s.InStep) :
    s.items.filterMap c.title? = s.names.map Registration.title := by
  have hlisted : s.items.filterMap c.title? =
      s.listed.filterMap fun ref => c.title? (.component ref) := by
    unfold Schema.listed
    rw [List.filterMap_filterMap]
    exact List.filterMap_congr fun item _ => by cases item <;> rfl
  rw [hlisted, hstep.listed_eq, List.filterMap_map, ← List.filterMap_eq_map]
  exact List.filterMap_congr fun r hr => title?_ref hc hs hstep hr

/-- So do the items as they are written. -/
theorem title?_writtenItems (items : List SchemaItem) :
    (Writer.writtenItems items).filterMap c.title? = items.filterMap c.title? := by
  have hreferences : (items.filter (·.external?.isSome)).filterMap c.title? = [] := by
    refine List.filterMap_eq_nil_iff.2 fun item hitem => ?_
    cases item with
    | external e => rfl
    | _ => cases (List.mem_filter.1 hitem).2
  have hothers : (items.filter (·.external?.isNone)).filterMap c.title? =
      items.filterMap c.title? := by
    rw [List.filterMap_filter]
    refine List.filterMap_congr fun item _ => ?_
    cases item <;> rfl
  unfold Writer.writtenItems
  rw [List.filterMap_append, hreferences, hothers, List.nil_append]

end Collection

namespace Writer

/-- A document is written as one that is read as a copy of its schema, in the
scope that its root opens. -/
theorem rooted_document {c : Collection} {cx : Context} {number : Nat} {s : Schema}
    {document : Xml.Element} (hkeep : cx.policy = .keep) (hinherits : cx.inherits = false)
    (h : c.Reproducible cx number)
    (howns : s.targetNamespace.getD "" = s.logicalNamespace)
    (hplain : ∀ pfx ∈ s.bindings.keys, Text.Plain pfx)
    (hforeign : ForeignContent.reread s.foreign = s.foreign)
    (hitems : ∀ i ∈ s.items, c.Reproduces number i)
    (hdocument : c.document .keep s = .ok document) :
    ∃ outer, ((Scope.inherited {}).enter document.tag.declared).Serves outer ∧
      (Spelling.rooted c cx s).Holds outer document := by
  let wcx : WriterContext := { collection := c, schema := s, policy := .keep }
  let start : WriterState := { prefixes := PrefixTable.ofSchema s }
  have hdelivers : Delivers (root wcx) (Spelling.rooted c cx s).Holds :=
    delivers_root hkeep rfl hinherits h hforeign hitems
  have hroot := hdelivers start (PrefixTable.legible_ofSchema howns hplain)
  have hwritten : c.document .keep s = (exec (root wcx) start).1.map fun e =>
      { e with tag := { e.tag with declared := (exec (root wcx) start).2.prefixes.declared } } :=
    rfl
  rw [hwritten] at hdocument
  unfold Ends at hroot
  rcases hexec : exec (root wcx) start with ⟨e | e, state⟩
  all_goals rw [hexec] at hdocument hroot
  · cases hdocument
  · cases hdocument
    obtain ⟨hlegible, -, hrooted⟩ := hroot
    exact ⟨_, hlegible.serves, hrooted⟩

end Writer

namespace Compose

theorem filter_declaredTarget? (document : Xml.Element) :
    (declaredTarget? document).filter (fun t => !t.isEmpty) = declaredTarget? document := by
  unfold declaredTarget?
  rw [Option.filter_filter]
  simp

theorem map_parse_text (text : Option String) :
    ((text.map DerivationSet.parse).map DerivationSet.text).map DerivationSet.parse =
      text.map DerivationSet.parse := by
  cases text with
  | none => rfl
  | some text => exact congrArg some (DerivationSet.parse_text (DerivationSet.normal_parse text))

/-- The root of a written document says what the root of its source has said. -/
theorem sameRoot_written {policy : ForeignPolicy} {n ticket : Nat} {d : Located} {s : Schema}
    {document : Xml.Element} (hhead : s.head =
      (rootSchema policy n ⟨d.locator, d.document, ticket⟩ none none).head)
    (hattribute : ∀ name, document.tag.attribute? name =
      Writer.valueOf? (Writer.rootAttributes s) name) (number later : Nat)
    (es : List Xml.Element) :
    (begunSchema number ⟨d.locator, document, later⟩ es).SameRoot s := by
  have hvalues : document.attribute? "targetNamespace" = s.targetNamespace ∧
      document.attribute? "version" = s.version ∧ document.attribute? "id" = s.xmlId ∧
      document.attribute? "elementFormDefault" = s.elementFormDefault.map Form.text ∧
      document.attribute? "attributeFormDefault" = s.attributeFormDefault.map Form.text ∧
      document.attribute? "blockDefault" = s.blockDefault.map DerivationSet.text ∧
      document.attribute? "finalDefault" = s.finalDefault.map DerivationSet.text := by
    simp [Xml.Element.attribute?, hattribute, Writer.rootAttributes, Writer.valueOf?_cons,
      Writer.valueOf?_nil]
  obtain ⟨htarget, hversion, hid, helement, hattr, hblock, hfinal⟩ := hvalues
  have hsource : s.targetNamespace = declaredTarget? d.document :=
    (congrArg Schema.targetNamespace hhead :)
  have hwritten : declaredTarget? document = s.targetNamespace := by
    unfold declaredTarget?
    rw [htarget, hsource, filter_declaredTarget?]
  refine ⟨?_, hwritten, hversion, hid, ?_, ?_, ?_, ?_⟩
  · rw [show s.key = keyOf ⟨d.locator, d.document, ticket⟩ none from congrArg Schema.key hhead]
    show keyOf ⟨d.locator, document, later⟩ none = _
    unfold keyOf
    rw [hwritten, hsource]
  · show (document.attribute? "elementFormDefault").bind Form.parse? = _
    rw [helement, Writer.parse_form]
  · show (document.attribute? "attributeFormDefault").bind Form.parse? = _
    rw [hattr, Writer.parse_form]
  · have hown : s.blockDefault = (d.document.attribute? "blockDefault").map DerivationSet.parse :=
      (congrArg Schema.blockDefault hhead :)
    show (document.attribute? "blockDefault").map DerivationSet.parse = _
    rw [hblock, hown, map_parse_text]
  · have hown : s.finalDefault = (d.document.attribute? "finalDefault").map DerivationSet.parse :=
      (congrArg Schema.finalDefault hhead :)
    show (document.attribute? "finalDefault").map DerivationSet.parse = _
    rw [hfinal, hown, map_parse_text]

theorem foreign_of_bare {es : List Xml.Element} {contents : List ForeignContent}
    (h : es.map Xml.Element.bare = (ForeignContent.elements contents).map Xml.Element.bare) :
    ∀ e ∈ es, ChildClass.of e.tag.name = .foreign := by
  intro e he
  have hmem := List.mem_map_of_mem (f := Xml.Element.bare) he
  rw [h] at hmem
  obtain ⟨e', he', hbare⟩ := List.mem_map.1 hmem
  have hname : e'.tag.name.bare = e.tag.name.bare :=
    (congrArg (fun e : Xml.Element => e.tag.name) hbare :)
  exact (ChildClass.of_bare hname).symm.trans (ForeignContent.elements_foreign he')

theorem foreign_begunSchema {number : Nat} {source : Source} {es : List Xml.Element}
    {contents : List ForeignContent}
    (hattributes : (Reader.foreignAttributes source.document.tag).map ForeignContent.bare =
      ((ForeignContent.attributes contents).map .ofAttribute).map ForeignContent.bare)
    (helements : es.map Xml.Element.bare =
      (ForeignContent.elements contents).map Xml.Element.bare) :
    (begunSchema number source es).foreign.map ForeignContent.bare =
      (ForeignContent.reread contents).map ForeignContent.bare := by
  have hbare : ∀ es : List Xml.Element, (es.map .ofElement).map ForeignContent.bare =
      (es.map Xml.Element.bare).map .ofElement := by
    intro es
    rw [List.map_map, List.map_map]
    rfl
  unfold begunSchema ForeignContent.reread
  rw [List.map_append, List.map_append, hattributes, hbare, hbare, helements]

/-- What is known of the schema of a document that was built by itself. -/
structure Built (env : Environment) (d : Located) (hproper : d.document.Proper)
    (hlexical : d.document.Lexical) (c : Collection) (n : Nat) (s : Schema) : Prop where
  schema : c.schemas[n]? = some s
  head : ∃ ticket, s.head =
    (rootSchema env.policy n ⟨d.locator, d.document, ticket⟩ none none).head
  numbered : c.Numbered
  keeps : (Plan.kept env n hproper hlexical).Keeps n c
  foreign : ForeignContent.reread s.foreign = s.foreign
  inStep : s.InStep
  key_ne : s.key ≠ Catalogue.schema.key

theorem Built.key_eq {env : Environment} {d : Located} {hproper : d.document.Proper}
    {hlexical : d.document.Lexical} {c : Collection} {n : Nat} {s : Schema}
    (h : Built env d hproper hlexical c n s) : s.key = d.keyUnder none := by
  obtain ⟨ticket, hhead⟩ := h.head
  exact (congrArg Schema.key hhead :)

/-- A document that has been built is known well enough, whatever calls there
were before. -/
theorem built_of_build {env : Environment} {w w' : Workspace} {d : Located} {n : Nat}
    {allowed : Collection → Operation → Prop} (hc : w.collection.Reachable allowed)
    (hproper : d.document.Proper) (hlexical : d.document.Lexical)
    (h : exec (build env d) w = (.ok n, w')) :
    ∃ s, Built env d hproper hlexical w'.collection n s := by
  let P := Plan.kept env w.collection.schemas.size hproper hlexical
  let first := rootSchema env.policy w.collection.schemas.size
    ⟨d.locator, d.document, w.nextTicket⟩ none none
  have hnumbered := hc.keyed.numbered
  obtain ⟨rfl, hnew, hrun⟩ := Plan.run_of_build (P := P) hnumbered (fun h => h.elim) (Nat.le_refl _)
    (fun _ _ => rfl) trivial h
  have hfirst : (w.collection.push first).schemas[w.collection.schemas.size]? = some first := by
    rw [Collection.schemas_push, if_pos rfl]
  obtain ⟨s, hs, hgrows⟩ := hrun.grows _ _ hfirst
  have hwhole : P.Run w.collection w'.collection :=
    .head (.begin _ ⟨d.locator, d.document, w.nextTicket⟩ none none hnew trivial) hrun
  -- the build is one more call, so that what holds of reachable collections holds after it
  have hlater : w'.collection = w.collection.perform (.build env w d) :=
    (congrArg (fun r : _ × Workspace => r.2.collection) h).symm
  have hreachable : w'.collection.Reachable fun _ _ => True :=
    hlater ▸ .perform hc.any (.build env w d) trivial
  obtain ⟨catalogue, hcatalogue, hsame⟩ := hc.grows 0 Catalogue.schema rfl
  have hsize : w.collection.schemas.size ≠ 0 := by
    have hlt := (Array.getElem?_eq_some_iff.1 hcatalogue).1
    omega
  have hforeign : w'.collection.KeepsForeign w.collection.schemas.size :=
    Plan.Run.keepsForeign hrun (by simp [Collection.push])
      (Plan.keepsForeign_push env.policy hproper none none)
  refine ⟨s, hs, ⟨w.nextTicket, hgrows.head_eq⟩, hwhole.numbered hnumbered,
    hwhole.keeps hnumbered, hforeign s hs, hreachable.inStep _ s hsize hs, fun hkey => ?_⟩
  refine Collection.schema?_eq_none_iff.1 hnew ?_
  rw [show d.keyUnder none = catalogue.key from
    hgrows.key_eq.symm.trans (hkey.trans hsame.key_eq.symm)]
  exact List.mem_map_of_mem (Array.mem_toList_iff.2 (Array.mem_of_getElem? hcatalogue))

section Rebuild

variable {env env' : Environment} {d : Located} {hproper : d.document.Proper}
  {hlexical : d.document.Lexical} {c : Collection} {n : Nat} {s : Schema}

/-- The schema of a document that was built by itself is written as a document
that is read as a copy of it, whatever the number of the copy. -/
theorem Built.rooted (h : Built env d hproper hlexical c n s) (hkeep : env.policy = .keep)
    (hplain : ∀ pfx ∈ d.document.tag.declared.keys, Text.Plain pfx) {document : Xml.Element}
    (hdocument : c.document .keep s = .ok document) (number : Nat) :
    ∃ outer, ((Scope.inherited {}).enter document.tag.declared).Serves outer ∧
      (Spelling.rooted c { Context.ofSchema s .keep with schema := number } s).Holds outer
        document := by
  obtain ⟨ticket, hhead⟩ := h.head
  have htarget : s.targetNamespace = declaredTarget? d.document :=
    (congrArg Schema.targetNamespace hhead :)
  have hbindings : s.bindings = d.document.tag.declared := (congrArg Schema.bindings hhead :)
  have howns : s.targetNamespace.getD "" = s.logicalNamespace := by
    unfold Schema.logicalNamespace
    rw [h.key_eq, htarget]
    unfold Located.keyUnder
    cases declaredTarget? d.document <;> rfl
  have hinherits : (Context.ofSchema s .keep).inherits = false := by
    show (s.targetNamespace.isNone && !s.key.namespaceName.isEmpty) = false
    rw [show s.key.namespaceName = s.logicalNamespace from rfl, ← howns]
    cases s.targetNamespace <;> rfl
  have hreproducible := h.keeps.reproducible h.numbered h.schema number
  rw [hkeep] at hreproducible
  exact Writer.rooted_document rfl hinherits hreproducible howns (hbindings ▸ hplain) h.foreign
    (fun i hi => h.keeps.reproduces h.numbered h.schema hi) hdocument

/-- What it is written as is built, by itself, into a schema that says what it
says. -/
theorem Built.rebuild (h : Built env d hproper hlexical c n s) (hkeep : env.policy = .keep)
    (hplain : ∀ pfx ∈ d.document.tag.declared.keys, Text.Plain pfx) {document : Xml.Element}
    (hdocument : c.document .keep s = .ok document) (hkeep' : env'.policy = .keep)
    (hnothing : ∀ r, env'.resolver.answer r = .ok none) :
    Ends (build env' ⟨d.locator, document⟩) {} (fun m w => ∃ t f,
      w.collection.schemas[m]? = some t ∧ t.Restates s c f) fun _ _ => False := by
  obtain ⟨outer, hscope, hroot, hattribute, hforeign, es, nodes, hchildren, hes, hnodes⟩ :=
    h.rooted hkeep hplain hdocument 1
  obtain ⟨ticket, hhead⟩ := h.head
  let first := begunSchema 1 ⟨d.locator, document, 1⟩ es
  have hsame : first.SameRoot s := sameRoot_written hhead hattribute 1 1 es
  -- the only other schema is the catalogue, and the document has not got its key
  have hnew : ({} : Workspace).collection.schema? (Located.keyUnder ⟨d.locator, document⟩ none) =
      none := by
    refine Collection.schema?_eq_none_iff.2 fun hmem => h.key_ne ?_
    exact hsame.key_eq.symm.trans (List.mem_singleton.1 hmem)
  have hitems : ∀ {i}, i ∈ Writer.writtenItems s.items → i ∈ s.items := by
    intro i hi
    rcases List.mem_append.1 hi with hi | hi <;> exact List.mem_of_mem_filter hi
  have htitles := (Collection.title?_writtenItems (c := c) s.items).trans
    (Collection.title?_items h.numbered h.schema h.inStep)
  have hbuilt := build_remakes (w := {}) hkeep' hnothing rfl hroot hnew hchildren
    (foreign_of_bare hes) (show first = _ from rfl) ((hsame.ofSchema_eq .keep).symm ▸ hnodes) hscope
    (fun e he => h.keeps.plain h.schema (hitems he))
    (fun ref href => by
      obtain ⟨r, -, hr⟩ := Collection.exists_title? h.numbered h.schema h.inStep (hitems href)
      rw [hr]
      rfl)
    (by
      rw [htitles]
      exact h.inStep.distinct)
  refine hbuilt.mono ?_ fun _ _ h => h
  rintro m w ⟨rfl, O, t, ht, hremakes⟩
  obtain ⟨f, hf⟩ := hremakes.fits.exists_follows
  refine ⟨t, f, ht, hremakes.restates hf hsame ?_ htitles⟩
  rw [← h.foreign]
  exact foreign_begunSchema hforeign hes

end Rebuild

/-- Whatever calls there were before, the schema of a document that is parsed
and built by itself is written as one that is built, by itself again, into a
schema that says what it says.  The names that the document refers to are such
that they can be told from tokens, and so are the prefixes on its root. -/
theorem restates_of_write {env env' : Environment} {w w' : Workspace} {locator text : String}
    {d : Located} {n : Nat} {written : List WrittenSchema}
    {allowed : Collection → Operation → Prop} (hc : w.collection.Reachable allowed)
    (hparse : Located.parse locator text = .ok d) (hlexical : d.document.Lexical)
    (hplain : ∀ pfx ∈ d.document.tag.declared.keys, Text.Plain pfx) (hkeep : env.policy = .keep)
    (hbuild : exec (build env d) w = (.ok n, w'))
    (hwrite : (w'.collection.write .keep n false).1 = .ok written) (hkeep' : env'.policy = .keep)
    (hnothing : ∀ r, env'.resolver.answer r = .ok none) :
    ∃ s document, w'.collection.schemas[n]? = some s ∧ written = [⟨s.key, document⟩] ∧
      Ends (build env' ⟨locator, document⟩) {} (fun m rebuilt => ∃ t f,
        rebuilt.collection.schemas[m]? = some t ∧ t.Restates s w'.collection f)
        fun _ _ => False := by
  have hproper : d.document.Proper := Located.proper_of_parse hparse
  obtain ⟨s, hs⟩ := built_of_build hc hproper hlexical hbuild
  have hauthored : s.builtin = false := by
    obtain ⟨ticket, hhead⟩ := hs.head
    exact (congrArg Schema.builtin hhead :)
  rw [Collection.write_alone .keep hs.schema hauthored] at hwrite
  cases hdocument : w'.collection.document .keep s with
  | error e =>
      rw [hdocument] at hwrite
      cases hwrite
  | ok document =>
      rw [hdocument] at hwrite
      cases hwrite
      have hrebuild := hs.rebuild hkeep hplain hdocument hkeep' hnothing
      rw [Located.locator_of_parse hparse] at hrebuild
      exact ⟨s, document, hs.schema, rfl, hrebuild⟩

/-- A document that refers to a type before it defines it. -/
def forwardText : String :=
  "<s:schema xmlns:s=\"http://www.w3.org/2001/XMLSchema\" xmlns:o=\"o\" targetNamespace=\"o\">" ++
    "<s:element name=\"e\" type=\"o:t\"/><s:include/><s:complexType name=\"t\"><s:all>" ++
    "<s:element name=\"f\"/></s:all></s:complexType></s:schema>"

/-- It is built and written, and built again. -/
theorem restates_of_write_forwardText :
    ∃ d w s document, Located.parse "a.xsd" forwardText = .ok d ∧
      exec (build ⟨.nothing, .keep⟩ d) {} = (.ok 1, w) ∧ w.collection.schemas[1]? = some s ∧
      (w.collection.write .keep 1 false).1 = .ok [⟨s.key, document⟩] ∧
      Ends (build ⟨.nothing, .keep⟩ ⟨"a.xsd", document⟩) {} (fun m rebuilt => ∃ t f,
        rebuilt.collection.schemas[m]? = some t ∧ t.Restates s w.collection f)
        fun _ _ => False := by
  have hready : (Located.parse "a.xsd" forwardText).toOption.isSome ∧
      ∀ d ∈ (Located.parse "a.xsd" forwardText).toOption, d.document.Lexical ∧
        (∀ pfx ∈ d.document.tag.declared.keys, Text.Plain pfx) ∧
        (exec (build ⟨.nothing, .keep⟩ d) {}).1 = .ok 1 ∧
        ((exec (build ⟨.nothing, .keep⟩ d) {}).2.collection.write .keep 1
          false).1.toOption.isSome := by
    decide +kernel
  obtain ⟨hsome, hready⟩ := hready
  cases hparse : Located.parse "a.xsd" forwardText with
  | error e =>
      rw [hparse] at hsome
      cases hsome
  | ok d =>
      obtain ⟨hlexical, hplain, hbuilt, hwritten⟩ := hready d (by rw [hparse]; rfl)
      cases hwrite : ((exec (build ⟨.nothing, .keep⟩ d) {}).2.collection.write .keep 1 false).1 with
      | error e =>
          rw [hwrite] at hwritten
          cases hwritten
      | ok written =>
          have hbuild : exec (build ⟨.nothing, .keep⟩ d) {} =
              (.ok 1, (exec (build ⟨.nothing, .keep⟩ d) {}).2) := Prod.ext hbuilt rfl
          have hnothing : ∀ r, (⟨.nothing, .keep⟩ : Environment).resolver.answer r = .ok none :=
            fun _ => rfl
          obtain ⟨s, document, hs, rfl, hrebuild⟩ :=
            restates_of_write (.empty : Collection.empty.Reachable fun _ _ => True) hparse hlexical
              hplain rfl hbuild hwrite rfl hnothing
          exact ⟨d, _, s, document, rfl, hbuild, hs, hwrite, hrebuild⟩

end Compose

end XmlSchema
