import XmlSchema.Proofs.Document.Placing
import XmlSchema.Proofs.Resolution.Completion
import XmlSchema.Proofs.Resolution.Keys
import XmlSchema.Proofs.Resolution.Sharing

/-!
# Where schemas come from

A document is read as a schema because it has been handed over or because a
document that was registered before refers to it.  In either case the schema
records what stands in its document, with the prefixes of the referring root on
loan.  A prefix that means nothing is met in some document that was read.
-/

namespace XmlSchema

open Attempt

/-- The documents that a composition can come upon: those that are handed over
to it, and those that its requests are answered with. -/
structure Supply where
  handed : Source → Prop
  answers : Request → Source → Prop

/-- A supply that lacks nothing of another one. -/
structure Supply.Within (supply wider : Supply) : Prop where
  handed : ∀ source, supply.handed source → wider.handed source
  answers : ∀ r source, supply.answers r source → wider.answers r source

/-- A schema has been begun with the root of a document. -/
structure Schema.ReadFrom (s : Schema) (source : Source) (parent : Option SchemaKey)
    (inherited : Option String) : Prop where
  builtin_eq : s.builtin = false
  source_eq : s.source = some source
  parent_eq : s.parent = parent
  key_eq : s.key = Compose.keyOf source inherited
  target_eq : s.targetNamespace = Compose.declaredTarget? source.document
  bindings_eq : s.bindings = source.document.tag.declared

/-- What has caused a document to be read: it has been handed over, or a child
of the root of a registered document refers to it and lends it the bindings of
that root. -/
inductive Occasion (supply : Supply) (c : Collection) (n : Nat) (source : Source) :
    Option SchemaKey → Option String → Bindings → Prop
  | handed (h : supply.handed source) : Occasion supply c n source none none {}
  | reference {m : Nat} {p : Schema} {referrer : Source} {grandparent : Option SchemaKey}
      {passed : Option String} {e : Xml.Element} {kind : ExternalKind} {location : String}
      (hm : m < n) (hp : c.schemas[m]? = some p) (hread : p.ReadFrom referrer grandparent passed)
      (he : e ∈ referrer.document.childElements)
      (hkind : ChildClass.of e.tag.name = .known (.external kind))
      (hlocation : Compose.locationOf? e.tag = some location)
      (hanswers : supply.answers ((Compose.reference kind e.tag).requestIn p.key location) source) :
      Occasion supply c n source (some p.key) ((Compose.reference kind e.tag).inheritedIn p.key)
        referrer.document.tag.declared

/-- A schema has been read from a document, to which bindings were lent. -/
def Origin (supply : Supply) (c : Collection) (n : Nat) (s : Schema) (source : Source)
    (lent : Bindings) : Prop :=
  ∃ parent inherited, s.ReadFrom source parent inherited ∧
    Occasion supply c n source parent inherited lent

/-- How the names of a document are meant that is read under some key: without
a target namespace, it takes on the namespace of the key. -/
def Setting.of (source : Source) (key : SchemaKey) (lent : Bindings) : Setting where
  lent
  inherited :=
    if (Compose.declaredTarget? source.document).isNone && !key.namespaceName.isEmpty then
      some key.namespaceName
    else none

namespace Collection

/-- A schema records what stands in the document from which it has been read. -/
def Recounts (c : Collection) (supply : Supply) (n : Nat) (s : Schema) : Prop :=
  ∃ source lent places, Origin supply c n s source lent ∧ places.schema = n ∧
    Laid (.of source s.key lent) (Site.root source.document) places s.components

/-- All schemas but the built-in ones record what stands in their documents. -/
structure Recounted (c : Collection) (supply : Supply) : Prop where
  keyed : c.Keyed
  recounts : ∀ (n : Nat) (s : Schema), c.schemas[n]? = some s → s.builtin = false →
    c.Recounts supply n s

/-- An error tells of a token without a meaning in the document of a schema. -/
def Unread (c : Collection) (supply : Supply) (e : SchemaError) : Prop :=
  ∃ (n : Nat) (s : Schema) (source : Source) (lent : Bindings), c.schemas[n]? = some s ∧
    Origin supply c n s source lent ∧
    (Site.root source.document).Fails (.of source s.key lent) s.key e

end Collection

section Growth

variable {supply wider : Supply} {c later : Collection} {n n' : Nat} {s s' : Schema}
  {source source' : Source} {parent : Option SchemaKey} {inherited inherited' : Option String}
  {lent lent' : Bindings}

theorem Schema.ReadFrom.grow (h : s.ReadFrom source parent inherited) (hs : s.Grows s') :
    s'.ReadFrom source parent inherited where
  builtin_eq := hs.builtin_eq.trans h.builtin_eq
  source_eq := (congrArg Schema.source hs.head_eq).trans h.source_eq
  parent_eq := (congrArg Schema.parent hs.head_eq).trans h.parent_eq
  key_eq := hs.key_eq.trans h.key_eq
  target_eq := (congrArg Schema.targetNamespace hs.head_eq).trans h.target_eq
  bindings_eq := (congrArg Schema.bindings hs.head_eq).trans h.bindings_eq

theorem Occasion.grow (h : Occasion supply c n source parent inherited lent)
    (hc : c.Grows later) (hn : n ≤ n') : Occasion supply later n' source parent inherited lent := by
  cases h with
  | handed h => exact .handed h
  | reference hm hp hread he hkind hlocation hanswers =>
      obtain ⟨p', hp', hgrows⟩ := hc _ _ hp
      rw [← hgrows.key_eq] at hanswers ⊢
      exact .reference (Nat.lt_of_lt_of_le hm hn) hp' (hread.grow hgrows) he hkind hlocation
        hanswers

theorem Occasion.widen (h : Occasion supply c n source parent inherited lent)
    (hw : supply.Within wider) : Occasion wider c n source parent inherited lent := by
  cases h with
  | handed h => exact .handed (hw.handed _ h)
  | reference hm hp hread he hkind hlocation hanswers =>
      exact .reference hm hp hread he hkind hlocation (hw.answers _ _ hanswers)

/-- The schema that a key belongs to. -/
theorem Collection.Keyed.schema?_eq (h : c.Keyed) {m : Nat} {p : Schema}
    (hp : c.schemas[m]? = some p) : c.schema? p.key = some p := by
  have hsome : (c.schema? p.key).isSome := by
    rw [Collection.schema?_isSome_iff, Collection.keys]
    exact List.mem_map_of_mem (Array.mem_toList_iff.2 (Array.mem_of_getElem? hp))
  obtain ⟨t, ht⟩ := Option.isSome_iff_exists.1 hsome
  have hkey : t.key = p.key := by simpa using List.find?_some ht
  obtain ⟨i, hi⟩ := Array.getElem?_of_mem (Array.mem_toList_iff.1 (List.mem_of_find?_eq_some ht))
  cases h.eq_of_key hi hp hkey
  rw [ht, ← hi, hp]

theorem Occasion.lent_unique (hc : c.Keyed)
    (h : Occasion supply c n source parent inherited lent)
    (h' : Occasion supply c n source parent inherited' lent') : lent = lent' := by
  cases h with
  | handed =>
      cases h'
      rfl
  | @reference m p referrer _ _ _ _ _ _ hp hread =>
      generalize hkey : p.key = key at h'
      cases h' with
      | @reference m' p' referrer' _ _ _ _ _ _ hp' hread' =>
          cases hc.eq_of_key hp hp' hkey
          cases Option.some.inj (hp.symm.trans hp')
          cases Option.some.inj (hread.source_eq.symm.trans hread'.source_eq)
          rfl

theorem Origin.grow (h : Origin supply c n s source lent) (hc : c.Grows later)
    (hs : s.Grows s') : Origin supply later n s' source lent := by
  obtain ⟨parent, inherited, hread, hoccasion⟩ := h
  exact ⟨parent, inherited, hread.grow hs, hoccasion.grow hc (Nat.le_refl n)⟩

/-- A schema has one origin. -/
theorem Origin.unique (hc : c.Keyed) (h : Origin supply c n s source lent)
    (h' : Origin supply c n s source' lent') : source = source' ∧ lent = lent' := by
  obtain ⟨parent, inherited, hread, hoccasion⟩ := h
  obtain ⟨parent', inherited', hread', hoccasion'⟩ := h'
  cases Option.some.inj (hread.source_eq.symm.trans hread'.source_eq)
  cases hread.parent_eq.symm.trans hread'.parent_eq
  exact ⟨rfl, hoccasion.lent_unique hc hoccasion'⟩

/-- The context of a schema sets its document. -/
theorem Origin.sets (h : Origin supply c n s source lent) (policy : ForeignPolicy) :
    (Context.ofSchema s policy).Sets (.of source s.key lent) := by
  obtain ⟨parent, inherited, hread, -⟩ := h
  unfold Context.Sets Setting.of Context.ofSchema
  rw [hread.target_eq]

namespace Collection

theorem Recounted.laid (h : c.Recounted supply) (hs : c.schemas[n]? = some s)
    (ho : Origin supply c n s source lent) :
    ∃ places, places.schema = n ∧
      Laid (.of source s.key lent) (Site.root source.document) places s.components := by
  have hbuiltin : s.builtin = false := ho.choose_spec.choose_spec.1.builtin_eq
  obtain ⟨source', lent', places, ho', hschema, hlaid⟩ := h.recounts n s hs hbuiltin
  obtain ⟨rfl, rfl⟩ := ho.unique h.keyed ho'
  exact ⟨places, hschema, hlaid⟩

theorem Recounted.widen (h : c.Recounted supply) (hw : supply.Within wider) :
    c.Recounted wider where
  keyed := h.keyed
  recounts n s hs hbuiltin := by
    obtain ⟨source, lent, places, ⟨parent, inherited, hread, hoccasion⟩, hlaid⟩ :=
      h.recounts n s hs hbuiltin
    exact ⟨source, lent, places, ⟨parent, inherited, hread, hoccasion.widen hw⟩, hlaid⟩

/-- What a schema records stays as long as nothing is read into it. -/
theorem Recounts.grow (h : c.Recounts supply n s) (hc : c.Grows later) (hs : s.Grows s')
    (hcount : ∀ kind, s'.components.count kind = s.components.count kind) :
    later.Recounts supply n s' := by
  obtain ⟨source, lent, places, horigin, hschema, hlaid⟩ := h
  refine ⟨source, lent, places, horigin.grow hc hs, hschema, ?_⟩
  rw [hs.key_eq]
  exact hlaid.extend hs.components hcount

/-- A change in which no component is new. -/
theorem Recounted.inPlace (h : c.Recounted supply) (hc : c.GrowsInPlace later)
    (hcounts : c.SameCounts later) : later.Recounted supply where
  keyed := hc.keyed h.keyed
  recounts n s' hs' hbuiltin := by
    obtain ⟨s, hs, hgrows⟩ := hc.exists_earlier hs'
    have hcount := hcounts n
    unfold Collection.components at hcount
    rw [hs, hs'] at hcount
    exact (h.recounts n s hs (hgrows.builtin_eq ▸ hbuiltin)).grow hc.grows hgrows hcount

/-- A schema into which more of its document has been read. -/
theorem Recounted.furnish (h : c.Recounted supply) (hs : c.schemas[n]? = some s)
    (ho : Origin supply c n s source lent) {cs : Components} (hcs : s.components.Extends cs)
    {places : Placement} (hschema : places.schema = n)
    (hlaid : Laid (.of source s.key lent) (Site.root source.document) places cs) :
    (c.furnish n cs).Recounted supply := by
  have hinPlace : c.GrowsInPlace (c.furnish n cs) :=
    .modify fun t ht => by
      cases Option.some.inj (hs.symm.trans ht)
      exact .of_components s hcs
  refine ⟨hinPlace.keyed h.keyed, fun i s' hs' hbuiltin => ?_⟩
  obtain ⟨t, ht, rfl⟩ := schemas_modify_some hs'
  by_cases hi : n = i
  · subst hi
    cases Option.some.inj (hs.symm.trans ht)
    rw [if_pos rfl]
    exact ⟨source, lent, places, ho.grow hinPlace.grows (.of_components s hcs), hschema, hlaid⟩
  · rw [if_neg hi] at hbuiltin ⊢
    exact (h.recounts i t ht hbuiltin).grow hinPlace.grows (.refl t) fun _ => rfl

theorem Keyed.push (h : c.Keyed) (hnumber : s.number = c.schemas.size)
    (hnew : c.schema? s.key = none) : (c.push s).Keyed := by
  refine ⟨h.numbered.push hnumber, (keys_push c s).symm ▸ ?_⟩
  refine List.nodup_append.2 ⟨h.nodup, List.nodup_singleton _, fun a ha b hb => ?_⟩
  rw [List.mem_singleton.1 hb]
  rintro rfl
  exact schema?_eq_none_iff.1 hnew ha

/-- A document has been begun: nothing of it is recorded yet. -/
theorem Recounted.push (h : c.Recounted supply) (policy : ForeignPolicy)
    (ho : Occasion supply c c.schemas.size source parent inherited lent)
    (hnew : c.schema? (Compose.keyOf source inherited) = none) :
    (c.push (Compose.rootSchema policy c.schemas.size source parent inherited)).Recounted
      supply := by
  have hgrows := Grows.push c (Compose.rootSchema policy c.schemas.size source parent inherited)
  refine ⟨h.keyed.push rfl hnew, fun n s hs hbuiltin => ?_⟩
  rw [schemas_push] at hs
  split at hs
  · rename_i hn
    cases hs
    subst hn
    exact ⟨source, lent, ⟨_, fun _ => []⟩, ⟨parent, inherited, ⟨rfl, rfl, rfl, rfl, rfl, rfl⟩,
      ho.grow hgrows (Nat.le_refl _)⟩, rfl, .empty _ _ _⟩
  · exact (h.recounts n s hs hbuiltin).grow hgrows (.refl s) fun _ => rfl

end Collection

end Growth

end XmlSchema
