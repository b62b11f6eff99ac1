import XmlSchema.Proofs.Locator.Normal
import XmlSchema.Proofs.Resolution.References
import XmlSchema.Proofs.Text.Trimming
import XmlSchema.Resolution.Local

/-!
# One schema for each document

A document is known by its locator.  A location that is joined to the locator
of a document becomes normal, so that all ways to a document lead to one
schema.  What a caller spells otherwise, and what a document refers to by an
absolute path, keeps its spelling, and such a document can be read again under
its normal locator.
-/

namespace XmlSchema

/-- Documents are found under their joined locations, or under their locations
as they stand. -/
def Resolver.Joins (resolver : Resolver) : Prop :=
  ∀ r d, resolver.answer r = .ok (some d) →
    d.locator = Locator.join r.location r.base ∨ d.locator = r.location

/-- What is to be read is known by a locator to the one who asks for it. -/
def Reading.Names (reading : Reading) (locator : String) : Prop :=
  match reading with
  | .document d => locator = d.locator
  | .text given _ => locator = given
  | .location place _ => locator = place ∨ locator = Text.trim place

/-- The locations that a call joins to a path, and not to a URL. -/
def Reading.JoinsPath : Reading → Prop
  | .location _ (some base) => Locator.hasScheme base = false
  | _ => True

/-- A locator is spelled as it has been found: by the caller, or in a document
that refers to another one. -/
inductive Call.Spelled (call : Call) (c : Collection) : String → Prop
  | caller {locator : String} (h : call.reading.Names locator) : Spelled call c locator
  | document {m : Nat} {p : Schema} {referrer : Source} {parent : Option SchemaKey}
      {inherited : Option String} {e : Xml.Element} {kind : ExternalKind} {location : String}
      (hp : c.schemas[m]? = some p) (hread : p.ReadFrom referrer parent inherited)
      (he : e ∈ referrer.document.childElements)
      (hkind : ChildClass.of e.tag.name = .known (.external kind))
      (hlocation : Compose.locationOf? e.tag = some location) : Spelled call c location

namespace Resolver

theorem locator_of_map_parse {locator text : String} {d : Located}
    (h : (Located.parse locator text).map some = .ok (some d)) : d.locator = locator := by
  cases hparse : Located.parse locator text with
  | error e =>
      rw [hparse] at h
      cases h
  | ok d' =>
      rw [hparse] at h
      cases h
      exact Located.locator_of_parse hparse

theorem joins_ofDocuments (documents : List (String × String)) :
    (ofDocuments documents).Joins := by
  intro r d h
  unfold ofDocuments at h
  dsimp only at h
  split at h
  · cases h
  · rename_i locator text hfound
    obtain ⟨candidate, hcandidate, hlookup⟩ := List.exists_of_findSome?_eq_some hfound
    obtain ⟨found, -, heq⟩ := Option.map_eq_some_iff.1 hlookup
    cases heq
    rw [locator_of_map_parse h]
    simpa using hcandidate

theorem locator_of_locate {t : FileTree} {locator : String} {d : Located}
    (h : locate t locator = .ok (some d)) : d.locator = locator := by
  have hread : ∀ path, readAt t locator path = .ok (some d) → d.locator = locator := by
    intro path h
    unfold readAt at h
    split at h
    · exact locator_of_map_parse h
    · cases h
    · cases h
  unfold locate at h
  split at h
  · exact hread _ h
  · split at h
    · cases h
    · split at h
      · split at h
        · cases h
        · exact hread _ h
      · split at h <;> cases h

theorem joins_ofFiles (t : FileTree) : (ofFiles t).Joins := by
  intro r d h
  unfold ofFiles at h
  dsimp only at h
  exact .inl (locator_of_locate h)

end Resolver

namespace Call

variable {call : Call} {c : Collection} {n : Nat} {s : Schema}

/-- A location in a document has no blanks at its ends. -/
theorem trim_locationOf {tag : Xml.Tag} {location : String}
    (h : Compose.locationOf? tag = some location) : Text.trim location = location := by
  unfold Compose.locationOf? at h
  obtain ⟨text, -, rfl⟩ := Option.map_eq_some_iff.1 (Option.filter_eq_some_iff.1 h).1
  exact Text.trim_trim text

/-- A locator that a call comes upon is normal, or it is spelled as found. -/
theorem normal_or_spelled (hjoins : call.env.resolver.Joins)
    (hcache : ∀ cache, call.around.cache = some cache → cache.entries = [])
    (hpath : call.reading.JoinsPath) (h : c.Recounted (supply [call]))
    (hlocal : ∀ (n : Nat) (s : Schema), c.schemas[n]? = some s → s.builtin = false →
      Locator.hasScheme s.key.locator = false)
    (hs : c.schemas[n]? = some s) (hbuiltin : s.builtin = false) :
    Path.IsNormal s.key.locator ∨ call.Spelled c s.key.locator := by
  obtain ⟨source, lent, -, ⟨parent, inherited, hread, hoccasion⟩, -⟩ := h.recounts n s hs hbuiltin
  have hlocator : s.key.locator = source.locator := congrArg SchemaKey.locator hread.key_eq
  rw [hlocator]
  -- whatever answers a request has been found under its location
  have hanswer : ∀ r, (supply [call]).answers r source →
      source.locator = Locator.join r.location r.base ∨ source.locator = r.location := by
    rintro r ⟨other, hother, hanswer⟩
    cases List.mem_singleton.1 hother
    rcases hanswer with hanswer | ⟨cache, heq, hentry⟩
    · exact hjoins r _ hanswer
    · rw [hcache cache heq] at hentry
      cases hentry
  cases hoccasion with
  | handed hhanded =>
      obtain ⟨other, hother, hhands⟩ := hhanded
      cases List.mem_singleton.1 hother
      cases hreading : call.reading with
      | document d =>
          rw [hreading] at hhands
          have hd : d = ⟨source.locator, source.document⟩ := hhands
          exact .inr (.caller (by rw [hreading, hd]; rfl))
      | text given content =>
          rw [hreading] at hhands
          exact .inr (.caller (by rw [hreading]; exact Located.locator_of_parse hhands))
      | location place base =>
          rw [hreading] at hhands hpath
          have hbase : ∀ b, base = some b → Locator.hasScheme b = false := by
            rintro b rfl
            exact hpath
          rcases hanswer _ hhands with heq | heq
          · rcases Locator.join_isNormal hbase place with hnormal | hself
            · exact .inl (heq ▸ hnormal)
            · exact .inr (.caller (by rw [hreading]; exact .inr (heq.trans hself)))
          · exact .inr (.caller (by rw [hreading]; exact .inl heq))
  | @reference m p referrer _ _ e kind location _ hp hreferrer he hkind hlocation hanswers =>
      have hspelled : call.Spelled c location := .document hp hreferrer he hkind hlocation
      rcases hanswer _ hanswers with heq | heq
      · have hbase : ∀ b, some p.key.locator = some b → Locator.hasScheme b = false := by
          rintro b ⟨⟩
          exact hlocal m p hp hreferrer.builtin_eq
        rcases Locator.join_isNormal hbase location with hnormal | hself
        · exact .inl (heq ▸ hnormal)
        · exact .inr (heq.trans (hself.trans (trim_locationOf hlocation)) ▸ hspelled)
      · exact .inr (heq ▸ hspelled)

end Call

namespace Collection

/-- After one call, two schemas of one namespace whose locators are the same
path are one schema, as long as documents are addressed by paths.  It can be
otherwise only if one of the locators is spelled as the caller or a document
spells it, and is not normal. -/
theorem sole_schema_of_path (call : Call) (hjoins : call.env.resolver.Joins)
    (hcache : ∀ cache, call.around.cache = some cache → cache.entries = [])
    (hpath : call.reading.JoinsPath)
    (hlocal : ∀ (n : Nat) (s : Schema), (call.perform .empty).2.schemas[n]? = some s →
      s.builtin = false → Locator.hasScheme s.key.locator = false)
    {n m : Nat} {s t : Schema} (hs : (call.perform .empty).2.schemas[n]? = some s)
    (ht : (call.perform .empty).2.schemas[m]? = some t) (hsbuiltin : s.builtin = false)
    (htbuiltin : t.builtin = false) (hnamespace : s.logicalNamespace = t.logicalNamespace)
    (hsame : (Path.ofString s.key.locator).normalise = (Path.ofString t.key.locator).normalise) :
    n = m ∨ ∃ locator ∈ [s.key.locator, t.key.locator],
      ¬ Path.IsNormal locator ∧ call.Spelled (call.perform .empty).2 locator := by
  have hrecounted : (call.perform .empty).2.Recounted (Call.supply [call]) :=
    Call.recounted_performAll [call]
  have hcases : ∀ {i : Nat} {u : Schema}, (call.perform .empty).2.schemas[i]? = some u →
      u.builtin = false →
        Path.IsNormal u.key.locator ∨ call.Spelled (call.perform .empty).2 u.key.locator :=
    Call.normal_or_spelled hjoins hcache hpath hrecounted hlocal
  by_cases hsnormal : Path.IsNormal s.key.locator
  · by_cases htnormal : Path.IsNormal t.key.locator
    · have hlocator : s.key.locator = t.key.locator := hsnormal.eq htnormal hsame
      have hkey : s.key = t.key := congrArg₂ SchemaKey.mk hnamespace hlocator
      exact .inl (hrecounted.keyed.eq_of_key hs ht hkey)
    · exact .inr ⟨_, by simp, htnormal, (hcases ht htbuiltin).resolve_left htnormal⟩
  · exact .inr ⟨_, by simp, hsnormal, (hcases hs hsbuiltin).resolve_left hsnormal⟩

/-- A document that includes itself. -/
def selfInclusion : String :=
  "<s:schema xmlns:s=\"http://www.w3.org/2001/XMLSchema\"><s:include schemaLocation=\"a.xsd\"/></s:schema>"

/-- Reading that document under a locator that is not normal. -/
def dottedCall : Call :=
  { env := ⟨.ofDocuments [("a.xsd", selfInclusion)], .keep⟩
    around := {}
    reading := .text "./a.xsd" selfInclusion }

/-- The document is read twice, once as the caller spells its locator. -/
theorem sole_schema_of_path_dotted :
    ∃ s t, (dottedCall.perform .empty).2.schemas[1]? = some s ∧
      (dottedCall.perform .empty).2.schemas[2]? = some t ∧
      s.key = ⟨"", "./a.xsd"⟩ ∧ t.key = ⟨"", "a.xsd"⟩ ∧
      ∃ locator ∈ [s.key.locator, t.key.locator],
        ¬ Path.IsNormal locator ∧ dottedCall.Spelled (dottedCall.perform .empty).2 locator := by
  have hread : (dottedCall.perform .empty).2.registered.map Schema.key =
        [⟨"", "./a.xsd"⟩, ⟨"", "a.xsd"⟩] ∧
      (dottedCall.perform .empty).2.schemas[1]?.map (fun s => (s.builtin, s.key)) =
        some (false, ⟨"", "./a.xsd"⟩) ∧
      (dottedCall.perform .empty).2.schemas[2]?.map (fun s => (s.builtin, s.key)) =
        some (false, ⟨"", "a.xsd"⟩) := by
    decide +kernel
  obtain ⟨hkeys, hfirst, hsecond⟩ := hread
  obtain ⟨s, hs, hskey⟩ := Option.map_eq_some_iff.1 hfirst
  obtain ⟨t, ht, htkey⟩ := Option.map_eq_some_iff.1 hsecond
  obtain ⟨hsbuiltin, hskey⟩ := Prod.mk.inj hskey
  obtain ⟨htbuiltin, htkey⟩ := Prod.mk.inj htkey
  have hlocal : ∀ (n : Nat) (u : Schema), (dottedCall.perform .empty).2.schemas[n]? = some u →
      u.builtin = false → Locator.hasScheme u.key.locator = false := by
    intro n u hu hbuiltin
    have hmem : u.key ∈ (dottedCall.perform .empty).2.registered.map Schema.key := by
      refine List.mem_map_of_mem (List.mem_filter.2 ⟨?_, by rw [hbuiltin]; rfl⟩)
      exact Array.mem_toList_iff.2 (Array.mem_of_getElem? hu)
    rw [hkeys, List.mem_pair] at hmem
    rcases hmem with hkey | hkey <;> rw [hkey] <;> decide
  have hsole := sole_schema_of_path dottedCall (Resolver.joins_ofDocuments _) nofun trivial hlocal
    hs ht hsbuiltin htbuiltin
    (by rw [Schema.logicalNamespace, Schema.logicalNamespace, hskey, htkey])
    (by rw [hskey, htkey]; decide)
  exact ⟨s, t, hs, ht, hskey, htkey, hsole.resolve_left (by decide)⟩

end Collection

end XmlSchema
