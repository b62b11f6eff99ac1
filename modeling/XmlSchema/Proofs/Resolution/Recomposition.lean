import XmlSchema.Proofs.Collection.Emission
import XmlSchema.Proofs.Document.References
import XmlSchema.Proofs.Resolution.Termination

/-!
# Composing what was written

A composition is written as documents that, when they are served at their
locators, are composed in the same way: the same schemas under the same keys,
one after the other, with the same parents and with references that lead to the
same schemas.  What can keep them from being read stands inside of a document.
-/

namespace XmlSchema

open Attempt Compose

namespace Resolver

/-- A resolver over trees by locator, which looks where one over texts does. -/
def ofTrees (trees : List (String × Xml.Element)) : Resolver where
  answer r :=
    .ok ([Locator.join r.location r.base, r.location].findSome? fun candidate =>
      (trees.lookup candidate).map (Located.mk candidate))
  size := trees.length

/-- A map serves a document with a skeleton at a locator. -/
def Serves (documents : List (String × String)) (locator : String) (k : Skeleton) : Prop :=
  ∃ text d, documents.lookup locator = some text ∧ Located.parse locator text = .ok d ∧
    k = skeletonOf d.document

variable {documents : List (String × String)} {trees : List (String × Xml.Element)}
  {policy policy' : ForeignPolicy} {locator : String} {k k' : Skeleton} {r : Request}

theorem Serves.unique (h : Serves documents locator k) (h' : Serves documents locator k') :
    k = k' := by
  obtain ⟨text, d, hlookup, hparse, rfl⟩ := h
  obtain ⟨text', d', hlookup', hparse', rfl⟩ := h'
  cases Option.some.inj (hlookup.symm.trans hlookup')
  cases Except.ok.inj (hparse.symm.trans hparse')
  rfl

theorem serves_of_guide (h : Environment.guide ⟨.ofDocuments documents, policy⟩ r =
    some (some (locator, k))) : Serves documents locator k := by
  unfold Environment.guide at h
  split at h
  · cases h
  · cases h
  · rename_i d hanswer
    cases h
    obtain ⟨text, hlookup, hparse⟩ := lookup_of_answer hanswer
    exact ⟨text, d, hlookup, hparse, rfl⟩

theorem proper_ofDocuments (documents : List (String × String)) (policy : ForeignPolicy) :
    Environment.Proper ⟨.ofDocuments documents, policy⟩ := by
  intro r d hanswer
  obtain ⟨text, -, hparse⟩ := lookup_of_answer hanswer
  unfold Located.parse at hparse
  split at hparse
  · rename_i hdocument
    rw [← Except.ok.inj hparse]
    exact Xml.Element.proper_of_parse hdocument
  · cases hparse

/-- Trees with the skeletons of the texts in their places answer a request as
the texts do, when all that the texts answer with is among them. -/
theorem guide_ofTrees {answer : Option (String × Skeleton)}
    (hguide : Environment.guide ⟨.ofDocuments documents, policy⟩ r = some answer)
    (hnone : ∀ l, documents.lookup l = none → trees.lookup l = none)
    (hsome : ∀ l k, answer = some (l, k) → ∃ d, trees.lookup l = some d ∧ skeletonOf d = k) :
    Environment.guide ⟨.ofTrees trees, policy'⟩ r = some answer := by
  unfold Environment.guide ofDocuments at hguide
  unfold Environment.guide ofTrees
  dsimp only at hguide ⊢
  cases hfound : [Locator.join r.location r.base, r.location].findSome? fun candidate =>
      (documents.lookup candidate).map fun text => (candidate, text) with
  | none =>
      rw [hfound] at hguide
      cases hguide
      have habsent : [Locator.join r.location r.base, r.location].findSome? (fun candidate =>
          (trees.lookup candidate).map (Located.mk candidate)) = none := by
        refine List.findSome?_eq_none_iff.2 fun candidate hcandidate => ?_
        have hlookup := List.findSome?_eq_none_iff.1 hfound candidate hcandidate
        rw [hnone candidate (Option.map_eq_none_iff.1 hlookup)]
        rfl
      rw [habsent]
  | some found =>
      obtain ⟨before, candidate, after, hcandidates, hlookup, hbefore⟩ :=
        List.findSome?_eq_some_iff.1 hfound
      obtain ⟨text, htext, rfl⟩ := Option.map_eq_some_iff.1 hlookup
      rw [hfound] at hguide
      dsimp only at hguide
      cases hparse : Located.parse candidate text with
      | error e =>
          rw [hparse] at hguide
          cases hguide
      | ok d =>
          rw [hparse] at hguide
          cases hguide
          obtain ⟨tree, htree, hskeleton⟩ := hsome _ _ rfl
          rw [Located.locator_of_parse hparse] at htree ⊢
          have hpresent : [Locator.join r.location r.base, r.location].findSome? (fun candidate =>
              (trees.lookup candidate).map (Located.mk candidate)) = some ⟨candidate, tree⟩ := by
            refine List.findSome?_eq_some_iff.2
              ⟨before, candidate, after, hcandidates, by rw [htree]; rfl, fun other hother => ?_⟩
            rw [hnone other (Option.map_eq_none_iff.1 (hbefore other hother))]
            rfl
          rw [hpresent, ← hskeleton]

end Resolver

namespace Compose

theorem plain_empty (parsed : Prop) : Workspace.Plain parsed {} :=
  ⟨rfl, rfl, fun _ => Collection.secluded_empty⟩

section Rereading

variable {documents : List (String × String)} {policy policy' policy'' : ForeignPolicy}
  {location : String} {base : Option String} {n : Nat} {w : Workspace}
  (hread : exec (readLocation ⟨.ofDocuments documents, policy⟩ location base) {} =
    (.ok (some n), w))

include hread

/-- What has been read has been drawn. -/
theorem drawn_of_read :
    w.Plain True ∧ Plot.follow (Environment.guide ⟨.ofDocuments documents, policy⟩)
      (Plot.draw (Environment.guide ⟨.ofDocuments documents, policy⟩)
        ((Resolver.ofDocuments documents).depth + 1))
      ⟨"", location, base⟩ none none ({} : Workspace).plot = some (some n, w.plot) := by
  have henv : True → Environment.Proper ⟨.ofDocuments documents, policy⟩ :=
    fun _ => Resolver.proper_ofDocuments documents policy
  obtain ⟨hplain, drawn, hdrawn, rfl⟩ :=
    (readLocation_traces henv (plain_empty True) location base).of_ok hread
  exact ⟨hplain, hdrawn⟩

theorem follows_of_read :
    Plot.Follows (Environment.guide ⟨.ofDocuments documents, policy⟩) (fun _ _ => False)
      ({} : Workspace).plot (some n) w.plot :=
  Plot.follow_follows (Plot.draw_draws _ _) (drawn_of_read hread).2

/-- Every schema but that of the built-in types shows a document of the map. -/
theorem shown_of_read {m : Nat} {s : Schema} (hm : m ≠ 0)
    (hs : w.collection.schemas[m]? = some s) :
    ∃ locator k, Resolver.Serves documents locator k ∧ s.sheet.Shows locator k := by
  have hsheet : w.plot.sheets[m]? = some s.sheet := by
    show w.collection.sheets[m]? = _
    rw [Collection.getElem?_sheets, hs]
    rfl
  obtain ⟨locator, k, hknown, hshows⟩ := (follows_of_read hread).shown m s.sheet
    (Nat.one_le_iff_ne_zero.2 hm) hsheet
  obtain ⟨r, -, hguide⟩ := hknown.resolve_left id
  exact ⟨locator, k, Resolver.serves_of_guide hguide, hshows⟩

theorem sheet_of_read {s : Schema} (hs : w.collection.schemas[0]? = some s) :
    s.sheet = Catalogue.schema.sheet := by
  obtain ⟨more, hmore⟩ := (follows_of_read hread).earlier
  have hsheet : w.plot.sheets[0]? = some s.sheet := by
    show w.collection.sheets[0]? = _
    rw [Collection.getElem?_sheets, hs]
    rfl
  rw [← hmore] at hsheet
  exact (Option.some.inj hsheet).symm

/-- Every schema but that of the built-in types is written together with the
one that was read. -/
theorem emits_of_read {m : Nat} (hm : m ≠ 0) (hlt : m < w.collection.schemas.size) :
    w.collection.Emits true n m := by
  obtain ⟨first, hfirst, hreach⟩ := (follows_of_read hread).linked m
    (Nat.one_le_iff_ne_zero.2 hm) (w.collection.length_sheets.symm ▸ hlt)
  cases hfirst
  refine hreach.lift id ?_
  rintro a b ⟨sheet, hsheet, e, he, htarget⟩
  obtain ⟨s, hs, rfl⟩ := Option.map_eq_some_iff.1
    ((w.collection.getElem?_sheets a).symm.trans hsheet)
  obtain ⟨e', he', rfl⟩ := List.mem_map.1 he
  have ha : a ≠ 0 := by
    rintro rfl
    rw [sheet_of_read hread hs] at he
    cases he
  obtain ⟨locator, k, -, hshows⟩ := shown_of_read hread ha hs
  refine ⟨rfl, s, hs, hshows.builtin_eq, List.mem_filterMap.2 ⟨e', he', ?_⟩⟩
  have htarget' : e'.target = some b := htarget
  unfold Collection.externalTarget?
  rw [htarget']
  rfl

/-- A written document has the skeleton of the document that its schema was
read from. -/
theorem serves_of_document {m : Nat} {s : Schema} {d : Xml.Element} (hm : m ≠ 0)
    (hs : w.collection.schemas[m]? = some s) (hd : w.collection.document policy' s = .ok d) :
    Resolver.Serves documents s.key.locator (skeletonOf d) := by
  obtain ⟨locator, k, hserves, hshows⟩ := shown_of_read hread hm hs
  obtain ⟨inherited, hkey⟩ := hshows.key_eq
  have hlocator : s.key.locator = locator := congrArg SchemaKey.locator hkey
  obtain ⟨text, source, hlookup, hparse, rfl⟩ := hserves
  -- references are listed as the document gives them, without a target
  have hreferences : ∀ r ∈ (skeletonOf source.document).references, r.untargeted = r ∧ r.Plain := by
    intro r hr
    obtain ⟨e, -, he⟩ := List.mem_filterMap.1 hr
    exact ⟨untargeted_of_reference? he, plain_of_reference? he⟩
  have hlinks : s.externals.map (fun e => e.bare.untargeted) =
      (skeletonOf source.document).references := by
    have hmap := hshows.links_eq
    rw [List.map_congr_left fun r hr => (hreferences r hr).1, List.map_id'] at hmap
    rw [← hmap, show s.sheet.links = s.externals.map ExternalRef.bare from rfl, List.map_map]
    rfl
  have hplain : ∀ e ∈ s.externals, e.Plain := by
    intro e he
    have hmem : e.bare.untargeted ∈ (skeletonOf source.document).references :=
      hlinks ▸ List.mem_map_of_mem he
    obtain ⟨hlocation, hnamespace⟩ := (hreferences _ hmem).2
    exact ⟨hlocation, hnamespace⟩
  have htarget : s.targetNamespace ≠ some "" := by
    have heq : s.targetNamespace = declaredTarget? source.document := hshows.target_eq
    rw [heq]
    intro hempty
    exact absurd (Option.filter_eq_some_iff.1 hempty).2 (by decide)
  have hskeleton := Writer.skeletonOf_document hd ((drawn_of_read hread).1.secluded trivial m s hs)
    hplain htarget
  have hschema := hshows.isSchema_eq
  refine ⟨text, source, hlocator ▸ hlookup, hlocator ▸ hparse, ?_⟩
  rw [hskeleton, hlinks, show s.targetNamespace = (skeletonOf source.document).target from
    hshows.target_eq, ← hschema]

/-- The documents that have been written, by locator. -/
def treesOf (written : List WrittenSchema) : List (String × Xml.Element) :=
  written.map fun d => (d.key.locator, d.document)

omit hread in
theorem lookup_treesOf {written : List WrittenSchema} (hdistinct :
    (written.map (·.key.locator)).Nodup) {d : WrittenSchema} (hd : d ∈ written) :
    (treesOf written).lookup d.key.locator = some d.document := by
  obtain ⟨before, after, rfl⟩ := List.append_of_mem hd
  refine List.lookup_eq_some_iff.2 ⟨treesOf before, treesOf after, by simp [treesOf], ?_⟩
  intro p hp
  obtain ⟨d', hd', rfl⟩ := List.mem_map.1 hp
  rw [List.map_append, List.map_cons, List.nodup_append] at hdistinct
  exact bne_iff_ne.2 (Ne.symm (hdistinct.2.2 _ (List.mem_map_of_mem hd') _ List.mem_cons_self))

variable {written : List WrittenSchema}
  (hwrite : (w.collection.write policy' n true).1 = .ok written)

include hwrite

/-- Nothing is served in the place of a document that was not there. -/
theorem lookup_treesOf_none {locator : String} (h : documents.lookup locator = none) :
    (treesOf written).lookup locator = none := by
  refine List.lookup_eq_none_iff.2 fun p hp => ?_
  obtain ⟨d, hd, rfl⟩ := List.mem_map.1 hp
  obtain ⟨m, s, hs, hauthored, hkey, hdocument⟩ := Collection.schema_of_mem_write hwrite hd
  have hm : m ≠ 0 := by
    rintro rfl
    have hbuiltin : s.builtin = true := congrArg Sheet.builtin (sheet_of_read hread hs)
    rw [hauthored] at hbuiltin
    cases hbuiltin
  obtain ⟨text, -, hlookup, -⟩ := serves_of_document hread hm hs hdocument
  refine bne_iff_ne.2 ?_
  rintro rfl
  rw [hkey, hlookup] at h
  cases h

/-- What a request has led to is served again. -/
theorem guide_treesOf (hbuiltin : documents.lookup Catalogue.locator = none)
    (hdistinct : (written.map (·.key.locator)).Nodup) {r : Request} (hr : r ∈ w.requests) :
    Environment.guide ⟨.ofTrees (treesOf written), policy''⟩ r =
      Environment.guide ⟨.ofDocuments documents, policy⟩ r := by
  obtain ⟨answer, hguide, hhas⟩ :=
    ((follows_of_read hread).answered r hr).resolve_left List.not_mem_nil
  rw [hguide]
  refine Resolver.guide_ofTrees hguide (fun l => lookup_treesOf_none hread hwrite) ?_
  rintro locator k rfl
  have hserves := Resolver.serves_of_guide hguide
  obtain ⟨m, sheet, hsheet, inherited, hkey⟩ := hhas locator k rfl
  obtain ⟨s, hs, rfl⟩ := Option.map_eq_some_iff.1
    ((w.collection.getElem?_sheets m).symm.trans hsheet)
  have hlocator : s.key.locator = locator := congrArg SchemaKey.locator hkey
  have hm : m ≠ 0 := by
    rintro rfl
    have hcatalogue : s.key.locator = Catalogue.locator :=
      congrArg (fun sheet : Sheet => sheet.key.locator) (sheet_of_read hread hs)
    obtain ⟨text, -, hlookup, -⟩ := hserves
    rw [← hlocator, hcatalogue, hbuiltin] at hlookup
    cases hlookup
  obtain ⟨_, _, -, hshows⟩ := shown_of_read hread hm hs
  obtain ⟨d, hd, hmem⟩ := Collection.mem_write_of_emits hwrite
    (emits_of_read hread hm (Array.getElem?_eq_some_iff.1 hs).1) hs hshows.builtin_eq
  have hdocument := serves_of_document hread hm hs hd
  rw [hlocator] at hdocument
  exact ⟨d, hlocator ▸ lookup_treesOf hdistinct hmem, hdocument.unique hserves⟩

/-- There are no more schemas than written documents. -/
theorem size_le_of_write : w.collection.schemas.size ≤ written.length + 1 := by
  have hkeyed : w.collection.Keyed := by
    have hreachable := @Collection.Reachable.perform (fun _ _ => True) .empty .empty
      (.readLocation ⟨.ofDocuments documents, policy⟩ {} location base) trivial
    have hw : (exec (readLocation ⟨.ofDocuments documents, policy⟩ location base) {}).2 = w :=
      congrArg Prod.snd hread
    exact hw ▸ hreachable.keyed
  have hsub : w.collection.keys.tail ⊆ written.map WrittenSchema.key := by
    intro key hkey
    obtain ⟨i, hi⟩ := List.getElem?_of_mem hkey
    rw [List.getElem?_tail, Collection.getElem?_keys] at hi
    obtain ⟨s, hs, rfl⟩ := Option.map_eq_some_iff.1 hi
    obtain ⟨_, _, -, hshows⟩ := shown_of_read hread (Nat.succ_ne_zero i) hs
    obtain ⟨d, -, hmem⟩ := Collection.mem_write_of_emits hwrite
      (emits_of_read hread (Nat.succ_ne_zero i) (Array.getElem?_eq_some_iff.1 hs).1) hs
      hshows.builtin_eq
    exact List.mem_map_of_mem hmem
  have hle := (List.subperm_of_subset hkeyed.nodup.tail hsub).length_le
  rw [List.length_tail, Collection.length_keys, List.length_map] at hle
  omega

end Rereading

/-- A document that includes one without a target namespace, which includes the
first one again. -/
def chameleonRing : List (String × String) :=
  [("a.xsd", "<s:schema xmlns:s=\"http://www.w3.org/2001/XMLSchema\" targetNamespace=\"urn:a\">" ++
      "<s:element name=\"e\"/><s:include schemaLocation=\"b.xsd\"/></s:schema>"),
   ("b.xsd", "<s:schema xmlns:s=\"http://www.w3.org/2001/XMLSchema\">" ++
      "<s:include schemaLocation=\"a.xsd\"/></s:schema>")]

/-- The state in which the ring has been read. -/
def chameleonRingRead : Workspace :=
  (exec (readLocation ⟨.ofDocuments chameleonRing, .keep⟩ "a.xsd" none) {}).2

end Compose

end XmlSchema
