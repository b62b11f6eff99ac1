import Mathlib.Data.List.Basic
import XmlSchema.Proofs.Resolution.Fuel
import XmlSchema.Proofs.Resolution.Keys
import XmlSchema.Proofs.Resolution.Record

/-!
# Composing a map of documents

Documents that are served from a map can refer to one another in any way.  Each
time that one is built a new key is registered, and only finitely many keys are
possible: those of a locator of the map and a namespace that is declared by one
of its documents, that is given from outside, or that is empty.
-/

namespace XmlSchema

open Attempt Compose

namespace Resolver

variable (documents : List (String × String)) (top : SchemaKey)

/-- The namespaces under which the documents of a map can be built below a
document that is built under some key. -/
def namespaces : List String :=
  top.namespaceName :: "" :: documents.filterMap fun p =>
    match Located.parse p.1 p.2 with
    | .ok d => declaredTarget? d.document
    | .error _ => none

/-- The keys under which documents can be built when one is built under the
first. -/
def keys : List SchemaKey :=
  top :: documents.flatMap fun p => (namespaces documents top).map fun ns => ⟨ns, p.1⟩

variable {documents top}

theorem length_keys : (keys documents top).length ≤ (ofDocuments documents).depth := by
  have hnamespaces : (namespaces documents top).length ≤ documents.length + 2 :=
    Nat.succ_le_succ (Nat.succ_le_succ (List.length_filterMap_le _ _))
  have hlength : (keys documents top).length =
      documents.length * (namespaces documents top).length + 1 := by
    simp [keys, List.length_flatMap, List.map_const']
  have hmul := Nat.mul_le_mul_left documents.length hnamespaces
  rw [hlength]
  exact Nat.succ_le_succ hmul

/-- A document that a map serves is the text at its locator. -/
theorem lookup_of_answer {r : Request} {d : Located}
    (h : (ofDocuments documents).answer r = .ok (some d)) :
    ∃ text, documents.lookup d.locator = some text ∧ Located.parse d.locator text = .ok d := by
  unfold ofDocuments at h
  dsimp only at h
  split at h
  · cases h
  · rename_i locator text hfound
    obtain ⟨candidate, -, hcandidate⟩ := List.exists_of_findSome?_eq_some hfound
    obtain ⟨text', hlookup, hpair⟩ := Option.map_eq_some_iff.1 hcandidate
    cases hpair
    cases hparse : Located.parse locator text with
    | error e =>
        rw [hparse] at h
        cases h
    | ok d' =>
        rw [hparse] at h
        cases h
        rw [Located.locator_of_parse hparse]
        exact ⟨text, hlookup, hparse⟩

/-- A document that a map serves is one of its texts. -/
theorem exists_text {r : Request} {d : Located}
    (h : (ofDocuments documents).answer r = .ok (some d)) :
    ∃ text, (d.locator, text) ∈ documents ∧ Located.parse d.locator text = .ok d := by
  obtain ⟨text, hlookup, hparse⟩ := lookup_of_answer h
  obtain ⟨before, after, hdocuments, -⟩ := List.lookup_eq_some_iff.1 hlookup
  exact ⟨text, hdocuments ▸ List.mem_append_right _ List.mem_cons_self, hparse⟩

theorem malformed_of_answer {r : Request} {e : SchemaError}
    (h : (ofDocuments documents).answer r = .error e) :
    ∃ locator fault, e = .malformedDocument locator fault := by
  unfold ofDocuments at h
  dsimp only at h
  split at h
  · cases h
  · rename_i locator text _
    unfold Located.parse at h
    split at h
    · cases h
    · cases h
      exact ⟨_, _, rfl⟩

theorem mem_namespaces {locator text : String} {d : Located} {ns : String}
    (hmem : (locator, text) ∈ documents) (hparse : Located.parse locator text = .ok d)
    (hns : declaredTarget? d.document = some ns) : ns ∈ namespaces documents top := by
  refine List.mem_cons_of_mem _ (List.mem_cons_of_mem _ (List.mem_filterMap.2 ?_))
  exact ⟨(locator, text), hmem, by dsimp only; rw [hparse]; exact hns⟩

theorem namespaceName_mem_namespaces {key : SchemaKey} (h : key ∈ keys documents top) :
    key.namespaceName ∈ namespaces documents top := by
  rcases List.mem_cons.1 h with rfl | h
  · exact List.mem_cons_self
  · obtain ⟨p, -, hkey⟩ := List.mem_flatMap.1 h
    obtain ⟨ns, hns, rfl⟩ := List.mem_map.1 hkey
    exact hns

end Resolver

namespace Compose.Plan

/-- The plan of a composition that begins with a document under some key and
goes on with the documents of a map. -/
def served (documents : List (String × String)) (policy : ForeignPolicy) (top : SchemaKey) :
    Plan ⟨.ofDocuments documents, policy⟩ where
  __ := grounded ⟨.ofDocuments documents, policy⟩
  cacheless := True
  key k := k ∈ Resolver.keys documents top
  key_of_offers := by
    intro r source inherited hoffers hinherited
    obtain ⟨text, hmem, hparse⟩ := Resolver.exists_text (hoffers trivial)
    refine List.mem_cons_of_mem _ (List.mem_flatMap.2 ⟨_, hmem, List.mem_map.2 ⟨_, ?_, rfl⟩⟩)
    cases hdeclared : declaredTarget? source.document with
    | some ns => exact Resolver.mem_namespaces hmem hparse hdeclared
    | none =>
        cases inherited with
        | none => exact List.mem_cons_of_mem _ List.mem_cons_self
        | some ns =>
            obtain ⟨k, hk, rfl⟩ := hinherited ns rfl
            exact Resolver.namespaceName_mem_namespaces hk
  admits_of_offers _ _ := trivial

variable {documents : List (String × String)} {policy : ForeignPolicy} {top : SchemaKey}
  {w w' : Workspace}

theorem served_ready (h : w.collection.Numbered) (hcache : w.cache = none) :
    (served documents policy top).Ready w :=
  ⟨h, fun _ => hcache, Nat.zero_le _⟩

/-- With enough depth, no composition of served documents is cut off, nor does
it register a key again. -/
theorem served_broken {e : SchemaError} {fuel : Nat}
    (hfuel : (Resolver.ofDocuments documents).depth < fuel)
    (h : (served documents policy top).Broken w fuel e w') :
    ¬ e.IsTooDeep ∧ ∀ key, e ≠ .duplicateSchema key := by
  have hsize : w'.collection.schemas.size ≤
      w.collection.schemas.size + (Resolver.keys documents top).length :=
    h.1.run.size_le fun _ => id
  have hlength : (Resolver.keys documents top).length ≤ _ := Resolver.length_keys
  cases h.2 with
  | answered r _ hanswer =>
      obtain ⟨locator, fault, rfl⟩ := Resolver.malformed_of_answer hanswer
      exact ⟨nofun, nofun⟩
  | tooDeep locator hdeep => omega
  | _ => exact ⟨nofun, nofun⟩

end Compose.Plan

namespace Compose

/-- Build a document found at a locator, documents being nested less deeply
than a bound. -/
def buildWithin (env : Environment) (fuel : Nat) (d : Located) : Compose Nat := do
  let source ← issue d
  buildSource env fuel source none none

/-- Locate a document and build it, documents being nested less deeply than a
bound. -/
def readWithin (env : Environment) (fuel : Nat) (location : String) (base : Option String) :
    Compose (Option Nat) :=
  resolveNested env (buildSource env fuel) ⟨"", location, base⟩ none none

/-- A call that composes documents, given a bound for their nesting, comes to
an end that does not depend on the bound; keys are registered once, and the
references of all new schemas lead to the schemas of the documents that their
locations are answered with. -/
structure ComesToAnEnd {α : Type} (env : Environment) (call : Nat → Compose α)
    (w : Workspace) (outcome : Except SchemaError α) (later : Workspace) : Prop where
  terminates : ∀ fuel, env.resolver.depth < fuel → exec (call fuel) w = (outcome, later)
  notCutOff : ∀ locator, outcome ≠ .error (.resolution locator .nestedTooDeep)
  keysKept : w.collection.keys <+: later.collection.keys
  nodup : later.collection.keys.Nodup
  cites : ∀ (n : Nat) (s : Schema), w.collection.schemas.size ≤ n →
    later.collection.schemas[n]? = some s →
    ∀ (e : ExternalRef) (location : String) (d : Located), .external e ∈ s.items →
      e.location = some location →
      env.resolver.answer (e.requestIn s.key location) = .ok (some d) →
      ∃ m t, e.target = some m ∧ later.collection.schemas[m]? = some t ∧
        t.key = d.keyUnder (e.inheritedIn s.key)

variable {documents : List (String × String)} {policy : ForeignPolicy} {top : SchemaKey}
  {w w' : Workspace}

/-- What has been composed of served documents refers to schemas by the keys of
their documents. -/
theorem Plan.served_cites (h : (Plan.served documents policy top).Walked w w')
    (hw : w.collection.Numbered) {n : Nat} {s : Schema} (hn : w.collection.schemas.size ≤ n)
    (hs : w'.collection.schemas[n]? = some s) {e : ExternalRef} {location : String} {d : Located}
    (he : .external e ∈ s.items) (hlocation : e.location = some location)
    (hd : (Resolver.ofDocuments documents).answer (e.requestIn s.key location) = .ok (some d)) :
    ∃ m t, e.target = some m ∧ w'.collection.schemas[m]? = some t ∧
      t.key = d.keyUnder (e.inheritedIn s.key) := by
  obtain ⟨cx, -, rfl, hcx, -, -, hcite⟩ := (h.run.keeps hw).items n s hn hs _ he
  have hkey : cx.key = s.key := hcx.key_eq hs
  rw [hkey] at hcite
  exact hcite location hlocation trivial d hd

theorem comesToAnEnd_build (h : w.collection.Keyed) (hcache : w.cache = none) (d : Located) :
    ComesToAnEnd ⟨.ofDocuments documents, policy⟩ (buildWithin ⟨.ofDocuments documents, policy⟩ · d)
      w (exec (build ⟨.ofDocuments documents, policy⟩ d) w).1
      (exec (build ⟨.ofDocuments documents, policy⟩ d) w).2 := by
  have hready : (Plan.served documents policy (d.keyUnder none)).Ready w :=
    Plan.served_ready h.numbered hcache
  have hends := Plan.build_ends hready d List.mem_cons_self fun _ => trivial
  have hwalked := Plan.build_walked hready d List.mem_cons_self fun _ => trivial
  have hdeep : ∀ e, e.IsTooDeep →
      (exec (build ⟨.ofDocuments documents, policy⟩ d) w).1 ≠ .error e := by
    intro e he hexec
    have hrefused := hends.of_error (Prod.ext hexec rfl)
    rcases hrefused with hbroken | ⟨-, -, -, rfl⟩
    · exact (Plan.served_broken (Nat.lt_succ_self _) hbroken).1 he
    · obtain ⟨_, he⟩ := he
      cases he
  exact {
    terminates := fun fuel hfuel => by
      have hbuild := exec_buildSource_of_le (Nat.succ_le_of_lt hfuel) hdeep
      exact hbuild
    notCutOff := fun locator => hdeep _ ⟨locator, rfl⟩
    keysKept := hwalked.run.keys_prefix
    nodup := hwalked.run.keys_nodup h.nodup
    cites := fun n s hn hs e location d' he hlocation hd' =>
      Plan.served_cites hwalked h.numbered hn hs he hlocation hd' }

theorem comesToAnEnd_readLocation (h : w.collection.Keyed) (hcache : w.cache = none)
    (location : String) (base : Option String) :
    ComesToAnEnd ⟨.ofDocuments documents, policy⟩
      (readWithin ⟨.ofDocuments documents, policy⟩ · location base) w
      (exec (readLocation ⟨.ofDocuments documents, policy⟩ location base) w).1
      (exec (readLocation ⟨.ofDocuments documents, policy⟩ location base) w).2 := by
  have hready : (Plan.served documents policy ⟨"", ""⟩).Ready w :=
    Plan.served_ready h.numbered hcache
  have hends := Plan.readLocation_ends hready location base
  have hwalked := Plan.readLocation_walked hready location base
  have hdeep : ∀ e, e.IsTooDeep →
      (exec (readLocation ⟨.ofDocuments documents, policy⟩ location base) w).1 ≠ .error e := by
    intro e he hexec
    have hbroken := hends.of_error (Prod.ext hexec rfl)
    exact (Plan.served_broken (Nat.lt_succ_self _) hbroken).1 he
  exact {
    terminates := fun fuel hfuel =>
      exec_resolveNested_of_le (Nat.succ_le_of_lt hfuel) hdeep
    notCutOff := fun locator => hdeep _ ⟨locator, rfl⟩
    keysKept := hwalked.run.keys_prefix
    nodup := hwalked.run.keys_nodup h.nodup
    cites := fun n s hn hs e location' d he hlocation hd =>
      Plan.served_cites hwalked h.numbered hn hs he hlocation hd }

/-- A call to build a document finds its schema registered already exactly when
the key of the document is there at the start. -/
theorem build_duplicate_iff (h : w.collection.Keyed) (hcache : w.cache = none) (d : Located)
    (key : SchemaKey) :
    (exec (build ⟨.ofDocuments documents, policy⟩ d) w).1 = .error (.duplicateSchema key) ↔
      d.document.tag.is schemaNamespace "schema" = true ∧ key = d.keyUnder none ∧
        key ∈ w.collection.keys := by
  constructor
  · intro hexec
    have hready : (Plan.served documents policy (d.keyUnder none)).Ready w :=
      Plan.served_ready h.numbered hcache
    have hends := Plan.build_ends hready d List.mem_cons_self fun _ => trivial
    rcases hends.of_error (Prod.ext hexec rfl) with hbroken | ⟨-, -, hsome, hkey⟩
    · exact absurd rfl ((Plan.served_broken (Nat.lt_succ_self _) hbroken).2 key)
    · cases hkey
      refine ⟨?_, rfl, Collection.schema?_isSome_iff.1 hsome⟩
      cases hroot : d.document.tag.is schemaNamespace "schema" with
      | true => rfl
      | false =>
          rw [exec_build_of_not_schema _ w d hroot] at hexec
          cases hexec
  · rintro ⟨hroot, rfl, hmem⟩
    rw [exec_build_of_registered _ w d hroot (Collection.schema?_isSome_iff.2 hmem)]

end Compose

/-- Composing documents that a map serves comes to an end in every collection
that calls lead to; only a document that is built by itself can be found to be
registered already. -/
theorem Collection.Reachable.comesToAnEnd {w : Workspace}
    (h : w.collection.Reachable fun _ _ => True) (hcache : w.cache = none)
    (documents : List (String × String)) (policy : ForeignPolicy) :
    let env : Environment := ⟨.ofDocuments documents, policy⟩
    (∀ d : Located,
      ComesToAnEnd env (buildWithin env · d) w (exec (build env d) w).1 (exec (build env d) w).2 ∧
      ∀ key, (exec (build env d) w).1 = .error (.duplicateSchema key) ↔
        d.document.tag.is schemaNamespace "schema" = true ∧ key = d.keyUnder none ∧
          key ∈ w.collection.keys) ∧
    ∀ (location : String) (base : Option String),
      ComesToAnEnd env (readWithin env · location base) w (exec (readLocation env location base) w).1
        (exec (readLocation env location base) w).2 ∧
      ∀ key, (exec (readLocation env location base) w).1 ≠ .error (.duplicateSchema key) := by
  have hkeyed := h.keyed
  refine ⟨fun d => ⟨comesToAnEnd_build hkeyed hcache d, build_duplicate_iff hkeyed hcache d⟩,
    fun location base => ⟨comesToAnEnd_readLocation hkeyed hcache location base, ?_⟩⟩
  intro key hexec
  have hready : (Plan.served documents policy ⟨"", ""⟩).Ready w :=
    Plan.served_ready hkeyed.numbered hcache
  have hbroken := (Plan.readLocation_ends hready location base).of_error (Prod.ext hexec rfl)
  exact (Plan.served_broken (Nat.lt_succ_self _) hbroken).2 key rfl

/-- Two documents that include one another. -/
def includeRing : List (String × String) :=
  [("a.xsd", "<s:schema xmlns:s=\"http://www.w3.org/2001/XMLSchema\">" ++
      "<s:include schemaLocation=\"b.xsd\"/></s:schema>"),
   ("b.xsd", "<s:schema xmlns:s=\"http://www.w3.org/2001/XMLSchema\">" ++
      "<s:include schemaLocation=\"a.xsd\"/></s:schema>")]

/-- The first document includes the second, which includes the first while it
is still in progress. -/
theorem comesToAnEnd_includeRing :
    let env : Environment := ⟨.ofDocuments includeRing, .keep⟩
    let call := readLocation env "a.xsd" none
    ComesToAnEnd env (readWithin env · "a.xsd" none) {} (exec call {}).1 (exec call {}).2 ∧
      ((exec call {}).2.collection.registered.map fun s => s.externals.map ExternalRef.target) =
        [[some 2], [some 1]] :=
  ⟨((Collection.Reachable.comesToAnEnd .empty rfl includeRing .keep).2 "a.xsd" none).1,
    by decide +kernel⟩

end XmlSchema
