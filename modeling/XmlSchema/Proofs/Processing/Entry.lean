import XmlSchema.Proofs.Collection.EmissionOrder
import XmlSchema.Proofs.Processing.Alone
import XmlSchema.Proofs.Processing.Outputs
import XmlSchema.Proofs.Resolution.Locators

/-!
# The schema of an entry document

A file is processed after the documents of known namespaces.  When one of these
has brought the file along, that schema is taken for the file, under whatever
namespace it has been read; otherwise the file is read as its own.
-/

namespace XmlSchema

open Attempt

namespace Compose

variable {env : Environment} {w w' : Workspace} {source : Source} {parent : Option SchemaKey}
  {inherited : Option String} {n : Nat}

/-- A document that is built begins a schema of its own, which only grows. -/
theorem opened_grows {fuel : Nat} (hc : w.collection.Numbered)
    (h : exec (buildSource env fuel source parent inherited) w = (.ok n, w')) :
    n = w.collection.schemas.size ∧
      (opened env w source parent inherited).collection.Grows w'.collection := by
  cases fuel with
  | zero => cases h
  | succ fuel =>
      cases hroot : source.document.tag.is schemaNamespace "schema" with
      | false =>
          rw [exec_buildSource_of_not_schema env parent hroot] at h
          cases h
      | true =>
          cases hnew : w.collection.schema? (keyOf source inherited) with
          | some s =>
              rw [exec_buildSource_of_registered env parent hroot (by rw [hnew]; rfl)] at h
              cases h
          | none =>
              rw [exec_buildSource env parent hroot hnew] at h
              have hready : (Plan.grounded env).Ready (opened env w source parent inherited) :=
                ⟨hc.push rfl, False.elim, Nat.zero_le _⟩
              have hplaces : (opened env w source parent inherited).collection.Places env.policy
                  (Context.ofSchema (rootSchema env.policy w.collection.schemas.size source parent
                    inherited) env.policy) :=
                ⟨_, Plan.schemas_opened env w source parent inherited, rfl⟩
              have hkids : ∀ e ∈ source.document.childElements,
                  (Xml.Node.ofElement e).Every ((Plan.grounded env).reading (Context.ofSchema
                    (rootSchema env.policy w.collection.schemas.size source parent inherited)
                      env.policy)).tag :=
                fun e _ => Xml.Node.every_of_forall (fun _ => trivial) _
              have hpass := Plan.topLevelPass_ends (Plan.buildSource_ends fuel) trivial hready
                hplaces hkids ((Scope.inherited (fallback w source parent inherited)).enter
                  source.document.tag.declared)
              unfold Ends at hpass
              split at hpass
              · rename_i w₂ heq
                rw [heq] at h
                cases h
                refine ⟨rfl, hpass.run.grows.trans (.modify fun s _ => ?_)⟩
                exact ⟨rfl, .refl _, List.prefix_refl _, List.prefix_refl _⟩
              · rename_i e w₂ heq
                rw [heq] at h
                cases h

/-- A document that is built as its own has been begun with its root. -/
theorem exists_readFrom_of_build {d : Located} (hc : w.collection.Numbered)
    (h : exec (build env d) w = (.ok n, w')) :
    ∃ s, w'.collection.schemas[n]? = some s ∧
      s.ReadFrom ⟨d.locator, d.document, w.nextTicket⟩ none none := by
  rw [exec_build] at h
  obtain ⟨rfl, hgrows⟩ := opened_grows (by exact hc) h
  obtain ⟨s, hs, hroot⟩ := hgrows _ _ (Plan.schemas_opened env _ _ none none)
  exact ⟨s, hs, Schema.ReadFrom.grow ⟨rfl, rfl, rfl, rfl, rfl, rfl⟩ hroot⟩

end Compose

namespace Collection

/-- A schema that is written comes first. -/
theorem exists_written_cons {c : Collection} {policy : ForeignPolicy} {n : Nat} {s : Schema}
    {recursive : Bool} {written : List WrittenSchema}
    (h : (c.write policy n recursive).1 = .ok written) (hs : c.schemas[n]? = some s)
    (hauthored : s.builtin = false) : ∃ d rest, written = d :: rest ∧ d.key = s.key := by
  cases recursive with
  | false =>
      rw [write_alone policy hs hauthored] at h
      cases hd : c.document policy s with
      | error e =>
          rw [hd] at h
          cases h
      | ok d =>
          rw [hd] at h
          cases h
          exact ⟨_, [], rfl, rfl⟩
  | true =>
      obtain ⟨-, written', hwritten', heach⟩ | ⟨-, err, herr⟩ := write_cases c policy n
      · cases h.symm.trans hwritten'
        obtain ⟨others, horder⟩ := List.head?_eq_some_iff.1 (head?_emissionOrder hs hauthored)
        rw [horder] at heach
        cases heach with
        | cons hd _ =>
            have hkey := hd.key
            rw [hs] at hkey
            exact ⟨_, _, rfl, (Option.some.inj hkey).symm⟩
      · cases h.symm.trans herr

end Collection

/-- A path leads to the document of its file. -/
theorem Resolver.parse_of_locate {t : FileTree} {path : String} {d : Located}
    (hpath : Locator.hasScheme path = false) (h : locate t path = .ok (some d)) :
    ∃ text, t.read path = .ok text ∧ Located.parse path text = .ok d := by
  have hread : readAt t path path = .ok (some d) := by
    rw [← h, locate, hpath]
    rfl
  unfold readAt at hread
  split at hread
  · rename_i text htext
    refine ⟨text, htext, ?_⟩
    cases hparse : Located.parse path text with
    | error e =>
        rw [hparse] at hread
        cases hread
    | ok d' =>
        rw [hparse] at hread
        cases hread
        rfl
  · cases hread
  · cases hread

namespace Processor

open Compose

variable {p : Processor} {b : Bench} {path : String}

/-- A request is answered with a document, by the resolver or by the cache of
the worker. -/
def Serves (p : Processor) (b : Bench) (r : Request) (source : Source) : Prop :=
  (p.resolver b.tree).answer r = .ok (some ⟨source.locator, source.document⟩) ∨
    ∃ cache, b.worker.cache = some cache ∧ (r, source) ∈ cache.entries

/-- The document of a file. -/
def IsFile (b : Bench) (path : String) (document : Xml.Element) : Prop :=
  ∃ text, b.tree.read path = .ok text ∧ Located.parse path text = .ok ⟨path, document⟩

/-- Under the path of a file, nothing but its document is served. -/
def Faithful (p : Processor) (b : Bench) (path : String) : Prop :=
  ∀ r source, p.Serves b r source → source.locator = path → IsFile b path source.document

/-- The documents that come up when a file is processed. -/
def supply (p : Processor) (b : Bench) (path : String) : Supply where
  handed source :=
    source.locator = path ∧ IsFile b path source.document ∨
      ∃ known ∈ p.knownNamespaces, p.Serves b ⟨"", known.2, p.baseUri⟩ source
  answers := p.Serves b

theorem loadKnown_records {supply : Supply} {env : Environment}
    (hanswers : ∀ r source, env.resolver.answer r = .ok (some ⟨source.locator, source.document⟩) →
      supply.answers r source)
    {known : List (String × String)} {w : Workspace} (h : Recorded supply w)
    (hhanded : ∀ k ∈ known, ∀ source, supply.answers ⟨"", k.2, p.baseUri⟩ source →
      supply.handed source) :
    Ends (p.loadKnown env known) w (fun _ w' => Compose.Records supply w w')
      fun _ _ => True := by
  induction known generalizing w with
  | nil => exact .refl h
  | cons entry rest ih =>
      obtain ⟨ns, location⟩ := entry
      obtain ⟨hentry, hrest⟩ := List.forall_mem_cons.1 hhanded
      unfold loadKnown
      have hread := resolveNested_records hanswers
        (buildSource_records hanswers (env.resolver.depth + 1)) h
        ⟨"", location, p.baseUri⟩ none none {} fun source hsource =>
          .handed (hentry source hsource)
      refine Ends.bind (hread.mono (fun _ _ h => h) fun _ _ _ => trivial) ?_
      rintro found w₁ hw₁
      cases found with
      | none => exact (ih hw₁.recorded hrest).mono (fun _ _ h => hw₁.trans h) fun _ _ h => h
      | some number =>
          have hmap : Compose.Records supply w₁
              { w₁ with collection := w₁.collection.mapNamespace ns number } :=
            .inPlace hw₁.recorded (.of_schemas_eq rfl) (.of_components fun _ => rfl)
          exact (ih hmap.recorded hrest).mono (fun _ _ h => (hw₁.trans hmap).trans h)
            fun _ _ h => h

/-- How the schema of a file has come about: it is the first one that known
namespaces have brought along under the path of the file, or, where there is
none, the file has been read as its own. -/
inductive Comes (p : Processor) (b : Bench) (path : String) (preloaded ws : Workspace)
    (number : Nat) (s : Schema) (source : Source) :
    Bool → Option SchemaKey → Option String → Prop
  | read (hnew : ∀ u ∈ preloaded.collection.registered, u.key.locator ≠ path)
      (hfile : IsFile b path source.document) :
      Comes p b path preloaded ws number s source true none none
  | brought {parent : Option SchemaKey} {inherited : Option String} {lent : Bindings}
      (hfirst : (preloaded.collection.registered.find? fun u => u.key.locator = path) = some s)
      (hws : ws = preloaded)
      (hoccasion : Occasion (p.supply b path) ws.collection number source parent inherited lent) :
      Comes p b path preloaded ws number s source false parent inherited

theorem compose_comes {number : Nat} {direct : Bool} {ws : Workspace}
    (h : exec (p.compose b.tree path) b.worker.workspace = (.ok (number, direct), ws)) :
    ∃ preloaded s source parent inherited,
      exec (p.loadKnown (p.environment b.tree) p.knownNamespaces) b.worker.workspace =
        (.ok ⟨⟩, preloaded) ∧
      ws.collection.schemas[number]? = some s ∧ s.ReadFrom source parent inherited ∧
      source.locator = path ∧
      Comes p b path preloaded ws number s source direct parent inherited := by
  have hanswers : ∀ r source,
      (p.environment b.tree).resolver.answer r = .ok (some ⟨source.locator, source.document⟩) →
        (p.supply b path).answers r source := fun r source h => .inl h
  have hstart : Recorded (p.supply b path) b.worker.workspace :=
    ⟨Call.recounted_empty _, fun cache hcache entry hentry => .inr ⟨cache, hcache, hentry⟩⟩
  have hknown : Ends (p.loadKnown (p.environment b.tree) p.knownNamespaces) b.worker.workspace
      (fun _ w' => Compose.Records (p.supply b path) b.worker.workspace w') fun _ _ => True :=
    p.loadKnown_records hanswers hstart fun k hk source hsource => .inr ⟨k, hk, hsource⟩
  unfold compose at h
  dsimp only at h
  rw [exec_bind] at h
  rcases hload : exec (p.loadKnown (p.environment b.tree) p.knownNamespaces) b.worker.workspace
    with ⟨e | ⟨⟩, preloaded⟩
  · rw [hload] at h
    cases h
  have hpreloaded := hknown.of_ok hload
  rw [hload] at h
  dsimp only at h
  unfold buildEntry at h
  rw [exec_bind, exec_get] at h
  dsimp only at h
  split at h
  · rename_i s hfirst
    cases h
    have hlocator : s.key.locator = path := by simpa using List.find?_some hfirst
    obtain ⟨hmem, hauthored⟩ := List.mem_filter.1 (List.mem_of_find?_eq_some hfirst)
    obtain ⟨n, hn⟩ := Array.getElem?_of_mem (Array.mem_toList_iff.1 hmem)
    have hnumber := hpreloaded.recorded.collection.keyed.numbered n s hn
    obtain ⟨source, lent, -, ⟨parent, inherited, hread, hoccasion⟩, -⟩ :=
      hpreloaded.recorded.collection.recounts n s hn (by simpa using hauthored)
    rw [← hnumber] at hn hoccasion
    refine ⟨_, s, source, parent, inherited, rfl, hn, hread, ?_, .brought hfirst rfl hoccasion⟩
    rw [← hlocator, hread.key_eq]
    rfl
  · rename_i hnone
    split at h
    · cases h
    · rename_i text htext
      rw [exec_bind] at h
      split at h
      · rename_i n later hbuild
        cases h
        unfold buildText at hbuild
        cases hd : Located.parse path text with
        | error e =>
            rw [hd] at hbuild
            cases hbuild
        | ok d =>
            rw [hd] at hbuild
            obtain ⟨s, hs, hread⟩ := exists_readFrom_of_build
              hpreloaded.recorded.collection.keyed.numbered hbuild
            have hlocator : d.locator = path := Located.locator_of_parse hd
            refine ⟨_, s, _, none, none, rfl, hs, hread, hlocator, .read ?_ ⟨text, htext, ?_⟩⟩
            · exact fun u hu => by simpa using List.find?_eq_none.1 hnone u hu
            · rw [hd, ← hlocator]
      · cases h

theorem Comes.isFile {preloaded ws : Workspace} {number : Nat} {s : Schema} {source : Source}
    {direct : Bool} {parent : Option SchemaKey} {inherited : Option String}
    (h : Comes p b path preloaded ws number s source direct parent inherited)
    (hlocator : source.locator = path) (hfaithful : p.Faithful b path) :
    IsFile b path source.document := by
  cases h with
  | read hnew hfile => exact hfile
  | brought hfirst hws hoccasion =>
      cases hoccasion with
      | handed hhanded =>
          rcases hhanded with ⟨-, hfile⟩ | ⟨known, -, hserves⟩
          · exact hfile
          · exact hfaithful _ _ hserves hlocator
      | reference hm hp hread he hkind hlocation hanswers =>
          exact hfaithful _ _ hanswers hlocator

/-- A resolver that reads files is faithful, and so is a cache of its answers. -/
theorem faithful_ofFiles (hresolver : p.resolver = Resolver.ofFiles)
    (hpath : Locator.hasScheme path = false)
    (hcache : ∀ cache, b.worker.cache = some cache → ∀ entry ∈ cache.entries,
      (p.resolver b.tree).answer entry.1 = .ok (some ⟨entry.2.locator, entry.2.document⟩)) :
    p.Faithful b path := by
  intro r source hserves hlocator
  have hanswer : (p.resolver b.tree).answer r =
      .ok (some ⟨source.locator, source.document⟩) := by
    rcases hserves with hanswer | ⟨cache, heq, hentry⟩
    · exact hanswer
    · exact hcache cache heq _ hentry
  rw [hresolver] at hanswer
  unfold Resolver.ofFiles at hanswer
  dsimp only at hanswer
  have hjoin : source.locator = Locator.join r.location r.base :=
    Resolver.locator_of_locate hanswer
  rw [← hjoin, hlocator] at hanswer
  exact Resolver.parse_of_locate hpath hanswer

/-- What a report says of the schema of a file, and what is written first. -/
structure Reports (p : Processor) (c : Collection) (number : Nat) (s : Schema)
    (report : DocumentReport) : Prop where
  schema : c.schemas[number]? = some s
  targetNamespace : report.targetNamespace =
    (some s.key.namespaceName).filter fun ns => !ns.isEmpty
  first : ∀ directory, p.outputDirectory = some directory → ∃ d rest,
    (c.write p.policy number p.recursive).1 = .ok (d :: rest) ∧ d.key = s.key ∧
    report.outputs.head? = some (FileTree.join directory (FileName.base s.key.locator))

/-- The key under which a document is read on its own. -/
def ownKey (path : String) (document : Xml.Element) : SchemaKey :=
  ⟨(declaredTarget? document).getD "", path⟩

theorem keyOf_eq_ownKey_iff {source : Source} (hlocator : source.locator = path)
    (inherited : Option String) :
    keyOf source inherited = ownKey path source.document ↔
      (declaredTarget? source.document).isSome ∨ inherited.getD "" = "" := by
  unfold keyOf ownKey
  rw [hlocator, SchemaKey.mk.injEq, and_iff_left rfl]
  cases declaredTarget? source.document with
  | some uri => exact ⟨fun _ => .inl rfl, fun _ => rfl⟩
  | none => exact ⟨.inr, fun h => h.resolve_left nofun⟩

/-- Without known namespaces, a file is read as its own. -/
theorem compose_alone {number : Nat} {direct : Bool} {ws : Workspace} {s : Schema}
    (h : exec (({ p with knownNamespaces := [] } : Processor).compose b.tree path)
      b.worker.workspace = (.ok (number, direct), ws))
    (hs : ws.collection.schemas[number]? = some s) :
    ∃ document, IsFile b path document ∧ s.key = ownKey path document := by
  obtain ⟨preloaded, t, source, parent, inherited, hload, ht, hread, hlocator, hcomes⟩ :=
    compose_comes h
  cases Option.some.inj (hs.symm.trans ht)
  cases hcomes with
  | read hnew hfile =>
      refine ⟨source.document, hfile, ?_⟩
      rw [hread.key_eq]
      exact (keyOf_eq_ownKey_iff hlocator none).2 (.inr rfl)
  | brought hfirst hws hoccasion =>
      -- nothing has been brought along
      cases hload
      cases hfirst

/-- The report on a file that has been built, and what is written first, are of
one schema, which has the path of the file for its locator.  Where known
namespaces have brought nothing along under that path, the file has been read
under its own key, as it is without known namespaces.  Otherwise it is the first
schema that they have brought along, whose key is the own one unless the
document declares no target namespace and some namespace was lent to it. -/
theorem processFile_entry (hbuilt : (p.processFile path b).1.status = .built) :
    ∃ preloaded ws number direct s source parent inherited,
      exec (p.loadKnown (p.environment b.tree) p.knownNamespaces) b.worker.workspace =
        (.ok ⟨⟩, preloaded) ∧
      p.Reports ws.collection number s (p.processFile path b).1 ∧
      s.ReadFrom source parent inherited ∧ source.locator = path ∧
      Comes p b path preloaded ws number s source direct parent inherited ∧
      (s.key = ownKey path source.document ↔
        (declaredTarget? source.document).isSome ∨ inherited.getD "" = "") ∧
      (p.Faithful b path → IsFile b path source.document) ∧
      ∀ m d later u, exec (({ p with knownNamespaces := [] } : Processor).compose b.tree path)
          b.worker.workspace = (.ok (m, d), later) → later.collection.schemas[m]? = some u →
        ∃ document, IsFile b path document ∧ u.key = ownKey path document := by
  obtain ⟨number, direct, ws, outputs, hcompose, hreport, houtputs⟩ :=
    exists_compose_of_built hbuilt
  obtain ⟨preloaded, s, source, parent, inherited, hload, hs, hread, hlocator, hcomes⟩ :=
    compose_comes hcompose
  refine ⟨preloaded, ws, number, direct, s, source, parent, inherited, hload,
    ⟨hs, ?_, fun directory hdirectory => ?_⟩, hread, hlocator, hcomes, ?_, hcomes.isFile hlocator,
    fun m d later u halone hu => ?_⟩
  · rw [hreport, reportBuilt, hs]
    rfl
  · obtain ⟨documents, hwritten, rfl⟩ := houtputs directory hdirectory
    obtain ⟨first, rest, rfl, hfirst⟩ :=
      Collection.exists_written_cons hwritten hs hread.builtin_eq
    refine ⟨first, rest, hwritten, hfirst, ?_⟩
    -- no name has been given out before the first
    rw [hreport, ← hfirst]
    rfl
  · rw [hread.key_eq]
    exact keyOf_eq_ownKey_iff hlocator inherited
  · exact compose_alone halone hu

/-- A document without target namespace. -/
def lentText : String := "<s:schema xmlns:s=\"http://www.w3.org/2001/XMLSchema\"/>"

/-- It is included by the document of a known namespace. -/
def lentTree : FileTree where
  root := .directory
    [("k.xsd", .file <|
        "<s:schema xmlns:s=\"http://www.w3.org/2001/XMLSchema\" targetNamespace=\"urn:k\">" ++
          "<s:include schemaLocation=\"main.xsd\"/></s:schema>"),
      ("main.xsd", .file lentText)]

/-- The included document is reported on, and written, as the one of the known
namespace, while it has no target namespace without known namespaces. -/
theorem processFile_entry_lent :
    let p : Processor := { knownNamespaces := [("urn:k", "k.xsd")], outputDirectory := some "out" }
    let b : Bench := ⟨lentTree, Worker.fresh none, []⟩
    let alone : Processor := { p with knownNamespaces := [] }
    ((p.processFile "main.xsd" b).1.status = .built ∧
      (p.processFile "main.xsd" b).1.targetNamespace = some "urn:k" ∧
      (p.processFile "main.xsd" b).1.outputs = ["out/main.xsd"] ∧
      (alone.processFile "main.xsd" b).1.status = .built ∧
      (alone.processFile "main.xsd" b).1.targetNamespace = none) ∧
    ∃ (ws : Workspace) (number : Nat) (s : Schema) (source : Source),
      p.Reports ws.collection number s (p.processFile "main.xsd" b).1 ∧
      IsFile b "main.xsd" source.document ∧ s.key.locator = "main.xsd" ∧
      s.key ≠ ownKey "main.xsd" source.document := by
  intro p b alone
  have hruns : (p.processFile "main.xsd" b).1.status = .built ∧
      (p.processFile "main.xsd" b).1.targetNamespace = some "urn:k" ∧
      (p.processFile "main.xsd" b).1.outputs = ["out/main.xsd"] ∧
      (alone.processFile "main.xsd" b).1.status = .built ∧
      (alone.processFile "main.xsd" b).1.targetNamespace = none := by decide +kernel
  have hdeclared : ((Located.parse "main.xsd" lentText).toOption.map fun d =>
      (declaredTarget? d.document).getD "") = some "" := by decide +kernel
  have hlent : b.tree.read "main.xsd" = .ok lentText := by decide +kernel
  obtain ⟨preloaded, ws, number, direct, s, source, parent, inherited, -, hreports, hread,
    hlocator, -, -, hfile, -⟩ := processFile_entry hruns.1
  obtain ⟨text, htext, hparse⟩ := hfile (faithful_ofFiles rfl rfl nofun)
  refine ⟨hruns, ws, number, s, source, hreports, ⟨text, htext, hparse⟩, ?_, fun hown => ?_⟩
  · rw [hread.key_eq]
    exact hlocator
  · -- the file declares no target namespace, but the report names one
    cases htext.symm.trans hlent
    rw [hparse] at hdeclared
    have hnone : s.key.namespaceName = "" := by
      rw [hown]
      exact Option.some.inj hdeclared
    have hreported := hruns.2.1.symm.trans hreports.targetNamespace
    rw [hnone] at hreported
    cases hreported

end Processor

end XmlSchema
