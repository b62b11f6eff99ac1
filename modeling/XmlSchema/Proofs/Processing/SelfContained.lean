import XmlSchema.Proofs.Document.References
import XmlSchema.Proofs.Files.Normal
import XmlSchema.Proofs.Processing.Entry

/-!
# How written documents find one another

The documents of a result lie side by side in one directory, whatever the
layout of the documents that they come from, and what they refer to by location
is written as it was read.  So a location finds the document that it has led to
when, from that directory, it comes to the name given to that document.
-/

namespace XmlSchema

open Attempt

namespace Path

variable {absolute : Bool} {parts more less : List String} {part : String}

theorem Reduces.prepend (h : Reduces false more less) (parts : List String) :
    Reduces absolute (parts ++ more) (parts ++ less) := by
  cases h with
  | drop front back h =>
      rw [← List.append_assoc, ← List.append_assoc]
      exact .drop (parts ++ front) back h
  | cancel front back h =>
      rw [← List.append_assoc, ← List.append_assoc]
      exact .cancel (parts ++ front) back h
  | root _ h => cases h

/-- What stands behind other components can be resolved first, as if nothing
stood before it. -/
theorem resolution_append_right (parts more : List String) :
    resolution absolute (parts ++ resolution false more) = resolution absolute (parts ++ more) := by
  have hall : ∀ {less}, Relation.ReflTransGen (Reduces false) more less →
      resolution absolute (parts ++ less) = resolution absolute (parts ++ more) := by
    intro less h
    induction h with
    | refl => rfl
    | tail _ hstep ih => exact (hstep.prepend parts).resolution_eq.symm.trans ih
  exact hall (reduces_resolution more)

/-- Components that do not lead up stay behind those before them. -/
theorem resolution_append_of_level (parts : List String) (h : ".." ∉ resolution false more) :
    resolution absolute (parts ++ more) =
      resolution absolute parts ++ resolution false more := by
  have hordinary : ∀ part ∈ resolution false more, Ordinary part := fun part hpart =>
    ⟨counts_of_mem_resolution hpart, fun hup => h (hup ▸ hpart)⟩
  rw [← resolution_append_right]
  generalize resolution false more = rest at hordinary ⊢
  induction rest using List.reverseRecOn with
  | nil => rw [List.append_nil, List.append_nil]
  | append_singleton init part ih =>
      rw [← List.append_assoc, ← List.append_assoc,
        resolution_append_ordinary _ (hordinary part (by simp))]
      exact congrArg (· ++ [part]) (ih fun q hq => hordinary q (List.mem_append_left _ hq))

end Path

namespace FileTree

variable {directory name : String}

theorem Admits.ordinary (h : Admits directory name) : Path.Ordinary name :=
  ⟨by simp [Path.counts, h.single.ne_empty, h.ne_dot], h.ne_up⟩

/-- A file lies in its directory. -/
theorem directoryOf_join (h : Admits directory name) :
    Path.directoryOf (join directory name) =
      ⟨Path.isAbsolute directory, Path.components directory⟩ := by
  have hslashless := h.single.slashless
  have hlast : (split (join directory name)).getLast? = some name := by
    rcases join_cases hslashless directory with ⟨rfl, heq⟩ | ⟨before, rfl, heq⟩ | ⟨-, heq⟩
    · rw [heq, split_of_slashless hslashless]
      rfl
    · rw [heq, Path.getLast?_split _ _ hslashless]
    · rw [heq, Path.getLast?_split _ _ hslashless]
  have hback : Path.endsInBackslash name = false := by
    refine Bool.eq_false_iff.2 fun hends => h.single.backslashless ?_
    exact List.mem_of_getLast? (beq_iff_eq.1 hends)
  obtain ⟨init, hinit, hdirectory⟩ := Path.directoryOf_eq hlast h.ordinary
  rw [components_join hslashless h.single.ne_empty h.ne_dot, List.append_left_inj] at hinit
  rw [hdirectory, hback, isAbsolute_join hslashless, hinit]
  rw [if_neg nofun, List.append_nil]

end FileTree

namespace Locator

variable {directory name other location base : String}

/-- A location in the file `name` of a directory finds the file `other` there:
joined to the path of the one, it is the normal path of the other. -/
def Finds (directory name other location : String) : Prop :=
  join location (some (FileTree.join directory name)) =
    Path.normalText (FileTree.join directory other)

theorem join_trim (location : String) (base : Option String) :
    join (Text.trim location) base = join location base := by
  unfold join
  rw [Text.trim_trim]

/-- A location with a scheme and an absolute one stand for themselves. -/
theorem join_of_not_relative (h : ¬ Relative (Text.trim location)) (base : Option String) :
    join location base = Text.trim location := by
  have hfixed :
      (hasScheme (Text.trim location) || Path.isAbsolute (Text.trim location)) = true := by
    by_contra hnot
    rw [Bool.not_eq_true, Bool.or_eq_false_iff] at hnot
    exact h ⟨hnot.1, hnot.2, Text.trim_trim location⟩
  unfold join
  dsimp only
  rw [hfixed, if_pos rfl]

/-- A file has the normal path of its directory with its name. -/
theorem normalise_join (h : FileTree.Admits directory name) :
    (Path.ofString (FileTree.join directory name)).normalise =
      ⟨Path.isAbsolute directory, Path.resolution (Path.isAbsolute directory)
        (Path.components directory) ++ [name]⟩ := by
  have hslashless := h.single.slashless
  rw [Path.normalise_eq (Path.clean_ofString _), Path.ofString, FileTree.isAbsolute_join hslashless,
    FileTree.components_join hslashless h.single.ne_empty h.ne_dot,
    Path.resolution_append_ordinary _ h.ordinary]

/-- A relative location finds a file of its directory exactly when it comes to
the name of that file there. -/
theorem finds_iff (hname : FileTree.Admits directory name)
    (hother : FileTree.Admits directory other)
    (hscheme : hasScheme (FileTree.join directory name) = false)
    (h : Relative (Text.trim location)) :
    Finds directory name other location ↔
      Path.Resolves (Path.isAbsolute directory)
        (Path.components directory ++ FileTree.split (Text.trim location))
        (Path.resolution (Path.isAbsolute directory) (Path.components directory) ++ [other]) := by
  have hbase : ∀ b, some (FileTree.join directory name) = some b → hasScheme b = false := by
    rintro b ⟨⟩
    exact hscheme
  have hresolved : resolved (some (FileTree.join directory name)) (Text.trim location) =
      Path.resolution (Path.isAbsolute directory)
        (Path.components directory ++ FileTree.split (Text.trim location)) := by
    rw [resolved, Option.getD_some, FileTree.directoryOf_join hname]
  rw [Path.resolves_iff, Finds, ← join_trim, Path.normalText]
  constructor
  · intro hfinds
    have hread := congrArg Path.ofString hfinds
    rw [ofString_join hbase h, hresolved, Option.getD_some, FileTree.directoryOf_join hname,
      Path.ofString_text (Path.clean_normalise (Path.clean_ofString _)), normalise_join hother,
      Path.mk.injEq] at hread
    exact hread.2.symm
  · intro hparts
    rw [join_eq hbase h, normalise_append, hresolved, Option.getD_some,
      FileTree.directoryOf_join hname, normalise_join hother, hparts]

/-- Where a location does not lead up, the directory does not matter. -/
theorem finds_iff_of_level (hname : FileTree.Admits directory name)
    (hother : FileTree.Admits directory other)
    (hscheme : hasScheme (FileTree.join directory name) = false)
    (h : Relative (Text.trim location))
    (hlevel : ".." ∉ Path.resolution false (FileTree.split (Text.trim location))) :
    Finds directory name other location ↔
      Path.Resolves false (FileTree.split (Text.trim location)) [other] := by
  rw [finds_iff hname hother hscheme h, Path.resolves_iff, Path.resolves_iff,
    Path.resolution_append_of_level _ hlevel, List.append_right_inj]

/-- A location that is one name. -/
structure Plain (location : String) : Prop where
  relative : Relative location
  single : FileName.Single location
  ordinary : Path.Ordinary location

theorem Plain.resolution_eq {absolute : Bool} (h : Plain location) (parts : List String) :
    Path.resolution absolute (parts ++ FileTree.split location) =
      Path.resolution absolute parts ++ [location] := by
  rw [FileTree.split_of_slashless h.single.slashless, Path.resolution_append_ordinary _ h.ordinary]

/-- A name that has been joined to a path is the last segment of the result. -/
theorem base_join (h : Plain (Text.trim location)) (hbase : hasScheme base = false) :
    FileName.base (join location (some base)) = Text.trim location := by
  have hscheme : ∀ b, some base = some b → hasScheme b = false := by
    rintro b ⟨⟩
    exact hbase
  have hlast : (FileTree.split (join location (some base))).getLast? =
      some (Text.trim location) := by
    have hparts : ((Path.directoryOf ((some base).getD "")).append
        (Text.trim location)).normalise.parts =
          Path.resolution (Path.directoryOf base).absolute (Path.directoryOf base).parts ++
            [Text.trim location] := by
      rw [normalise_append]
      exact h.resolution_eq _
    rw [← join_trim, join_eq hscheme h.relative]
    exact Path.getLast?_split_text (Path.clean_normalise ((Path.clean_directoryOf _).append _))
      hparts
  exact FileName.base_eq h.single ((Path.eq_of_getLast?_split hlast).2.imp_right
    fun ⟨before, heq, _⟩ => ⟨before, heq⟩)

/-- A name finds the file of that name. -/
theorem Plain.finds (h : Plain (Text.trim location)) (hname : FileTree.Admits directory name)
    (hother : FileTree.Admits directory other) (heq : other = Text.trim location)
    (hscheme : hasScheme (FileTree.join directory name) = false) :
    Finds directory name other location := by
  rw [finds_iff hname hother hscheme h.relative, Path.resolves_iff, h.resolution_eq, heq]

end Locator

namespace Processor

variable {p : Processor} {directory : String} {t : FileTree}

/-- What becomes of a location that stands in the file `name` of a directory and
has led to the document that the file `other` there is written for. -/
structure Referral (directory name other location text : String) (t : FileTree) : Prop where
  fixed : ¬ Locator.Relative (Text.trim location) →
    Locator.join location (some (FileTree.join directory name)) = Text.trim location
  relative : Locator.Relative (Text.trim location) →
    Locator.hasScheme (FileTree.join directory name) = false →
    (Locator.Finds directory name other location ↔
      Path.Resolves (Path.isAbsolute directory)
        (Path.components directory ++ FileTree.split (Text.trim location))
        (Path.resolution (Path.isAbsolute directory) (Path.components directory) ++ [other])) ∧
    (".." ∉ Path.resolution false (FileTree.split (Text.trim location)) →
      (Locator.Finds directory name other location ↔
        Path.Resolves false (FileTree.split (Text.trim location)) [other]))
  spelled : Path.IsNormal (FileTree.join directory other) →
    (Locator.Finds directory name other location ↔
      Locator.join location (some (FileTree.join directory name)) = FileTree.join directory other)
  read : Locator.Finds directory name other location →
    t.read (Locator.join location (some (FileTree.join directory name))) = .ok text

theorem referral {name other location text : String} (ht : t.Linkless)
    (hname : FileTree.Admits directory name) (hother : FileTree.Admits directory other)
    (hread : t.read (FileTree.join directory other) = .ok text) :
    Referral directory name other location text t where
  fixed h := Locator.join_of_not_relative h _
  relative h hscheme :=
    ⟨Locator.finds_iff hname hother hscheme h, Locator.finds_iff_of_level hname hother hscheme h⟩
  spelled hnormal := by
    have hsame : Path.normalText (FileTree.join directory other) = FileTree.join directory other :=
      hnormal
    rw [Locator.Finds, hsame]
  read hfinds := by
    rw [hfinds]
    exact FileTree.read_normalText ht hread

/-- A document is written together with those of the schemas that its schema
refers to. -/
theorem exists_written_target {c : Collection} {policy : ForeignPolicy} {n : Nat}
    {documents : List WrittenSchema} (h : (c.write policy n true).1 = .ok documents)
    {d : WrittenSchema} (hd : d ∈ documents) :
    ∃ (m : Nat) (s : Schema), c.schemas[m]? = some s ∧ d.key = s.key ∧
      c.document policy s = .ok d.document ∧
      ∀ e ∈ s.externals, ∀ (k : Nat) (u : Schema), c.externalTarget? e = some k →
        c.schemas[k]? = some u → u.builtin = false → ∃ d' ∈ documents, d'.key = u.key := by
  obtain ⟨-, written, hwritten, heach⟩ | ⟨-, err, herr⟩ := c.write_cases policy n
  · cases h.symm.trans hwritten
    obtain ⟨i, hi, rfl⟩ := List.getElem_of_mem hd
    have hlt : i < (c.emissionOrder n).length := heach.length_eq ▸ hi
    have hwrittenAs := heach.get hlt hi
    obtain ⟨hemits, s, hs, hauthored⟩ :=
      Collection.mem_emissionOrder_iff.1 (List.get_mem (c.emissionOrder n) ⟨i, hlt⟩)
    refine ⟨_, s, hs, ?_, ?_, fun e he k u htarget hu hbuiltin => ?_⟩
    · have hkey := hwrittenAs.key
      rw [hs] at hkey
      exact (Option.some.inj hkey).symm
    · have hwrite := hwrittenAs.write
      rw [Collection.write_alone policy hs hauthored] at hwrite
      cases hdocument : c.document policy s with
      | error err =>
          rw [hdocument] at hwrite
          cases hwrite
      | ok document =>
          rw [hdocument] at hwrite
          obtain ⟨heq, -⟩ := List.cons.inj (Except.ok.inj hwrite)
          exact congrArg (Except.ok ∘ WrittenSchema.document) heq
    · have htargets : k ∈ c.targets s := List.mem_filterMap.2 ⟨e, he, htarget⟩
      obtain ⟨d', -, hd'⟩ := Collection.mem_write_of_emits h
        (hemits.tail ⟨rfl, s, hs, hauthored, htargets⟩) hu hbuiltin
      exact ⟨_, hd', rfl⟩
  · cases h.symm.trans herr

/-- The files that are written for a result: each holds one of its documents,
under a name that was given to the document. -/
theorem exists_files_of_built {b : Bench} {ledger : List (String × String)} {path : String}
    (h : Accounts directory ledger b) (hdirectory : p.outputDirectory = some directory)
    (hbuilt : (p.processFile path b).1.status = .built) :
    ∃ (number : Nat) (direct : Bool) (ws : Workspace) (documents : List WrittenSchema)
      (files : List (String × WrittenSchema)),
      exec (p.compose b.tree path) b.worker.workspace = (.ok (number, direct), ws) ∧
      (ws.collection.write p.policy number p.recursive).1 = .ok documents ∧
      files = (FileName.assign [] (documents.map fun d => d.key.locator)).zip documents ∧
      (p.processFile path b).1.outputs = files.map (fun f => FileTree.join directory f.1) ∧
      (p.processFile path b).2.tree.Linkless ∧
      ∀ f ∈ files, FileTree.Admits directory f.1 ∧
        (p.processFile path b).2.tree.read (FileTree.join directory f.1) = .ok (p.textOf f.2) := by
  obtain ⟨entries, haccounts, hentries⟩ := processFile_accounts hdirectory path h
  cases hentries hbuilt
  obtain ⟨number, direct, ws, outputs, hcompose, -, hwrite⟩ := exists_compose_of_built hbuilt
  obtain ⟨documents, hdocuments, -⟩ := hwrite directory hdirectory
  let files := (FileName.assign [] (documents.map fun d => d.key.locator)).zip documents
  have hemission : p.emission b path = files.map fun f => (f.1, p.textOf f.2) := by
    unfold emission
    rw [hcompose]
    dsimp only
    rw [hdocuments]
  refine ⟨number, direct, ws, documents, files, hcompose, hdocuments, rfl, ?_,
    haccounts.linkless, fun f hf => ?_⟩
  · rw [outputs_eq_emission hdirectory hbuilt, hemission, List.map_map]
    rfl
  · have hmem : (f.1, p.textOf f.2) ∈ p.emission b path := by
      rw [hemission]
      exact List.mem_map_of_mem hf
    refine ⟨haccounts.admits (List.mem_append_left _ (List.mem_reverse.2 hmem)), ?_⟩
    -- nothing has been written since
    have hread := Accounts.read_of_mem (List.nil_append (p.emission b path).reverse ▸ haccounts)
      (p.nodup_emission b path) hmem
    rw [List.lookup_nil, Option.getD_none] at hread
    exact hread

/-- In a run that writes into a directory, what a result refers to by location
is written along with it, the catalogue aside, and the locations are written as
they are.  A document finds another one by a relative location exactly when the
location, from that directory, comes to the name of the other; for a location
that does not lead up, exactly when it comes to that name alone.  It does so
when the location is one name, joined to the locator of the document that
refers, and the locators of the written documents have different last segments.
What is found is what was written. -/
theorem outputs_refer (ht : t.Linkless) (hdirectory : p.outputDirectory = some directory)
    (hrecursive : p.recursive = true) (earlier : List String) {path : String}
    (hbuilt : (p.processFile path (p.processAll earlier (p.bench t)).2).1.status = .built) :
    let b := (p.processAll earlier (p.bench t)).2
    let later := (p.processFile path b).2.tree
    ∃ (number : Nat) (direct : Bool) (ws : Workspace) (documents : List WrittenSchema)
      (files : List (String × WrittenSchema)),
      exec (p.compose b.tree path) b.worker.workspace = (.ok (number, direct), ws) ∧
      (ws.collection.write p.policy number true).1 = .ok documents ∧
      files = (FileName.assign [] (documents.map fun d => d.key.locator)).zip documents ∧
      (p.processFile path b).1.outputs = files.map (fun f => FileTree.join directory f.1) ∧
      (∀ f ∈ files, later.read (FileTree.join directory f.1) = .ok (p.textOf f.2)) ∧
      ∀ f ∈ files, ∃ (m : Nat) (s : Schema), ws.collection.schemas[m]? = some s ∧
        f.2.key = s.key ∧ ws.collection.document p.policy s = .ok f.2.document ∧
        ∀ e ∈ s.externals, ∀ location, e.location = some location →
          Writer.Cites f.2.document e location ∧
          ∀ (k : Nat) (u : Schema), ws.collection.externalTarget? e = some k →
            ws.collection.schemas[k]? = some u → u.builtin = false →
            ∃ f' ∈ files, f'.2.key = u.key ∧
              Referral directory f.1 f'.1 location (p.textOf f'.2) later ∧
              (Locator.Plain (Text.trim location) →
                Locator.hasScheme (FileTree.join directory f.1) = false →
                Locator.hasScheme s.key.locator = false →
                u.key.locator = Locator.join location (some s.key.locator) →
                (documents.map fun d => FileName.base d.key.locator).Nodup →
                Locator.Finds directory f.1 f'.1 location) := by
  intro b later
  have hstart : Accounts directory [] (p.bench t) := ⟨ht, rfl, nofun⟩
  obtain ⟨chapters, -, hledger, -⟩ := processAll_accounts hdirectory earlier hstart
  obtain ⟨number, direct, ws, documents, files, hcompose, hdocuments, rfl, houtputs, hlinkless,
    hfiles⟩ := exists_files_of_built hledger hdirectory hbuilt
  rw [hrecursive] at hdocuments
  refine ⟨number, direct, ws, documents, _, hcompose, hdocuments, rfl, houtputs,
    fun f hf => (hfiles f hf).2, fun f hf => ?_⟩
  obtain ⟨m, s, hs, hkey, hdocument, htargets⟩ :=
    exists_written_target hdocuments (List.of_mem_zip hf).2
  refine ⟨m, s, hs, hkey, hdocument, fun e he location hlocation =>
    ⟨Writer.cites_of_document hdocument he hlocation, fun k u htarget hu hbuiltin => ?_⟩⟩
  obtain ⟨d', hd', hkey'⟩ := htargets e he k u htarget hu hbuiltin
  have hall : ((FileName.assign [] (documents.map fun d => d.key.locator)).zip documents).map
      Prod.snd = documents :=
    List.map_snd_zip (by rw [FileName.length_assign, List.length_map])
  rw [← hall] at hd'
  obtain ⟨f', hf', rfl⟩ := List.mem_map.1 hd'
  refine ⟨f', hf', hkey', referral hlinkless (hfiles f hf).1 (hfiles f' hf').1 (hfiles f' hf').2,
    fun hplain hscheme hbase hjoined hdistinct => ?_⟩
  refine hplain.finds (hfiles f hf).1 (hfiles f' hf').1 ?_ hscheme
  -- every document has been given its last segment for a name
  have hassign : FileName.assign [] (documents.map fun d => d.key.locator) =
      documents.map fun d => FileName.base d.key.locator := by
    rw [FileName.assign_eq_map (by rwa [List.map_map]) fun _ _ => List.not_mem_nil, List.map_map]
    rfl
  rw [hassign, ← List.map_prod_right_eq_zip] at hf'
  obtain ⟨d, -, rfl⟩ := List.mem_map.1 hf'
  have hbaseEq := Locator.base_join hplain hbase
  rw [← hjoined] at hbaseEq
  dsimp only at hkey' ⊢
  rw [hkey', hbaseEq]

/-- A document that includes another one. -/
def includer (location : String) : String :=
  "<s:schema xmlns:s=\"http://www.w3.org/2001/XMLSchema\"><s:include schemaLocation=\"" ++
    location ++ "\"/></s:schema>"

/-- A document without content. -/
def included : String := "<s:schema xmlns:s=\"http://www.w3.org/2001/XMLSchema\"/>"

/-- The two documents beside one another, and something in another directory. -/
def flatTree (out : List (String × FileNode)) : FileTree where
  root := .directory
    [("main.xsd", .file (includer "types.xsd")), ("types.xsd", .file included),
      ("out", .directory out)]

/-- Documents are written together into a directory. -/
def intoOut : Processor := { outputDirectory := some "out", recursive := true }

/-- A file of the documents beside one another, right after it was processed. -/
def flatRun : DocumentReport × Bench :=
  intoOut.processFile "main.xsd" (intoOut.processAll [] (intoOut.bench (flatTree []))).2

/-- What the two documents beside one another are composed to: their schemas,
and that of the one refers to that of the other. -/
theorem composed_flat {number : Nat} {direct : Bool} {ws : Workspace}
    (h : exec (intoOut.compose (flatTree []) "main.xsd")
      (Worker.fresh intoOut.cacheCapacity).workspace = (.ok (number, direct), ws)) :
    (ws.collection.write intoOut.policy number true).1.map (List.map WrittenSchema.key) =
        .ok [⟨"", "main.xsd"⟩, ⟨"", "types.xsd"⟩] ∧
      (∀ s ∈ ws.collection.schemas, s.key = ⟨"", "main.xsd"⟩ →
        ∃ e ∈ s.externals, e.location = some "types.xsd" ∧
          ws.collection.externalTarget? e = some 2) ∧
      ∃ u, ws.collection.schemas[2]? = some u ∧ u.key = ⟨"", "types.xsd"⟩ ∧ u.builtin = false := by
  let composed := exec (intoOut.compose (flatTree []) "main.xsd")
    (Worker.fresh intoOut.cacheCapacity).workspace
  have hcomposed : composed.1.toOption.map Prod.fst = some 1 ∧
      (composed.2.collection.write intoOut.policy 1 true).1.map (List.map WrittenSchema.key) =
        .ok [⟨"", "main.xsd"⟩, ⟨"", "types.xsd"⟩] ∧
      composed.2.collection.schemas.toList.map
          (fun s => (s.key, s.builtin, s.externals.map fun e => (e.location, e.target))) =
        [(⟨schemaNamespace, Catalogue.locator⟩, true, []),
          (⟨"", "main.xsd"⟩, false, [(some "types.xsd", some 2)]),
          (⟨"", "types.xsd"⟩, false, [])] := by
    decide +kernel
  have hrun : composed = (.ok (number, direct), ws) := h
  rw [hrun] at hcomposed
  obtain ⟨hnumber, hkeys, hschemas⟩ := hcomposed
  cases Option.some.inj hnumber
  refine ⟨hkeys, fun s hs hkey => ?_, ?_⟩
  · have hmem := List.mem_map_of_mem (f := fun s : Schema => (s.key, s.builtin,
      s.externals.map fun e => (e.location, e.target))) (Array.mem_toList_iff.2 hs)
    rw [hschemas, hkey] at hmem
    -- the other two have other keys
    obtain hcatalogue | hmem := List.mem_cons.1 hmem
    · exact absurd (Prod.mk.inj hcatalogue).1 (by decide)
    obtain hsees | hlast := List.mem_cons.1 hmem
    · obtain ⟨e, rest, hlist, he, -⟩ := List.map_eq_cons_iff.1 (congrArg (·.2.2) hsees)
      obtain ⟨hlocation, htarget⟩ := Prod.mk.inj he
      exact ⟨e, by simp [hlist], hlocation, by simp [Collection.externalTarget?, htarget]⟩
    · exact absurd (Prod.mk.inj (List.mem_singleton.1 hlast)).1 (by decide)
  · have hthird := congrArg (·[2]?) hschemas
    rw [List.getElem?_map, Array.getElem?_toList] at hthird
    obtain ⟨u, hu, hfields⟩ := Option.map_eq_some_iff.1 hthird
    exact ⟨u, hu, congrArg (·.1) hfields, congrArg (·.2.1) hfields⟩

/-- A document that lies beside the one that includes it is found again. -/
theorem outputs_refer_flat :
    ((flatTree []).Linkless ∧ intoOut.outputDirectory = some "out" ∧ intoOut.recursive = true ∧
      flatRun.1.status = .built) ∧
    ∃ (d d' : WrittenSchema) (e : ExternalRef), Writer.Cites d.document e "types.xsd" ∧
      flatRun.2.tree.read "out/main.xsd" = .ok (intoOut.textOf d) ∧
      Locator.Finds "out" "main.xsd" "types.xsd" "types.xsd" ∧
      flatRun.2.tree.read (Locator.join "types.xsd" (some "out/main.xsd")) =
        .ok (intoOut.textOf d') := by
  have hlinkless : (flatTree []).Linkless := by
    refine FileNode.linkless_directory ?_
    simp only [List.forall_mem_cons]
    exact ⟨FileNode.linkless_file _, FileNode.linkless_file _,
      FileNode.linkless_directory (List.forall_mem_nil _), List.forall_mem_nil _⟩
  have hbuilt : (intoOut.processFile "main.xsd"
      (intoOut.processAll [] (intoOut.bench (flatTree []))).2).1.status = .built := by
    decide +kernel
  obtain ⟨number, direct, ws, documents, files, hcompose, hdocuments, rfl, -, hread, hrefer⟩ :=
    outputs_refer hlinkless rfl rfl [] hbuilt
  obtain ⟨hkeys, hsees, u, hu, hukey, hubuiltin⟩ := composed_flat hcompose
  unfold flatRun
  refine ⟨⟨hlinkless, rfl, rfl, hbuilt⟩, ?_⟩
  -- two documents are written, under the names of the files that they come from
  rw [hdocuments] at hkeys
  obtain ⟨d, rest, rfl, hd, hrest⟩ := List.map_eq_cons_iff.1 (Except.ok.inj hkeys)
  obtain ⟨d', rest, rfl, hd', hrest⟩ := List.map_eq_cons_iff.1 hrest
  cases List.map_eq_nil_iff.1 hrest
  have hnames : FileName.assign [] ([d, d'].map fun d => d.key.locator) =
      ["main.xsd", "types.xsd"] := by
    rw [List.map_cons, List.map_cons, List.map_nil, hd, hd']
    decide +kernel
  rw [hnames] at hread hrefer
  obtain ⟨m, s, hs, hkey, -, hexternals⟩ := hrefer ("main.xsd", d) List.mem_cons_self
  have hskey : s.key = ⟨"", "main.xsd"⟩ := hkey.symm.trans hd
  obtain ⟨e, he, hlocation, htarget⟩ := hsees s (Array.mem_of_getElem? hs) hskey
  obtain ⟨hcites, hleads⟩ := hexternals e he "types.xsd" hlocation
  obtain ⟨f', hf', hfkey, hreferral, hfinds⟩ := hleads 2 u htarget hu hubuiltin
  have hf : f' = ("types.xsd", d') := by
    rcases List.mem_cons.1 hf' with rfl | hf'
    · rw [hd, hukey] at hfkey
      exact absurd (congrArg SchemaKey.locator hfkey) (by decide)
    · exact List.mem_singleton.1 hf'
  subst hf
  have hjoin : FileTree.join "out" "main.xsd" = "out/main.xsd" := by decide +kernel
  have hfound : Locator.Finds "out" "main.xsd" "types.xsd" "types.xsd" := by
    refine hfinds ⟨⟨by decide, by decide, by decide +kernel⟩,
      FileName.single_of_all (by decide +kernel) (by decide +kernel),
      ⟨by decide +kernel, by decide +kernel⟩⟩ ?_ ?_ ?_ ?_
    · dsimp only
      rw [hjoin]
      decide
    · rw [hskey]
      decide
    · rw [hskey, hukey]
      decide +kernel
    · rw [List.map_cons, List.map_cons, List.map_nil, hd, hd']
      decide +kernel
  have hmain := hread ("main.xsd", d) List.mem_cons_self
  have hlater := hreferral.read hfound
  dsimp only at hmain hlater
  rw [hjoin] at hmain hlater
  exact ⟨d, d', e, hcites, hmain, hfound, hlater⟩

/-- A document and one in a directory below that it includes. -/
def nestedTree : FileTree where
  root := .directory
    [("main.xsd", .file (includer "sub/types.xsd")),
      ("sub", .directory [("types.xsd", .file included)])]

/-- The locations of the references in the documents that are written for a
composed schema. -/
def writtenLocations (c : Collection) (number : Nat) :
    Except SchemaError (List (SchemaKey × List (Option String))) :=
  (c.write .keep number true).1.map fun documents => documents.map fun d =>
    (d.key, (Compose.skeletonOf d.document).references.map ExternalRef.location)

/-- A document from another directory is not found where it has been written.
Nor does a location lead to the path under which a document was written when
that path looks like a URL or takes a detour, and a link in the directory can
let one document take the place of another. -/
theorem outputs_refer_astray :
    (let r := intoOut.single nestedTree "main.xsd";
      let c := (exec (intoOut.compose nestedTree "main.xsd") {}).2.collection;
      r.1.status = .built ∧ r.1.outputs = ["out/main.xsd", "out/types.xsd"] ∧
      c.registered.map (fun s => s.externals.map ExternalRef.target) = [[some 2], []] ∧
      writtenLocations c 1 = .ok [(⟨"", "main.xsd"⟩, [some "sub/types.xsd"]),
        (⟨"", "sub/types.xsd"⟩, [])] ∧
      Locator.join "sub/types.xsd" (some "out/main.xsd") = "out/sub/types.xsd" ∧
      r.2.tree.read "out/sub/types.xsd" = .error .notFound) ∧
    (let p : Processor := { intoOut with outputDirectory := some "ab:out" };
      (p.single (flatTree []) "main.xsd").1.outputs = ["ab:out/main.xsd", "ab:out/types.xsd"] ∧
      Locator.join "types.xsd" (some "ab:out/main.xsd") = "types.xsd") ∧
    (let p : Processor := { intoOut with outputDirectory := some "./out" };
      (p.single (flatTree []) "main.xsd").1.outputs = ["./out/main.xsd", "./out/types.xsd"] ∧
      Locator.join "types.xsd" (some "./out/main.xsd") = "out/types.xsd") ∧
    (let r := intoOut.single (flatTree [("types.xsd", .link "main.xsd")]) "main.xsd";
      r.1.outputs = ["out/main.xsd", "out/types.xsd"] ∧
      r.2.tree.read "out/main.xsd" = r.2.tree.read "out/types.xsd") := by
  decide +kernel

end Processor

end XmlSchema
