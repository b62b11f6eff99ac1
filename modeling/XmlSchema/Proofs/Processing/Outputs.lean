import XmlSchema.Processing.Run
import XmlSchema.Proofs.Files.Change

/-!
# What is left of the documents that are written

The documents that one result emits have different names, so none of them takes
the place of another.  Results of one run may share names: a file that is
written more than once holds what was written last.
-/

namespace XmlSchema

open Attempt

namespace Processor

/-- The text of a document that is written. -/
def textOf (p : Processor) (s : WrittenSchema) : String := s.document.print (some p.indent)

/-- The documents that the building of a file emits, each under its name. -/
def emission (p : Processor) (b : Bench) (path : String) : List (String × String) :=
  match exec (p.compose b.tree path) b.worker.workspace with
  | (.ok (number, _), ws) =>
      match (ws.collection.write p.policy number p.recursive).1 with
      | .ok documents =>
          ((FileName.assign [] (documents.map fun d => d.key.locator)).zip documents).map
            fun e => (e.1, p.textOf e.2)
      | .error _ => []
  | (.error _, _) => []

/-- The entries of a ledger, latest first, are what was written into a
directory, and the files there hold the latest of them. -/
structure Accounts (directory : String) (ledger : List (String × String)) (b : Bench) : Prop where
  linkless : b.tree.Linkless
  written : b.written = ledger.map fun e => FileTree.join directory e.1
  stored : ∀ name text, ledger.lookup name = some text → ∃ names,
    b.tree.Houses directory names ∧ FileTree.Admits directory name ∧
      b.tree.root.get? (names ++ [name]) = some (.file text)

variable {p : Processor} {b : Bench} {t : FileTree} {directory path name text : String}
  {ledger : List (String × String)}

namespace Accounts

theorem worker (h : Accounts directory ledger b) (worker : Worker) :
    Accounts directory ledger { b with worker } := ⟨h.linkless, h.written, h.stored⟩

/-- A change of the tree that leaves all files alone. -/
theorem alters (h : Accounts directory ledger b) (ht : b.tree.Alters (fun _ => False) t) :
    Accounts directory ledger { b with tree := t } := by
  refine ⟨ht.linkless h.linkless, h.written, fun name text hlookup => ?_⟩
  obtain ⟨names, hhouses, hadmits, hfile⟩ := h.stored name text hlookup
  obtain ⟨text', htext', hsame⟩ := ht.file _ text hfile
  cases hsame id
  exact ⟨names, hhouses.alters h.linkless ht, hadmits, htext'⟩

/-- A further file is written. -/
theorem write (h : Accounts directory ledger b) (hname : FileName.Single name)
    (hwrite : b.tree.write (FileTree.join directory name) text = .ok t) :
    Accounts directory ((name, text) :: ledger)
      { b with tree := t, written := FileTree.join directory name :: b.written } := by
  obtain ⟨names, hhouses, hadmits, hold, rfl⟩ := FileTree.write_ok h.linkless hname hwrite
  have halters : b.tree.Alters (· = names ++ [name])
      { b.tree with root := b.tree.root.put (names ++ [name]) (.file text) } :=
    FileTree.write_alters hhouses hold
  have hhouses' := hhouses.alters h.linkless halters
  refine ⟨halters.linkless h.linkless, congrArg (_ :: ·) h.written, fun other found hlookup => ?_⟩
  rw [List.lookup_cons] at hlookup
  by_cases hother : other = name
  · subst hother
    rw [beq_self_eq_true] at hlookup
    cases hlookup
    exact ⟨names, hhouses', hadmits, FileNode.get?_put_self _ _ _⟩
  · -- an earlier file is in the same directory under another name
    rw [beq_false_of_ne hother] at hlookup
    obtain ⟨above, habove, hadmits', hfile⟩ := h.stored other found hlookup
    cases habove.unique hhouses
    obtain ⟨text', htext', hsame⟩ := halters.file _ found hfile
    have hplace : names ++ [other] ≠ names ++ [name] := fun heq =>
      hother (List.singleton_inj.1 (List.append_cancel_left heq))
    cases hsame hplace
    exact ⟨names, hhouses', hadmits', htext'⟩

theorem admits {e : String × String} (h : Accounts directory ledger b) (he : e ∈ ledger) :
    FileTree.Admits directory e.1 := by
  cases hlookup : ledger.lookup e.1 with
  | none =>
      have hne := List.lookup_eq_none_iff.1 hlookup e he
      simp at hne
  | some text =>
      obtain ⟨names, -, hadmits, -⟩ := h.stored _ _ hlookup
      exact hadmits

/-- What is on the ledger is read from the directory. -/
theorem read_eq (h : Accounts directory ledger b) (hlookup : ledger.lookup name = some text) :
    b.tree.read (FileTree.join directory name) = .ok text := by
  obtain ⟨names, hhouses, hadmits, hfile⟩ := h.stored name text hlookup
  exact FileTree.read_join h.linkless hhouses hadmits hfile

/-- What stands on the ledger under different names is read, unless something
was written under its name later. -/
theorem read_of_mem {later documents earlier : List (String × String)} {e : String × String}
    (h : Accounts directory (later ++ documents.reverse ++ earlier) b)
    (hnames : (documents.map Prod.fst).Nodup) (he : e ∈ documents) :
    b.tree.read (FileTree.join directory e.1) = .ok ((later.lookup e.1).getD e.2) := by
  have hdocument : documents.reverse.lookup e.1 = some e.2 := by
    obtain ⟨front, back, hsplit⟩ := List.append_of_mem (List.mem_reverse.2 he)
    have hnodup : (documents.reverse.map Prod.fst).Nodup := by
      rw [List.map_reverse]
      exact List.nodup_reverse.2 hnames
    rw [hsplit, List.map_append, List.map_cons] at hnodup
    -- no other document has that name, so none of them is found first
    refine List.lookup_eq_some_iff.2 ⟨front, back, hsplit, fun other hother => ?_⟩
    refine bne_iff_ne.2 fun heq => ?_
    exact (List.nodup_append.1 hnodup).2.2 _ (List.mem_map_of_mem hother) _ List.mem_cons_self
      heq.symm
  apply h.read_eq
  rw [List.append_assoc, List.lookup_append, List.lookup_append, hdocument, Option.some_or]
  cases later.lookup e.1 <;> rfl

end Accounts

/-- All the documents of a result are written, each under a name of its own. -/
theorem map_zip_assign {α : Type} (documents : List WrittenSchema) (f : String → α) :
    ((FileName.assign [] (documents.map fun d => d.key.locator)).zip documents).map
      (fun e => f e.1) = (FileName.assign [] (documents.map fun d => d.key.locator)).map f := by
  have hfst : ((FileName.assign [] (documents.map fun d => d.key.locator)).zip documents).map
      Prod.fst = FileName.assign [] (documents.map fun d => d.key.locator) :=
    List.map_fst_zip (by rw [FileName.length_assign, List.length_map])
  exact List.map_map.symm.trans (congrArg (List.map f) hfst)

theorem writeAll_paths (documents : List (String × WrittenSchema)) (b : Bench) :
    Ends (p.writeAll directory documents) b
      (fun paths _ => paths = documents.map fun e => FileTree.join directory e.1)
      fun _ _ => True := by
  induction documents generalizing b with
  | nil => rfl
  | cons e rest ih =>
      obtain ⟨name, s⟩ := e
      unfold writeAll
      rw [ends_bind, ends_get]
      dsimp only
      split
      · trivial
      · rename_i t hwrite
        rw [ends_bind, ends_set]
        refine Ends.bind (ih _) ?_
        rintro paths b' rfl
        rfl

theorem writeOutputs_paths (c : Collection) (number : Nat) (b : Bench) :
    Ends (p.writeOutputs c number directory) b
      (fun paths _ => ∃ documents, (c.write p.policy number p.recursive).1 = .ok documents ∧
        paths = (FileName.assign [] (documents.map fun d => d.key.locator)).map
          (FileTree.join directory))
      fun _ _ => True := by
  unfold writeOutputs
  rw [ends_bind, ends_get]
  dsimp only
  split
  · trivial
  · rw [ends_bind, ends_set]
    cases hdocuments : (c.write p.policy number p.recursive).1 with
    | error e => trivial
    | ok documents =>
        refine (writeAll_paths _ _).mono ?_ fun _ _ h => h
        rintro paths _ rfl
        exact ⟨documents, rfl, map_zip_assign documents _⟩

/-- A file that has been built is reported on as its composition has ended. -/
theorem exists_compose_of_built (hbuilt : (p.processFile path b).1.status = .built) :
    ∃ number direct ws outputs,
      exec (p.compose b.tree path) b.worker.workspace = (.ok (number, direct), ws) ∧
      (p.processFile path b).1 = reportBuilt ws.collection number path outputs ∧
      ∀ directory, p.outputDirectory = some directory → ∃ documents,
        (ws.collection.write p.policy number p.recursive).1 = .ok documents ∧
        outputs = (FileName.assign [] (documents.map fun d => d.key.locator)).map
          (FileTree.join directory) := by
  have hattempt : Ends (p.attempt path) b
      (fun report _ => ∃ number direct ws outputs,
        exec (p.compose b.tree path) b.worker.workspace = (.ok (number, direct), ws) ∧
        report = reportBuilt ws.collection number path outputs ∧
        ∀ directory, p.outputDirectory = some directory → ∃ documents,
          (ws.collection.write p.policy number p.recursive).1 = .ok documents ∧
          outputs = (FileName.assign [] (documents.map fun d => d.key.locator)).map
            (FileTree.join directory))
      fun _ _ => True := by
    unfold attempt
    rw [ends_bind, ends_get]
    have hcompose : StateT.run (ExceptT.run (p.compose b.tree path)) b.worker.workspace =
        exec (p.compose b.tree path) b.worker.workspace := rfl
    dsimp only
    rw [hcompose]
    rcases exec (p.compose b.tree path) b.worker.workspace with ⟨e | ⟨number, direct⟩, ws⟩
    · trivial
    · dsimp only
      rw [ends_bind, ends_set]
      cases hdirectory : p.outputDirectory with
      | none => exact ⟨number, direct, ws, [], rfl, rfl, nofun⟩
      | some directory =>
          rw [ends_bind]
          refine (writeOutputs_paths ws.collection number _).mono ?_ fun _ _ h => h
          rintro paths _ hpaths
          refine ⟨number, direct, ws, paths, rfl, rfl, ?_⟩
          rintro _ ⟨⟩
          exact hpaths
  have hexec : StateT.run (ExceptT.run (p.attempt path)) b = exec (p.attempt path) b := rfl
  unfold processFile at hbuilt ⊢
  rw [hexec] at hbuilt ⊢
  rcases hrun : exec (p.attempt path) b with ⟨e | report, b'⟩
  · rw [hrun] at hbuilt
    cases hbuilt
  · exact hattempt.of_ok hrun

/-- A step that goes on with the ledger.  When it succeeds, the entries that it
adds are known. -/
def Records (directory : String) (ledger : List (String × String)) {α : Type}
    (m : Attempt Bench α) (b : Bench) (Q : α → List (String × String) → Prop) : Prop :=
  Ends m b
    (fun a b' => ∃ entries : List (String × String),
      Accounts directory (entries.reverse ++ ledger) b' ∧ Q a entries)
    (fun _ b' => ∃ entries : List (String × String),
      Accounts directory (entries.reverse ++ ledger) b')

theorem writeAll_records (documents : List (String × WrittenSchema))
    (hnames : ∀ e ∈ documents, FileName.Single e.1) (h : Accounts directory ledger b) :
    Records directory ledger (p.writeAll directory documents) b fun _ entries =>
      entries = documents.map fun e => (e.1, p.textOf e.2) := by
  induction documents generalizing b ledger with
  | nil => exact ⟨[], h, rfl⟩
  | cons e rest ih =>
      obtain ⟨name, s⟩ := e
      unfold Records writeAll
      rw [ends_bind, ends_get]
      dsimp only
      split
      · exact ⟨[], h⟩
      · rename_i t hwrite
        have hname : FileName.Single name := hnames _ List.mem_cons_self
        have hwritten := h.write hname hwrite
        rw [ends_bind, ends_set]
        have hrest := ih (fun e he => hnames e (List.mem_cons_of_mem _ he)) hwritten
        rw [ends_bind]
        refine Ends.mono hrest ?_ ?_
        · rintro paths b' ⟨entries, hentries, rfl⟩
          refine ⟨(name, p.textOf s) :: _, ?_, rfl⟩
          rw [List.reverse_cons, List.append_assoc]
          exact hentries
        · rintro e b' ⟨entries, hentries⟩
          refine ⟨(name, p.textOf s) :: entries, ?_⟩
          rw [List.reverse_cons, List.append_assoc]
          exact hentries

theorem writeOutputs_records (c : Collection) (number : Nat) (h : Accounts directory ledger b) :
    Records directory ledger (p.writeOutputs c number directory) b fun _ entries =>
      ∃ documents, (c.write p.policy number p.recursive).1 = .ok documents ∧
        entries = ((FileName.assign [] (documents.map fun d => d.key.locator)).zip documents).map
          fun e => (e.1, p.textOf e.2) := by
  have halters := FileTree.makeDirectories_alters b.tree directory
  unfold Records writeOutputs
  rw [ends_bind, ends_get]
  dsimp only
  split
  · rename_i fault t hmade
    rw [hmade] at halters
    exact ⟨[], h.alters halters⟩
  · rename_i u t hmade
    rw [hmade] at halters
    rw [ends_bind, ends_set]
    have hmade := h.alters halters
    cases hdocuments : (c.write p.policy number p.recursive).1 with
    | error e => exact ⟨[], hmade⟩
    | ok documents =>
        dsimp only
        refine Ends.mono (writeAll_records _ (fun e he => ?_) hmade) ?_ fun _ _ h => h
        · exact FileName.single_of_mem_assign (List.of_mem_zip he).1
        · rintro paths b' ⟨entries, hentries, rfl⟩
          exact ⟨_, hentries, documents, rfl, rfl⟩

/-- The report on a file lists where the documents that are emitted go. -/
theorem outputs_eq_emission (hdirectory : p.outputDirectory = some directory)
    (hbuilt : (p.processFile path b).1.status = .built) :
    (p.processFile path b).1.outputs =
      (p.emission b path).map fun e => FileTree.join directory e.1 := by
  obtain ⟨number, direct, ws, outputs, hcompose, hreport, houtputs⟩ :=
    exists_compose_of_built hbuilt
  obtain ⟨documents, hdocuments, rfl⟩ := houtputs directory hdirectory
  unfold emission
  rw [hreport, hcompose]
  dsimp only
  rw [hdocuments, List.map_map]
  exact (map_zip_assign documents _).symm

/-- Processing one file writes what it emits, or fails on the way. -/
theorem attempt_records (hdirectory : p.outputDirectory = some directory) (path : String)
    (h : Accounts directory ledger b) :
    Records directory ledger (p.attempt path) b fun _ entries => entries = p.emission b path := by
  unfold Records attempt emission
  rw [ends_bind, ends_get]
  have hcompose : StateT.run (ExceptT.run (p.compose b.tree path)) b.worker.workspace =
      exec (p.compose b.tree path) b.worker.workspace := rfl
  dsimp only
  rw [hcompose]
  rcases exec (p.compose b.tree path) b.worker.workspace with ⟨e | ⟨number, direct⟩, ws⟩
  · exact ⟨[], h.worker _⟩
  · dsimp only
    rw [ends_bind, ends_set, hdirectory, ends_bind]
    refine Ends.mono (writeOutputs_records ws.collection number (h.worker _)) ?_ fun _ _ h => h
    rintro paths b' ⟨entries, hentries, documents, hdocuments, rfl⟩
    refine ⟨_, hentries, ?_⟩
    rw [hdocuments]

theorem processFile_accounts (hdirectory : p.outputDirectory = some directory) (path : String)
    (h : Accounts directory ledger b) :
    ∃ entries : List (String × String),
      Accounts directory (entries.reverse ++ ledger) (p.processFile path b).2 ∧
        ((p.processFile path b).1.status = .built → entries = p.emission b path) := by
  have hrecords := attempt_records hdirectory path h
  have hattempt : StateT.run (ExceptT.run (p.attempt path)) b = exec (p.attempt path) b := rfl
  unfold processFile
  rw [hattempt]
  rcases hexec : exec (p.attempt path) b with ⟨e | report, b'⟩
  · obtain ⟨entries, hentries⟩ := hrecords.of_error hexec
    exact ⟨entries, hentries, nofun⟩
  · obtain ⟨entries, hentries, heq⟩ := hrecords.of_ok hexec
    exact ⟨entries, hentries, fun _ => heq⟩

theorem processAll_cons_of_halt {rest : List String}
    (hhalts : (p.failFast && (p.processFile path b).1.status.isFailed) = true) :
    p.processAll (path :: rest) b =
      ((p.processFile path b).1 :: rest.map fun path => { path, status := .skipped skipReason },
        (p.processFile path b).2) := by
  rw [processAll]
  dsimp only
  rw [if_pos hhalts]

theorem processAll_cons_of_not_halt {rest : List String}
    (hgoes : (p.failFast && (p.processFile path b).1.status.isFailed) = false) :
    p.processAll (path :: rest) b =
      ((p.processFile path b).1 :: (p.processAll rest (p.processFile path b).2).1,
        (p.processAll rest (p.processFile path b).2).2) := by
  rw [processAll]
  dsimp only
  rw [if_neg (ne_true_of_eq_false hgoes)]

/-- Files go on with the ledger one after the other, and each has a chapter of
its own there. -/
theorem processAll_accounts (hdirectory : p.outputDirectory = some directory)
    (paths : List String) (h : Accounts directory ledger b) :
    ∃ chapters : List (List (String × String)), chapters.length = paths.length ∧
      Accounts directory (chapters.flatten.reverse ++ ledger) (p.processAll paths b).2 ∧
        ∀ i path report, paths[i]? = some path → (p.processAll paths b).1[i]? = some report →
          report.status = .built →
            chapters[i]? = some (p.emission (p.processAll (paths.take i) b).2 path) ∧
            report.outputs = (p.emission (p.processAll (paths.take i) b).2 path).map fun e =>
              FileTree.join directory e.1 := by
  induction paths generalizing b ledger with
  | nil => exact ⟨[], rfl, h, nofun⟩
  | cons path rest ih =>
      obtain ⟨first, hfirst, hbuilt⟩ := processFile_accounts hdirectory path h
      cases hhalts : p.failFast && (p.processFile path b).1.status.isFailed with
      | true =>
          refine ⟨first :: List.replicate rest.length [], by simp, ?_, ?_⟩
          · rw [processAll_cons_of_halt hhalts, List.flatten_cons, List.flatten_replicate_nil,
              List.append_nil]
            exact hfirst
          rw [processAll_cons_of_halt hhalts]
          rintro (- | i) path' report hpath hreport hstatus
          · cases hreport
            rw [hstatus] at hhalts
            exact absurd (Bool.and_eq_true_iff.1 hhalts).2 Bool.false_ne_true
          · -- nothing that was skipped is built
            obtain ⟨other, -, rfl⟩ := List.mem_map.1 (List.mem_of_getElem? hreport)
            cases hstatus
      | false =>
          -- the ledger of the remaining files begins where that of the first one ends
          rw [processAll_cons_of_not_halt hhalts]
          obtain ⟨chapters, hlength, hchapters, hrest⟩ := ih hfirst
          refine ⟨first :: chapters, congrArg (· + 1) hlength, ?_, ?_⟩
          · rw [List.flatten_cons, List.reverse_append, List.append_assoc]
            exact hchapters
          rintro (- | i) path' report hpath hreport hstatus
          · cases hpath
            cases hreport
            cases hbuilt hstatus
            exact ⟨rfl, outputs_eq_emission hdirectory hstatus⟩
          · rw [List.take_succ_cons, processAll_cons_of_not_halt hhalts]
            exact hrest i path' report hpath hreport hstatus

/-- One result emits its documents under different names. -/
theorem nodup_emission (p : Processor) (b : Bench) (path : String) :
    ((p.emission b path).map Prod.fst).Nodup := by
  unfold emission
  rcases exec (p.compose b.tree path) b.worker.workspace with ⟨e | ⟨number, direct⟩, ws⟩
  · exact List.nodup_nil
  · dsimp only
    cases (ws.collection.write p.policy number p.recursive).1 with
    | error e => exact List.nodup_nil
    | ok documents =>
        dsimp only
        rw [List.map_map]
        change (((FileName.assign _ _).zip documents).map fun e => id e.1).Nodup
        rw [map_zip_assign, List.map_id]
        exact FileName.nodup_assign _ _

end Processor

end XmlSchema
