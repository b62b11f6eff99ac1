import XmlSchema.Processing.Crew
import XmlSchema.Proofs.Resolution.Sharing

/-!
# Documents that are not written

Without an output directory the report on a document is read off the collection
in which it is built, and tells nothing of the cache: a document is built alike
with a cache that answers like the resolver and without one.  Known namespaces
are built one after the other, so that the building of a document can be taken
up between them.
-/

namespace XmlSchema

open Attempt

namespace Processor

open Compose

variable (p : Processor) {env : Environment} {w v : Workspace}

theorem exec_loadKnown (env : Environment) (ns location : String)
    (rest : List (String × String)) (w : Workspace) :
    exec (p.loadKnown env ((ns, location) :: rest)) w =
      match exec (readLocation env location p.baseUri) w with
      | (.ok found, later) =>
          exec (p.loadKnown env rest)
            (match found with
            | some number =>
                { later with collection := later.collection.mapNamespace ns number }
            | none => later)
      | (.error e, later) => (.error e, later) := by
  rw [loadKnown, exec_bind]
  rcases exec (readLocation env location p.baseUri) w with ⟨e | (- | number), later⟩ <;> rfl

/-- Known namespaces are built one after the other. -/
theorem exec_loadKnown_cons (env : Environment) (known : String × String)
    (rest : List (String × String)) (w : Workspace) :
    exec (p.loadKnown env (known :: rest)) w =
      match exec (p.loadKnown env [known]) w with
      | (.ok _, later) => exec (p.loadKnown env rest) later
      | (.error e, later) => (.error e, later) := by
  obtain ⟨ns, location⟩ := known
  rw [exec_loadKnown, exec_loadKnown]
  rcases exec (readLocation env location p.baseUri) w with ⟨e | found, later⟩ <;> rfl

theorem loadKnown_agree (known : List (String × String)) (h : Mirrors env w v) :
    Agree env (p.loadKnown env known) w (p.loadKnown env known) v Eq := by
  induction known generalizing w v with
  | nil => exact .of_pure rfl h
  | cons entry rest ih =>
      obtain ⟨ns, location⟩ := entry
      unfold loadKnown
      refine (readLocation_agree h location p.baseUri).bind ?_
      rintro found _ w₁ v₁ rfl h₁
      cases found with
      | none => exact ih h₁
      | some number =>
          have hmapped : (w₁.collection.mapNamespace ns number).unticketed =
              (v₁.collection.mapNamespace ns number).unticketed :=
            congrArg (fun c : Collection => c.mapNamespace ns number) h₁.collection
          exact (Agree.of_update h₁ hmapped).bind fun _ _ _ _ _ h₂ => ih h₂

theorem registered_unticketed (c : Collection) :
    c.unticketed.registered = c.registered.map Schema.unticketed := by
  unfold Collection.registered
  rw [Collection.toList_unticketed, List.filter_map]
  rfl

theorem buildEntry_agree (h : Mirrors env w v) (t : FileTree) (path : String) :
    Agree env (buildEntry env t path) w (buildEntry env t path) v Eq := by
  have hnumber : ∀ c : Collection,
      (c.unticketed.registered.find? fun s => s.key.locator = path).map Schema.number =
        (c.registered.find? fun s => s.key.locator = path).map Schema.number := by
    intro c
    rw [registered_unticketed, List.find?_map, Option.map_map]
    rfl
  have hsame := hnumber w.collection
  rw [h.collection, hnumber] at hsame
  unfold buildEntry
  refine .get_bind ?_
  cases hw : w.collection.registered.find? fun s => s.key.locator = path <;>
    cases hv : v.collection.registered.find? fun s => s.key.locator = path <;>
    rw [hw, hv] at hsame
  · cases t.read path with
    | error fault => exact .of_throw _ h
    | ok text =>
        refine (buildText_agree h path text).bind ?_
        rintro number _ w₁ v₁ rfl h₁
        exact .of_pure rfl h₁
  · cases hsame
  · cases hsame
  · refine .of_pure ?_ h
    rw [Option.some.inj hsame]

/-- A report tells nothing of tickets. -/
theorem reportBuilt_congr {c d : Collection} (h : c.unticketed = d.unticketed) (number : Nat)
    (path : String) (outputs : List String) :
    reportBuilt c number path outputs = reportBuilt d number path outputs := by
  have hsame : ∀ c : Collection,
      reportBuilt c.unticketed number path outputs = reportBuilt c number path outputs := by
    intro c
    have hnamespace : Schema.logicalNamespace ∘ Schema.unticketed = Schema.logicalNamespace := rfl
    have hnames : (fun s : Schema => s.names.length) ∘ Schema.unticketed =
        fun s => s.names.length := rfl
    have hexternals : ∀ l : List Schema,
        (l.map Schema.unticketed).flatMap Schema.externals = l.flatMap Schema.externals := by
      intro l
      rw [List.flatMap_map]
      rfl
    have hwaiting : c.unticketed.waitingNames = c.waitingNames := rfl
    unfold reportBuilt
    rw [Collection.schemas_unticketed, Option.map_map, hnamespace, registered_unticketed,
      List.length_map, List.map_map, hnames, hexternals, hwaiting]
  rw [← hsame c, h, hsame d]

theorem exec_attempt (hdir : p.outputDirectory = none) (path : String) (b : Bench) :
    exec (p.attempt path) b =
      match exec (p.compose b.tree path) b.worker.workspace with
      | (.ok (number, direct), ws) =>
          (.ok (reportBuilt ws.collection number path []),
            { b with
              worker := (b.worker.resume ws).keep ws.collection
                (if direct then some number else none) })
      | (.error e, ws) => (.error e, { b with worker := b.worker.resume ws }) := by
  unfold attempt
  rw [exec_bind, exec_get]
  have hcompose : StateT.run (ExceptT.run (p.compose b.tree path)) b.worker.workspace =
      exec (p.compose b.tree path) b.worker.workspace := rfl
  dsimp only
  rw [hcompose, hdir]
  rcases exec (p.compose b.tree path) b.worker.workspace with ⟨e | ⟨number, direct⟩, ws⟩ <;> rfl

/-- A document that is not written leaves the files as they are. -/
theorem processFile_eq (hdir : p.outputDirectory = none) (path : String) (b : Bench) :
    p.processFile path b =
      match exec (p.compose b.tree path) b.worker.workspace with
      | (.ok (number, direct), ws) =>
          (reportBuilt ws.collection number path [],
            { b with
              worker := (b.worker.resume ws).keep ws.collection
                (if direct then some number else none) })
      | (.error e, ws) =>
          ({ path, status := .failed (p.describe e) }, { b with worker := b.worker.resume ws }) := by
  have hattempt : StateT.run (ExceptT.run (p.attempt path)) b = exec (p.attempt path) b := rfl
  unfold processFile
  rw [hattempt, p.exec_attempt hdir]
  rcases exec (p.compose b.tree path) b.worker.workspace with ⟨e | ⟨number, direct⟩, ws⟩ <;> rfl

/-- The report on a document that is processed alone. -/
theorem single_eq (hdir : p.outputDirectory = none) (t : FileTree) (path : String) :
    (p.single t path).1 =
      match exec (p.compose t path) {} with
      | (.ok (number, _), ws) => reportBuilt ws.collection number path []
      | (.error e, _) => { path, status := .failed (p.describe e) } := by
  have hworkspace : (Worker.fresh none).workspace = {} := rfl
  unfold single
  rw [p.processFile_eq hdir, hworkspace]
  rcases exec (p.compose t path) {} with ⟨e | ⟨number, direct⟩, ws⟩ <;> rfl

theorem single_path (hdir : p.outputDirectory = none) (t : FileTree) (path : String) :
    (p.single t path).1.path = path := by
  rw [p.single_eq hdir]
  rcases exec (p.compose t path) {} with ⟨e | ⟨number, direct⟩, ws⟩ <;> rfl

theorem single_not_skipped (hdir : p.outputDirectory = none) (t : FileTree) (path : String) :
    (p.single t path).1.status.isSkipped = false := by
  rw [p.single_eq hdir]
  rcases exec (p.compose t path) {} with ⟨e | ⟨number, direct⟩, ws⟩ <;> rfl

/-- What is left to do for a document while known namespaces remain. -/
def remaining (t : FileTree) (path : String) (known : List (String × String)) :
    Compose (Nat × Bool) := do
  p.loadKnown (p.environment t) known
  buildEntry (p.environment t) t path

theorem remaining_knownNamespaces (t : FileTree) (path : String) :
    p.remaining t path p.knownNamespaces = p.compose t path := rfl

theorem exec_remaining_nil (t : FileTree) (path : String) (w : Workspace) :
    exec (p.remaining t path []) w = exec (buildEntry (p.environment t) t path) w := rfl

theorem exec_remaining_cons (t : FileTree) (path : String) (known : String × String)
    (rest : List (String × String)) (w : Workspace) :
    exec (p.remaining t path (known :: rest)) w =
      match exec (p.loadKnown (p.environment t) [known]) w with
      | (.ok _, later) => exec (p.remaining t path rest) later
      | (.error e, later) => (.error e, later) := by
  unfold remaining
  rw [exec_bind, exec_loadKnown_cons]
  rcases exec (p.loadKnown (p.environment t) [known]) w with ⟨e | a, later⟩
  · rfl
  · dsimp only
    rw [exec_bind]

/-- A worker has come to the end of a document, with some outcome. -/
def conclude (path : String) (worker : Worker) :
    Except SchemaError (Nat × Bool) × Workspace → Turn
  | (.ok (number, direct), ws) =>
      .done ((worker.resume ws).keep ws.collection (if direct then some number else none))
        (reportBuilt ws.collection number path [])
  | (.error e, ws) => .done (worker.resume ws) { path, status := .failed (p.describe e) }

theorem exists_conclude (path : String) (worker : Worker)
    (x : Except SchemaError (Nat × Bool) × Workspace) :
    ∃ later report, p.conclude path worker x = .done later report := by
  rcases x with ⟨e | a, ws⟩
  · exact ⟨_, _, rfl⟩
  · exact ⟨_, _, rfl⟩

theorem advance_nil (t : FileTree) (path : String) (worker : Worker) (ws : Workspace) :
    p.advance t path worker ws [] =
      p.conclude path worker (exec (buildEntry (p.environment t) t path) ws) := by
  have hbuild : StateT.run (ExceptT.run (buildEntry (p.environment t) t path)) ws =
      exec (buildEntry (p.environment t) t path) ws := rfl
  unfold advance
  dsimp only
  rw [hbuild]
  rcases exec (buildEntry (p.environment t) t path) ws with ⟨e | a, later⟩ <;> rfl

theorem advance_cons (t : FileTree) (path : String) (worker : Worker) (ws : Workspace)
    (known : String × String) (rest : List (String × String)) :
    p.advance t path worker ws (known :: rest) =
      match exec (p.loadKnown (p.environment t) [known]) ws with
      | (.ok _, later) => .building path worker rest later
      | (.error e, later) => p.conclude path worker (.error e, later) := rfl

/-- A document that is processed at once comes to the same end. -/
theorem exists_processFile (hdir : p.outputDirectory = none) (path : String) (b : Bench) :
    ∃ later report, p.processFile path b = (report, { b with worker := later }) ∧
      p.conclude path b.worker (exec (p.compose b.tree path) b.worker.workspace) =
        .done later report := by
  rw [p.processFile_eq hdir]
  rcases exec (p.compose b.tree path) b.worker.workspace with ⟨e | ⟨number, direct⟩, ws⟩
  · exact ⟨_, _, rfl, rfl⟩
  · exact ⟨_, _, rfl, rfl⟩

end Processor

end XmlSchema
