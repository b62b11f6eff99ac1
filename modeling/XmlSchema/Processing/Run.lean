import XmlSchema.Discovery.Walk
import XmlSchema.Document.Writer
import XmlSchema.Files.Change
import XmlSchema.Processing.FileName
import XmlSchema.Processing.Processor
import XmlSchema.Report.Basic
import XmlSchema.Xml.Printer

/-!
# Processing documents

Documents are built in order.  A document that is built is written to the
output directory, if there is one; a failure may end the run for the documents
that follow.
-/

namespace XmlSchema.Processor

/-- The files and the worker while documents are processed; `written` has the
paths of the files written, latest first. -/
structure Bench where
  tree : FileTree
  worker : Worker
  written : List String := []
  deriving Inhabited

/-- Build the documents of known namespaces. -/
def loadKnown (p : Processor) (env : Environment) : List (String × String) → Compose Unit
  | [] => pure ()
  | (ns, location) :: rest => do
      match ← Compose.readLocation env location p.baseUri with
      | some number => Compose.update fun c => c.mapNamespace ns number
      | none => pure ()
      loadKnown p env rest

/-- Build the document of a file, unless a known namespace brought it along.
The answer is its schema, and whether it was read directly. -/
def buildEntry (env : Environment) (t : FileTree) (path : String) : Compose (Nat × Bool) := do
  match (← get).collection.registered.find? fun s => s.key.locator = path with
  | some s => return (s.number, false)
  | none =>
      match t.read path with
      | .error fault => throw (.io fault)
      | .ok text => return (← Compose.buildText env path text, true)

/-- Build known namespaces, then the document of a file. -/
def compose (p : Processor) (t : FileTree) (path : String) : Compose (Nat × Bool) := do
  let env := p.environment t
  loadKnown p env p.knownNamespaces
  buildEntry env t path

/-- Write documents into a directory under their names; the answer has the
paths. -/
def writeAll (p : Processor) (directory : String) :
    List (String × WrittenSchema) → Attempt Bench (List String)
  | [] => pure []
  | (name, s) :: rest => do
      let b ← get
      let path := FileTree.join directory name
      match b.tree.write path (s.document.print (some p.indent)) with
      | .error fault => throw (.io fault)
      | .ok tree => do
          set { b with tree, written := path :: b.written }
          let paths ← writeAll p directory rest
          return path :: paths

/-- Write the documents of a schema into a directory. -/
def writeOutputs (p : Processor) (c : Collection) (number : Nat) (directory : String) :
    Attempt Bench (List String) := do
  let b ← get
  match b.tree.makeDirectories directory with
  | (.error fault, tree) => do
      set { b with tree }
      throw (.io fault)
  | (.ok _, tree) => do
      set { b with tree }
      match (c.write p.policy number p.recursive).1 with
      | .error e => throw e
      | .ok documents =>
          let names := FileName.assign [] (documents.map fun d => d.key.locator)
          writeAll p directory (names.zip documents)

/-- The report on a document that was built. -/
def reportBuilt (c : Collection) (number : Nat) (path : String) (outputs : List String) :
    DocumentReport where
  path
  targetNamespace :=
    (c.schemas[number]?.map Schema.logicalNamespace).filter fun ns => !ns.isEmpty
  schemas := c.registered.length
  components := (c.registered.map fun s => s.names.length).foldr (· + ·) 0
  unresolvedTypes := c.waitingNames.map QName.text
  unresolvedExternals := (c.registered.flatMap Schema.externals).countP fun e => e.target.isNone
  outputs

/-- Build the document of a file, and write it if there is an output
directory. -/
def attempt (p : Processor) (path : String) : Attempt Bench DocumentReport := do
  let b ← get
  let (outcome, ws) := (p.compose b.tree path).run.run b.worker.workspace
  let worker := b.worker.resume ws
  match outcome with
  | .error e => do
      set { b with worker }
      throw e
  | .ok (number, direct) => do
      let c := ws.collection
      set { b with worker := worker.keep c (if direct then some number else none) }
      match p.outputDirectory with
      | none => return reportBuilt c number path []
      | some directory => return reportBuilt c number path (← p.writeOutputs c number directory)

/-- Process the document of a file. -/
def processFile (p : Processor) (path : String) (b : Bench) : DocumentReport × Bench :=
  let (outcome, b) := (p.attempt path).run.run b
  match outcome with
  | .ok report => (report, b)
  | .error e => ({ path, status := .failed (p.describe e) }, b)

/-- Why a document is skipped. -/
def skipReason : String := "skipped after an earlier failure"

/-- Process the documents of files in order; after a failure, perhaps skip the
rest. -/
def processAll (p : Processor) : List String → Bench → List DocumentReport × Bench
  | [], b => ([], b)
  | path :: rest, b =>
      let (report, b) := p.processFile path b
      if p.failFast && report.status.isFailed then
        (report :: rest.map fun path => { path, status := .skipped skipReason }, b)
      else
        let (reports, b) := processAll p rest b
        (report :: reports, b)

/-- The bench at the beginning of a run. -/
def bench (p : Processor) (t : FileTree) : Bench := ⟨t, Worker.fresh p.cacheCapacity, []⟩

/-- Process one document without a cache. -/
def single (p : Processor) (t : FileTree) (path : String) : DocumentReport × Bench :=
  p.processFile path ⟨t, Worker.fresh none, []⟩

/-- Process the documents of some files. -/
def run (p : Processor) (t : FileTree) (paths : List String) : RunReport × Bench :=
  let (reports, b) := p.processAll paths (p.bench t)
  (RunReport.ofDocuments reports, b)

/-- Find documents and process them. -/
def runPath (p : Processor) (d : Discovery) (t : FileTree) (path : String) :
    Except SchemaError (RunReport × Bench) :=
  (d.walk t path).map fun (paths, _) =>
    let (report, b) := p.run t paths
    ({ report with threads := p.threads }, b)

end XmlSchema.Processor
