/-!
# Reports

What came of each document of a run, and of the run as a whole.
-/

namespace XmlSchema

/-- A span of time in nanoseconds. -/
structure Duration where
  nanos : Nat := 0
  deriving DecidableEq, Repr, Inhabited

/-- What came of a document. -/
inductive DocumentStatus where
  | built
  | failed (message : String)
  | skipped (reason : String)
  deriving DecidableEq, Repr, Inhabited

namespace DocumentStatus

/-- Whether a document was built. -/
def isBuilt : DocumentStatus → Bool
  | built => true
  | _ => false

/-- Whether a document failed. -/
def isFailed : DocumentStatus → Bool
  | failed _ => true
  | _ => false

/-- Whether a document was skipped. -/
def isSkipped : DocumentStatus → Bool
  | skipped _ => true
  | _ => false

end DocumentStatus

/-- The report on one document: its schemas and components with those of the
documents it refers to, the types that nothing declares, the number of
references to documents that were not found, and the files written. -/
structure DocumentReport where
  path : String
  status : DocumentStatus := .built
  targetNamespace : Option String := none
  schemas : Nat := 0
  components : Nat := 0
  unresolvedTypes : List String := []
  unresolvedExternals : Nat := 0
  outputs : List String := []
  duration : Duration := {}
  deriving DecidableEq, Repr, Inhabited

/-- The report on a run. -/
structure RunReport where
  documents : List DocumentReport
  totalDuration : Duration := {}
  discoveryDuration : Duration := {}
  threads : Nat := 1
  deriving DecidableEq, Repr, Inhabited

namespace RunReport

/-- The report on documents of their own, whose times add up. -/
def ofDocuments (documents : List DocumentReport) : RunReport where
  documents
  totalDuration := ⟨(documents.map fun d => d.duration.nanos).foldr (· + ·) 0⟩

/-- The number of documents. -/
def total (r : RunReport) : Nat := r.documents.length

/-- The number of documents that were built. -/
def built (r : RunReport) : Nat := r.documents.countP fun d => d.status.isBuilt

/-- The number of documents that failed. -/
def failed (r : RunReport) : Nat := r.documents.countP fun d => d.status.isFailed

/-- The number of documents that were skipped. -/
def skipped (r : RunReport) : Nat := r.documents.countP fun d => d.status.isSkipped

/-- Whether there are documents and all were built. -/
def allBuilt (r : RunReport) : Bool := 0 < r.total && r.built == r.total

/-- Whether a document failed. -/
def hasFailures (r : RunReport) : Bool := 0 < r.failed

/-- The number of components of all documents. -/
def components (r : RunReport) : Nat :=
  (r.documents.map DocumentReport.components).foldr (· + ·) 0

/-- The number of files written. -/
def outputs (r : RunReport) : Nat :=
  (r.documents.map fun d => d.outputs.length).foldr (· + ·) 0

/-- The share of documents that were built, of a hundred. -/
def successRate (r : RunReport) : Float :=
  if r.total = 0 then 0
  else Float.ofNat r.built / Float.ofNat r.total * 100

/-- Count a name among sorted names with their counts. -/
def countName (name : String) : List (String × Nat) → List (String × Nat)
  | [] => [(name, 1)]
  | e :: rest =>
      if name < e.1 then (name, 1) :: e :: rest
      else if name = e.1 then (name, e.2 + 1) :: rest
      else e :: countName name rest

/-- The types that nothing declares in order, each with the number of times it
was reported. -/
def unresolvedTypes (r : RunReport) : List (String × Nat) :=
  (r.documents.flatMap DocumentReport.unresolvedTypes).foldl (fun all n => countName n all) []

/-- Every document is built, failed or skipped. -/
theorem total_eq (r : RunReport) : r.total = r.built + r.failed + r.skipped := by
  unfold total built failed skipped
  induction r.documents with
  | nil => rfl
  | cons d rest ih =>
      have one : (if d.status.isBuilt then 1 else 0) + (if d.status.isFailed then 1 else 0) +
          (if d.status.isSkipped then 1 else 0) = 1 := by
        cases d.status <;> rfl
      rw [List.countP_cons, List.countP_cons, List.countP_cons, List.length_cons]
      omega

end RunReport

end XmlSchema
