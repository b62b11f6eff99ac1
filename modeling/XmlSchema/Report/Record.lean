import XmlSchema.Data.Json
import XmlSchema.Report.Text
import XmlSchema.Settings.Basic

/-!
# Reports as structured values

The report for a program is a value with an entry for each count and for each
document.  A report is shown in the format that the settings ask for.
-/

namespace XmlSchema

open Data

/-- The value of a span of time. -/
def Duration.toValue (d : Duration) : Value :=
  .table [("secs", .nat (d.nanos / Nat.pow 10 9)), ("nanos", .nat (d.nanos % Nat.pow 10 9))]

/-- The entries that tell what came of a document. -/
def DocumentStatus.fields : DocumentStatus → List (String × Value)
  | built => [("status", .string "built")]
  | failed message => [("status", .string "failed"), ("message", .string message)]
  | skipped reason => [("status", .string "skipped"), ("reason", .string reason)]

/-- The value of the report on a document. -/
def DocumentReport.toValue (d : DocumentReport) : Value :=
  .table <| ("path", .string d.path) :: d.status.fields ++
    [("target_namespace", .text? d.targetNamespace),
     ("schema_count", .nat d.schemas),
     ("component_count", .nat d.components),
     ("unresolved_types", .texts d.unresolvedTypes),
     ("unresolved_externals", .nat d.unresolvedExternals),
     ("outputs", .texts d.outputs),
     ("duration", d.duration.toValue)]

/-- The value of the report on a run. -/
def RunReport.toValue (r : RunReport) : Value :=
  .table
    [("total_files", .nat r.total),
     ("built_files", .nat r.built),
     ("failed_files", .nat r.failed),
     ("skipped_files", .nat r.skipped),
     ("total_duration", r.totalDuration.toValue),
     ("discovery_duration", r.discoveryDuration.toValue),
     ("threads", .nat r.threads),
     ("file_results", .list (r.documents.map DocumentReport.toValue))]

/-- A report in a format. -/
def RunReport.render (r : RunReport) (format : OutputFormat) (st : Style) : String :=
  match format with
  | .human => st.report r
  | .json => Json.pretty r.toValue ++ "\n"
  | .summary => r.line ++ "\n"

end XmlSchema
