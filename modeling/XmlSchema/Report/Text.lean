import XmlSchema.Number.Places
import XmlSchema.Report.Basic
import XmlSchema.Settings.Verbosity

/-!
# Reports as text

The report for a reader lists documents, as many as the verbosity asks for, and
ends in a summary of the run.  The summary also has a form of one line.
-/

namespace XmlSchema

/-- How a report is shown. -/
structure Style where
  verbosity : Verbosity := .normal
  colors : Bool := false
  deriving DecidableEq, Repr, Inhabited

/-- The plural ending for a count. -/
def plural (count : Nat) : String := if count = 1 then "" else "s"

/-- A count with its noun. -/
def counted (count : Nat) (noun : String) : String := toString count ++ " " ++ noun ++ plural count

namespace Duration

/-- The seconds of a span of time. -/
def seconds (d : Duration) : Float :=
  Float.ofNat (d.nanos / Nat.pow 10 9) +
    Float.ofNat (d.nanos % Nat.pow 10 9) / Float.ofNat (Nat.pow 10 9)

/-- The text of a span of time: whole milliseconds below a second, seconds with
two places below a minute, else minutes and seconds with one place. -/
def text (d : Duration) : String :=
  let s := d.seconds
  if s < 1 then toString (d.nanos / Nat.pow 10 6) ++ "ms"
  else if s < 60 then (Quotient.ofFloat s).text 2 ++ "s"
  else toString (s / 60).toUInt64 ++ "m" ++ ((Quotient.ofFloat s).remainder 60).text 1 ++ "s"

end Duration

namespace Style

/-- A word in a color of the terminal. -/
def colorize (st : Style) (word color : String) : String :=
  if st.colors then "\x1b[" ++ color ++ "m" ++ word ++ "\x1b[0m" else word

/-- The line on a document without its details. -/
def headline (st : Style) (d : DocumentReport) : String :=
  match d.status with
  | .built =>
      st.colorize "✓ BUILT" "32" ++ "  " ++ d.path ++ " (" ++ d.duration.text ++ ") - " ++
        counted d.schemas "schema" ++ ", " ++ counted d.components "component"
  | .failed message =>
      st.colorize "✗ FAILED" "31" ++ "  " ++ d.path ++ " (" ++ d.duration.text ++ ") - " ++ message
  | .skipped reason => st.colorize "- SKIPPED" "36" ++ "  " ++ d.path ++ " - " ++ reason

/-- What is told about a document that was built. -/
def details (d : DocumentReport) : List String :=
  (d.targetNamespace.map fun ns => "namespace: " ++ ns).toList ++
    (if 0 < d.unresolvedExternals then
      ["unresolved externals: " ++ toString d.unresolvedExternals] else []) ++
    d.unresolvedTypes.map fun name => "unresolved type: " ++ name

/-- The lines on a document, without a line end behind them. -/
def document (st : Style) (d : DocumentReport) : String :=
  let told := if d.status.isBuilt && st.verbosity.atLeast .verbose then details d else []
  let written := if st.verbosity = .debug then d.outputs.map fun path => "wrote " ++ path else []
  st.headline d ++ String.join ((told ++ written).map fun line => "\n    " ++ line)

/-- Whether a document is listed. -/
def lists (st : Style) (d : DocumentReport) : Bool :=
  match st.verbosity with
  | .quiet => d.status.isFailed
  | .normal => !d.status.isBuilt
  | .verbose => true
  | .debug => true

/-- The summary line by line. -/
def summary (st : Style) (r : RunReport) : List String :=
  let unresolved := r.unresolvedTypes
  ["Build Summary:", "  Total files: " ++ toString r.total,
    "  " ++ st.colorize "Built:" "32" ++ " " ++ toString r.built] ++
  (if 0 < r.failed then ["  " ++ st.colorize "Failed:" "31" ++ " " ++ toString r.failed] else []) ++
  (if 0 < r.skipped then ["  " ++ st.colorize "Skipped:" "36" ++ " " ++ toString r.skipped]
    else []) ++
  ["  Components: " ++ toString r.components] ++
  (if unresolved.isEmpty then []
    else
      ("  Unresolved types: " ++ toString unresolved.length) ::
        (if st.verbosity.atLeast .verbose then
          unresolved.map fun e => "    " ++ e.1 ++ " (" ++ counted e.2 "document" ++ ")"
        else [])) ++
  (if 0 < r.outputs then ["  Documents written: " ++ toString r.outputs] else []) ++
  ["  Success rate: " ++ (Quotient.ofFloat r.successRate).text 1 ++ "%",
    "  Duration: " ++ r.totalDuration.text] ++
  (if st.verbosity = .debug then
    ["  Discovery: " ++ r.discoveryDuration.text, "  Worker threads: " ++ toString r.threads]
    else [])

/-- The report for a reader. -/
def report (st : Style) (r : RunReport) : String :=
  let listed := (r.documents.filter st.lists).map st.document
  let closing :=
    if st.verbosity = .quiet then []
    else (if r.documents.isEmpty then [] else [""]) ++ st.summary r
  String.join ((listed ++ closing).map fun line => line ++ "\n")

end Style

/-- The summary in one line. -/
def RunReport.line (r : RunReport) : String :=
  counted r.total "file" ++ ": " ++ toString r.built ++ " built, " ++ toString r.failed ++
    " failed, " ++ toString r.skipped ++ " skipped (" ++ r.totalDuration.text ++ ")"

end XmlSchema
