import XmlSchema.Component.Error
import XmlSchema.Settings.Basic
import XmlSchema.Text.Blank

/-!
# Errors of settings

What can be wrong with settings and with the places they come from, and the
text of each error.  Complete settings are checked as a whole, and every problem
is reported.
-/

namespace XmlSchema

/-- What is wrong with complete settings. -/
inductive SettingsProblem where
  | noThreads
  | tooManyThreads (count : Nat)
  | emptyLocation (ns : String)
  | noCacheCapacity
  | noTimeout
  | tooManyRetries
  | verboseAndQuiet
  | tooWide
  | noExtension
  | invalidExtension (extension : String)
  | malformedPair (pair : String)
  deriving DecidableEq, Repr

/-- The text of a problem. -/
def SettingsProblem.text : SettingsProblem → String
  | noThreads => "threads must be greater than 0"
  | tooManyThreads count => "threads cannot exceed 1000 (got " ++ toString count ++ ")"
  | emptyLocation ns => "known namespace '" ++ ns ++ "' has an empty location"
  | noCacheCapacity => "cache capacity must be greater than 0 when the cache is enabled"
  | noTimeout => "timeout must be greater than 0"
  | tooManyRetries => "retry attempts cannot exceed 10"
  | verboseAndQuiet => "verbose and quiet are mutually exclusive"
  | tooWide => "indentation cannot exceed 16 columns"
  | noExtension => "at least one file extension is required"
  | invalidExtension extension => "invalid file extension '" ++ extension ++ "'"
  | malformedPair pair => "Expected NAMESPACE=LOCATION, got '" ++ pair ++ "'"

/-- Why the value of a variable is refused. -/
inductive VariableFault where
  | unreadable (value : String)
  | unknownFormat (value : String)
  deriving DecidableEq, Repr

/-- The text of a fault of a variable. -/
def VariableFault.text : VariableFault → String
  | unreadable value => "cannot parse '" ++ value ++ "'"
  | unknownFormat value => "unknown format '" ++ value ++ "'"

/-- Why there are no settings. -/
inductive SettingsError where
  | io (fault : FileFault)
  | malformedToml
  | malformedJson
  | invalid (problems : List SettingsProblem)
  | variable (name : String) (fault : VariableFault)
  | unsupportedFormat (extension : String)
  deriving DecidableEq, Repr

namespace SettingsError

/-- The text of an error. -/
def message : SettingsError → String
  | io fault => "Failed to read configuration: " ++ fault.text
  | malformedToml => "Invalid TOML configuration"
  | malformedJson => "Invalid JSON configuration"
  | invalid problems =>
      "Invalid configuration: " ++ "; ".intercalate (problems.map SettingsProblem.text)
  | .variable name fault => "Invalid environment override: " ++ name ++ ": " ++ fault.text
  | unsupportedFormat extension => "Unsupported configuration file format: " ++ extension

/-- The error of the library that an error of settings becomes. -/
def toSchemaError (e : SettingsError) : SchemaError := .configuration e.message

end SettingsError

namespace Settings

/-- The greatest number of threads. -/
def maxThreads : Nat := 1000

/-- The greatest number of retries. -/
def maxRetries : Nat := 10

/-- The widest indentation. -/
def maxIndent : Nat := 16

/-- A problem, if there is one. -/
def problemIf (b : Bool) (p : SettingsProblem) : List SettingsProblem := if b then [p] else []

/-- Whether a file extension holds a separator or a dot. -/
def isInvalidExtension (e : String) : Bool :=
  e.toList.any fun c => c = '/' || c = '\\' || c = '.'

/-- The problems of the section on building. -/
def Building.problems (b : Building) : List SettingsProblem :=
  (match b.threads with
    | none => []
    | some n => if n = 0 then [.noThreads] else problemIf (maxThreads < n) (.tooManyThreads n)) ++
  b.knownNamespaces.flatMap fun e => problemIf (Text.trim e.2 = "") (.emptyLocation e.1)

/-- The problems of the section on the selection of files. -/
def Selection.problems (s : Selection) : List SettingsProblem :=
  problemIf s.extensions.isEmpty .noExtension ++
    (s.extensions.filter isInvalidExtension).map .invalidExtension

/-- All problems, section by section. -/
def problems (s : Settings) : List SettingsProblem :=
  s.building.problems ++
    problemIf (s.caching.enabled && s.caching.capacity == 0) .noCacheCapacity ++
    problemIf (s.network.timeoutSeconds == 0) .noTimeout ++
    problemIf (maxRetries < s.network.retryAttempts) .tooManyRetries ++
    problemIf (s.output.verbose && s.output.quiet) .verboseAndQuiet ++
    problemIf (maxIndent < s.output.indent) .tooWide ++
    s.selection.problems

/-- Accept settings without problems. -/
def check (s : Settings) : Except SettingsError Unit :=
  if s.problems.isEmpty then .ok () else .error (.invalid s.problems)

theorem check_eq_ok_iff (s : Settings) : s.check = .ok () ↔ s.problems = [] := by
  unfold check
  split <;> simp_all

end Settings

end XmlSchema
