import XmlSchema.CommandLine.Arguments
import XmlSchema.CommandLine.Parsing
import XmlSchema.Processing.Run
import XmlSchema.Report.Record
import XmlSchema.Settings.File
import XmlSchema.Settings.Variables

/-!
# The program

A run of the program as a function of its surroundings: the files, the
directory with the settings of the user, the variables and the words of the
command line.  Its settings come from the defaults first, then from a file, then
from variables, then from the command line itself.  A run ends early with an
exit code and messages, or with a report and changed files.
-/

namespace XmlSchema

namespace Settings

/-- The settings for some arguments.  `user` is the directory that holds the
settings of the user. -/
def load (t : FileTree) (user : Option String) (vars : Variables) (a : Arguments) :
    Except SettingsError Settings := do
  let base ← match a.config with
    | some path => read t path
    | none => (find t user).map (·.getD {})
  let s ← base.withVariables vars
  let s ← a.override s
  s.check
  return s

end Settings

/-- What a run can see.  `threads` is the number of threads that the machine
runs at once. -/
structure Surroundings where
  files : FileTree
  userDirectory : Option String := none
  environment : Variables := []
  threads : Nat := 1
  deriving Inhabited

/-- Why a run ends without a report. -/
inductive RunError where
  | usage (e : UsageError)
  | arguments (fault : ArgumentFault)
  | settings (e : SettingsError)
  | discovery (e : SchemaError)
  | processing (path : String) (e : SchemaError)
  deriving Repr

namespace RunError

/-- The messages of an error, from the outermost to its cause. -/
def messages : RunError → List String
  | usage .missingPath => ["no path is given"]
  | usage .conflict => ["options contradict one another, or one is given twice"]
  | usage .unknownArgument => ["unexpected argument"]
  | usage .invalidValue => ["an option has no value, or one that is not possible"]
  | usage .invalidNumber => ["the value of an option is no number, or too great"]
  | usage .needlessValue => ["an option takes no value"]
  | usage .help => []
  | usage .version => []
  | arguments fault => [fault.text]
  | settings e => ["Failed to load configuration", e.message]
  | discovery e => [e.message]
  | processing path e => ["Failed to process " ++ path, e.message]

/-- The exit code of an error. -/
def exitCode : RunError → Nat
  | usage .help => 0
  | usage .version => 0
  | usage _ => 2
  | _ => 1

/-- What is shown as an error: the message, then what caused it. -/
def text (e : RunError) : String :=
  let word := if e.exitCode = 2 then "error: " else "Error: "
  match e.messages with
  | [] => ""
  | m :: [] => word ++ m ++ "\n"
  | m :: causes =>
      word ++ m ++ "\n\nCaused by:\n" ++ String.join (causes.map fun c => "    " ++ c ++ "\n")

/-- What is shown as the answer to a question. -/
def answer : RunError → String
  | usage .help => CommandOption.help
  | usage .version => "xsd-model 0.1.0\n"
  | _ => ""

end RunError

/-- A run that came to its end.  `consulted` has the paths whose files the run
depends on, as far as it got to know them. -/
structure Finished where
  report : RunReport
  format : OutputFormat
  verbosity : Verbosity
  files : FileTree
  written : List String
  consulted : List String
  deriving Inhabited

namespace Finished

/-- The exit code of a run. -/
def exitCode (r : Finished) : Nat := if r.report.hasFailures then 1 else 0

/-- What a run shows, perhaps in colors. -/
def shown (r : Finished) (colors : Bool) : String :=
  r.report.render r.format { verbosity := r.verbosity, colors }

end Finished

namespace Program

/-- How much a run tells, given its arguments and its settings. -/
def verbosity (a : Arguments) (s : Settings) : Verbosity :=
  if a.debug then .debug
  else if s.output.quiet then .quiet
  else if s.output.verbose then .verbose
  else .normal

/-- Which files are documents, given the settings. -/
def discovery (s : Settings) : Except SchemaError Discovery := do
  let d := ({ maxDepth := s.selection.maxDepth } : Discovery).withExtensions s.selection.extensions
  (← d.including s.selection.includes).excluding s.selection.excludes

/-- Run with given arguments. -/
def runWith (around : Surroundings) (a : Arguments) : Except RunError Finished := do
  match a.fault? around.files with
  | some fault => throw (.arguments fault)
  | none => do
      let s ← (Settings.load around.files around.userDirectory around.environment a).mapError
        RunError.settings
      let d ← (discovery s).mapError RunError.discovery
      let p := Processor.ofSettings around.threads s
      let (report, b) ← (p.runPath d around.files a.path).mapError (RunError.processing a.path)
      return {
        report, format := s.output.format, verbosity := verbosity a s
        files := b.tree, written := b.written.reverse
        consulted := report.documents.map DocumentReport.path ++
          (b.worker.requests.map fun r => Locator.join r.location r.base) ++
          s.output.directory.toList ++ b.written }

/-- Run with the words of a command line. -/
def run (around : Surroundings) (words : List String) : Except RunError Finished := do
  runWith around (← (Arguments.parse words).mapError RunError.usage)

end Program

end XmlSchema
