import XmlSchema.CommandLine.Arguments
import XmlSchema.Text.Natural

/-!
# Parsing a command line

Words are taken one after the other.  A word with two hyphens in front is a
long option, one with a single hyphen a cluster of short ones, and the value of
an option stands behind an equals sign or in the next word.  A value is stored
only when the next option or path comes up, so an unknown word is reported
before a bad value in front of it.
-/

namespace XmlSchema

/-- The options without a value. -/
inductive Flag where
  | verbose
  | quiet
  | debug
  | noCache
  | allowRemote
  | recursive
  | failFast
  | help
  | version
  deriving DecidableEq, Repr

/-- The options with a value, and the path. -/
inductive Parameter where
  | path
  | config
  | extensions
  | threads
  | format
  | baseUri
  | knownNamespace
  | cacheCapacity
  | timeout
  | outputDirectory
  | indent
  | includes
  | excludes
  | maxDepth
  deriving DecidableEq, Repr

/-- Why a command line does not ask for a run. -/
inductive UsageError where
  | missingPath
  | conflict
  | unknownArgument
  | invalidValue
  | invalidNumber
  | needlessValue
  | help
  | version
  deriving DecidableEq, Repr

/-- An option of either kind. -/
inductive CommandOption where
  | flag (f : Flag)
  | parameter (p : Parameter)
  deriving DecidableEq, Repr

namespace CommandOption

/-- An option with its names and what it is for. -/
structure Entry where
  long : String
  short : Option Char := none
  option : CommandOption
  purpose : String

/-- All options. -/
def all : List Entry :=
  [⟨"config", some 'c', parameter .config, "File with settings (TOML or JSON)"⟩,
   ⟨"extensions", some 'e', parameter .extensions, "Extensions of schema documents, with commas"⟩,
   ⟨"threads", some 't', parameter .threads, "Number of worker threads"⟩,
   ⟨"verbose", some 'v', flag .verbose, "Tell more"⟩,
   ⟨"quiet", some 'q', flag .quiet, "Tell of failures only"⟩,
   ⟨"debug", none, flag .debug, "Tell everything"⟩,
   ⟨"format", some 'f', parameter .format, "Format of the report: human, json or summary"⟩,
   ⟨"base-uri", none, parameter .baseUri, "Base of the locations of known namespaces"⟩,
   ⟨"known-namespace", none, parameter .knownNamespace, "NAMESPACE=LOCATION, any number of times"⟩,
   ⟨"no-cache", none, flag .noCache, "Do not cache resolved documents"⟩,
   ⟨"cache-capacity", none, parameter .cacheCapacity, "Greatest number of cached documents"⟩,
   ⟨"timeout", none, parameter .timeout, "Seconds to wait for a document on the web"⟩,
   ⟨"allow-remote", none, flag .allowRemote, "Fetch documents on the web"⟩,
   ⟨"output-dir", some 'o', parameter .outputDirectory, "Directory for written documents"⟩,
   ⟨"recursive", some 'r', flag .recursive, "Also write the documents referred to"⟩,
   ⟨"indent", none, parameter .indent, "Indentation of written documents"⟩,
   ⟨"include", none, parameter .includes, "Pattern of files to take in, any number of times"⟩,
   ⟨"exclude", none, parameter .excludes, "Pattern of files to leave out, any number of times"⟩,
   ⟨"max-depth", none, parameter .maxDepth, "Greatest depth of directories"⟩,
   ⟨"fail-fast", none, flag .failFast, "Stop at the first document that fails"⟩,
   ⟨"help", some 'h', flag .help, "Show this text"⟩,
   ⟨"version", some 'V', flag .version, "Show the version"⟩]

/-- The line on an option. -/
def Entry.line (e : Entry) : String :=
  let names := match e.short with
    | some c => "-" ++ String.singleton c ++ ", --" ++ e.long
    | none => "    --" ++ e.long
  "  " ++ names ++ String.ofList (List.replicate (24 - names.length) ' ') ++ e.purpose ++ "\n"

/-- The text that explains the options. -/
def help : String :=
  "Build an object model from XML Schema documents and optionally write it back\n\n" ++
    "Usage: xsd-model [OPTIONS] <PATH>\n\nOptions:\n" ++ String.join (all.map Entry.line)

/-- The option of a long name. -/
def ofLong? (name : String) : Option CommandOption :=
  (all.find? fun e => e.long = name).map Entry.option

/-- The option of a short name. -/
def ofShort? (c : Char) : Option CommandOption :=
  (all.find? fun e => e.short = some c).map Entry.option

end CommandOption

namespace Arguments

/-- Set a flag that is not yet set. -/
def raise (isSet : Bool) (set : Arguments) : Except UsageError Arguments :=
  if isSet then .error .conflict else .ok set

/-- Set a flag. -/
def setFlag (a : Arguments) : Flag → Except UsageError Arguments
  | .verbose => raise a.verbose { a with verbose := true }
  | .quiet => raise a.quiet { a with quiet := true }
  | .debug => raise a.debug { a with debug := true }
  | .noCache => raise a.noCache { a with noCache := true }
  | .allowRemote => raise a.allowRemote { a with allowRemote := true }
  | .recursive => raise a.recursive { a with recursive := true }
  | .failFast => raise a.failFast { a with failFast := true }
  | .help => .error .help
  | .version => .error .version

/-- Store a value that may be given once. -/
def once {α β : Type} (old : Option α) (value : Except UsageError β) (put : β → Arguments) :
    Except UsageError Arguments :=
  if old.isSome then .error .conflict else value.map put

/-- The number of a word. -/
def numberOf (word : String) : Except UsageError Nat :=
  match Text.natural? Text.maxWord64 word with
  | some n => .ok n
  | none => .error .invalidNumber

/-- The path of a word. -/
def pathOf (word : String) : Except UsageError String :=
  if word.isEmpty then .error .invalidValue else .ok word

/-- The format of a word. -/
def formatOf (word : String) : Except UsageError OutputFormat :=
  match OutputFormat.ofName? word with
  | some f => .ok f
  | none => .error .invalidValue

/-- Store the value of a parameter. -/
def store (a : Arguments) (p : Parameter) (word : String) : Except UsageError Arguments :=
  match p with
  | .path => (pathOf word).map fun v => { a with path := v }
  | .config => once a.config (pathOf word) fun v => { a with config := some v }
  | .extensions => once a.extensionList (.ok word) fun v => { a with extensionList := some v }
  | .threads => once a.threads (numberOf word) fun v => { a with threads := some v }
  | .format => once a.format (formatOf word) fun v => { a with format := some v }
  | .baseUri => once a.baseUri (.ok word) fun v => { a with baseUri := some v }
  | .knownNamespace => .ok { a with namespacePairs := a.namespacePairs ++ [word] }
  | .cacheCapacity =>
      once a.cacheCapacity (numberOf word) fun v => { a with cacheCapacity := some v }
  | .timeout => once a.timeout (numberOf word) fun v => { a with timeout := some v }
  | .outputDirectory =>
      once a.outputDirectory (pathOf word) fun v => { a with outputDirectory := some v }
  | .indent => once a.indent (numberOf word) fun v => { a with indent := some v }
  | .includes => .ok { a with includes := a.includes ++ [word] }
  | .excludes => .ok { a with excludes := a.excludes ++ [word] }
  | .maxDepth => once a.maxDepth (numberOf word) fun v => { a with maxDepth := some v }

/-- A command line that is read up to some word.  `pending` is the parameter
named last, with its value as soon as there is one. -/
structure Reading where
  given : Arguments := {}
  pending : Option (Parameter × Option String) := none
  hasPath : Bool := false
  onlyPaths : Bool := false

namespace Reading

/-- Store the pending value. -/
def settle (r : Reading) : Except UsageError Reading :=
  match r.pending with
  | none => .ok r
  | some (_, none) => .error .invalidValue
  | some (p, some word) =>
      (r.given.store p word).map fun given => { r with given, pending := none }

/-- Take a flag. -/
def takeFlag (r : Reading) (f : Flag) : Except UsageError Reading := do
  let r ← r.settle
  let given ← r.given.setFlag f
  return { r with given }

/-- Take a parameter, perhaps with its value at once. -/
def takeParameter (r : Reading) (p : Parameter) : Option String → Except UsageError Reading
  | some word => do
      let r ← r.settle
      let given ← r.given.store p word
      return { r with given }
  | none => do
      let r ← r.settle
      return { r with pending := some (p, none) }

/-- Take a long option: its name and the value behind the equals sign. -/
def takeLong (r : Reading) (word : List Char) : Except UsageError Reading :=
  let (name, value) := match Text.splitAtFirst '=' word with
    | some (name, value) => (String.ofList name, some (String.ofList value))
    | none => (String.ofList word, none)
  match CommandOption.ofLong? name, value with
  | none, _ => .error .unknownArgument
  | some (.flag f), none => r.takeFlag f
  | some (.flag _), some _ => .error .needlessValue
  | some (.parameter p), value => r.takeParameter p value

/-- The value that follows a short option in its own word. -/
def attached? : List Char → Option String
  | [] => none
  | '=' :: rest => some (String.ofList rest)
  | cs => some (String.ofList cs)

/-- Take a cluster of short options. -/
def takeCluster (r : Reading) : List Char → Except UsageError Reading
  | [] => .ok r
  | c :: rest =>
      match CommandOption.ofShort? c with
      | none => .error .unknownArgument
      | some (.flag f) =>
          match r.takeFlag f with
          | .error e => .error e
          | .ok r => takeCluster r rest
      | some (.parameter p) => r.takeParameter p (attached? rest)

/-- Take a word that is no option: the value that is waited for, or the path. -/
def takePlain (r : Reading) (word : String) : Except UsageError Reading :=
  match r.onlyPaths, r.pending with
  | false, some (p, none) => .ok { r with pending := some (p, some word) }
  | _, _ =>
      if r.hasPath then .error .unknownArgument
      else r.settle.map fun r => { r with pending := some (.path, some word), hasPath := true }

/-- Take a word. -/
def take (r : Reading) (word : String) : Except UsageError Reading :=
  if r.onlyPaths then r.takePlain word
  else
    match word.toList with
    | ['-', '-'] => .ok { r with onlyPaths := true }
    | '-' :: '-' :: rest => r.takeLong rest
    | '-' :: c :: rest => r.takeCluster (c :: rest)
    | _ => r.takePlain word

/-- The arguments of a command line that is read to its end. -/
def finish (r : Reading) : Except UsageError Arguments := do
  let r ← r.settle
  if r.given.quiet && (r.given.verbose || r.given.debug) then .error .conflict
  else if !r.hasPath then .error .missingPath
  else .ok r.given

end Reading

/-- The arguments that words ask for. -/
def parse (words : List String) : Except UsageError Arguments := do
  let r ← words.foldlM Reading.take {}
  r.finish

end Arguments

end XmlSchema
