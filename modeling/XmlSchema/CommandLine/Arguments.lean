import XmlSchema.Files.Tree
import XmlSchema.Settings.Error
import XmlSchema.Settings.Verbosity

/-!
# Arguments

What a command line asks for.  An option that is not given has no value, and
then leaves the settings as they are.
-/

namespace XmlSchema

/-- The arguments of a command line. -/
structure Arguments where
  path : String := ""
  config : Option String := none
  extensionList : Option String := none
  threads : Option Nat := none
  verbose : Bool := false
  quiet : Bool := false
  debug : Bool := false
  format : Option OutputFormat := none
  baseUri : Option String := none
  namespacePairs : List String := []
  noCache : Bool := false
  cacheCapacity : Option Nat := none
  timeout : Option Nat := none
  allowRemote : Bool := false
  outputDirectory : Option String := none
  recursive : Bool := false
  indent : Option Nat := none
  includes : List String := []
  excludes : List String := []
  maxDepth : Option Nat := none
  failFast : Bool := false
  deriving DecidableEq, Repr, Inhabited

/-- Why arguments make no sense although they are well formed. -/
inductive ArgumentFault where
  | noSuchPath (path : String)
  | noThreads
  | malformedPair (pair : String)
  deriving DecidableEq, Repr

/-- The text of a fault of arguments. -/
def ArgumentFault.text : ArgumentFault → String
  | noSuchPath path => "Path does not exist: " ++ path
  | noThreads => "Number of threads must be greater than 0"
  | malformedPair pair => (SettingsProblem.malformedPair pair).text

namespace Arguments

/-- The file extensions that are asked for. -/
def extensions? (a : Arguments) : Option (List String) := a.extensionList.map Text.commaItems

/-- A namespace and its location, with an equals sign between them. -/
def pair? (s : String) : Option (String × String) :=
  match Text.splitAtFirst '=' s.toList with
  | none => none
  | some (ns, location) =>
      let location := Text.trimChars location
      if location.isEmpty then none
      else some (String.ofList (Text.trimChars ns), String.ofList location)

/-- The namespaces that are given a location, or the first pair that is none. -/
def knownNamespaces (a : Arguments) : Except String (List (String × String)) :=
  a.namespacePairs.mapM fun s =>
    match pair? s with
    | some p => .ok p
    | none => .error s

/-- The first fault of arguments, given the files that are there. -/
def fault? (a : Arguments) (t : FileTree) : Option ArgumentFault :=
  if !t.contains a.path then some (.noSuchPath a.path)
  else if a.threads = some 0 then some .noThreads
  else
    match a.knownNamespaces with
    | .ok _ => none
    | .error pair => some (.malformedPair pair)

/-- How much is to be told. -/
def verbosity (a : Arguments) : Verbosity :=
  if a.quiet then .quiet
  else if a.debug then .debug
  else if a.verbose then .verbose
  else .normal

/-- Let arguments replace settings.  Known namespaces are added to the settings,
and a flag that is not given changes nothing. -/
def override (a : Arguments) (s : Settings) : Except SettingsError Settings :=
  match a.knownNamespaces with
  | .error pair => .error (.invalid [.malformedPair pair])
  | .ok pairs =>
      let loud := a.verbose || a.debug
      .ok
        { building :=
            { baseUri := a.baseUri <|> s.building.baseUri
              knownNamespaces := Settings.putNamespaces s.building.knownNamespaces pairs
              threads := a.threads <|> s.building.threads
              failFast := s.building.failFast || a.failFast }
          caching :=
            { enabled := s.caching.enabled && !a.noCache
              capacity := a.cacheCapacity.getD s.caching.capacity }
          network :=
            { s.network with
              allowRemote := s.network.allowRemote || a.allowRemote
              timeoutSeconds := a.timeout.getD s.network.timeoutSeconds }
          output :=
            { format := a.format.getD s.output.format
              verbose := !a.quiet && (loud || s.output.verbose)
              quiet := a.quiet || (!loud && s.output.quiet)
              directory := a.outputDirectory <|> s.output.directory
              recursive := s.output.recursive || a.recursive
              indent := a.indent.getD s.output.indent }
          selection :=
            { extensions := a.extensions?.getD s.selection.extensions
              includes := if a.includes.isEmpty then s.selection.includes else a.includes
              excludes := if a.excludes.isEmpty then s.selection.excludes else a.excludes
              maxDepth := a.maxDepth <|> s.selection.maxDepth } }

end Arguments

end XmlSchema
