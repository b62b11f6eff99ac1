/-!
# Settings

Everything that a run can be told, by a file, by variables or on the command
line.  Each section has its defaults.
-/

namespace XmlSchema

/-- How the outcome of a run is shown. -/
inductive OutputFormat where
  | human
  | json
  | summary
  deriving DecidableEq, Repr, Inhabited

namespace OutputFormat

/-- The name of a format. -/
def name : OutputFormat → String
  | human => "human"
  | json => "json"
  | summary => "summary"

/-- The format of a name. -/
def ofName? : String → Option OutputFormat
  | "human" => some human
  | "json" => some json
  | "summary" => some summary
  | _ => none

theorem ofName?_name (f : OutputFormat) : ofName? f.name = some f := by
  cases f <;> rfl

end OutputFormat

namespace Settings

/-- How documents are built.  `knownNamespaces` gives the location of each
namespace in order of the namespaces; `threads` is left to the machine when it
is missing. -/
structure Building where
  baseUri : Option String := none
  knownNamespaces : List (String × String) := []
  threads : Option Nat := none
  failFast : Bool := false
  deriving DecidableEq, Repr, Inhabited

/-- The cache of resolved documents. -/
structure Caching where
  enabled : Bool := true
  capacity : Nat := 1000
  deriving DecidableEq, Repr, Inhabited

/-- Access to documents on the web. -/
structure Network where
  allowRemote : Bool := false
  timeoutSeconds : Nat := 30
  retryAttempts : Nat := 2
  retryDelayMs : Nat := 500
  deriving DecidableEq, Repr, Inhabited

/-- What is shown and what is written.  Nothing is written when there is no
`directory`. -/
structure Output where
  format : OutputFormat := .human
  verbose : Bool := false
  quiet : Bool := false
  directory : Option String := none
  recursive : Bool := false
  indent : Nat := 2
  deriving DecidableEq, Repr, Inhabited

/-- Which files are schema documents. -/
structure Selection where
  extensions : List String := ["xsd"]
  includes : List String := []
  excludes : List String := []
  maxDepth : Option Nat := none
  deriving DecidableEq, Repr, Inhabited

end Settings

/-- The settings of a run. -/
structure Settings where
  building : Settings.Building := {}
  caching : Settings.Caching := {}
  network : Settings.Network := {}
  output : Settings.Output := {}
  selection : Settings.Selection := {}
  deriving DecidableEq, Repr, Inhabited

namespace Settings

/-- The capacity of the cache, unless it is switched off. -/
def cacheCapacity? (s : Settings) : Option Nat :=
  if s.caching.enabled then some s.caching.capacity else none

/-- The name under which the program asks for documents on the web. -/
def userAgent : String := "xsd-model/0.1.0"

/-- Give a namespace its location, keeping the order of the namespaces. -/
def putNamespace (ns location : String) : List (String × String) → List (String × String)
  | [] => [(ns, location)]
  | e :: rest =>
      if ns < e.1 then (ns, location) :: e :: rest
      else if ns = e.1 then (ns, location) :: rest
      else e :: putNamespace ns location rest

/-- Give namespaces their locations; a later location counts. -/
def putNamespaces (old new : List (String × String)) : List (String × String) :=
  new.foldl (fun all e => putNamespace e.1 e.2 all) old

end Settings

end XmlSchema
