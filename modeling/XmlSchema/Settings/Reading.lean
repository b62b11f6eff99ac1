import XmlSchema.Data.Value
import XmlSchema.Settings.Basic
import XmlSchema.Text.Natural

/-!
# Settings as structured values

A section of settings is read from a table, by keys, or from a list, by the
order of its entries.  What is missing keeps its default, and unknown keys do
not count.
-/

namespace XmlSchema

/-- The formats of files with settings. -/
inductive SettingsFormat where
  | toml
  | json
  deriving DecidableEq, Repr

namespace Settings

open Data

/-- How one entry of a section is read. -/
structure Entry (σ : Type) where
  key : String
  read : Value → σ → Option σ

/-- An entry that holds a value of its own. -/
def Entry.of {σ α : Type} (key : String) (read : Value → Option α) (put : α → σ → σ) : Entry σ :=
  ⟨key, fun v s => (read v).map fun a => put a s⟩

/-- Read an entry that may be null. -/
def orNull {α : Type} (read : Value → Option α) : Value → Option (Option α)
  | .null => some none
  | v => (read v).map some

/-- Read a number up to a greatest one. -/
def readUpTo (greatest : Nat) (v : Value) : Option Nat :=
  v.asNat?.bind fun n => if n ≤ greatest then some n else none

/-- Read a list of texts. -/
def readTexts : Value → Option (List String)
  | .list vs => vs.mapM Value.asString?
  | _ => none

/-- The key under which a date or time stands where a table is asked for. -/
def momentKey : String := "$__toml_private_datetime"

/-- Read a table of texts; a later entry counts. -/
def readPairs : Value → Option (List (String × String))
  | .moment text => some [(momentKey, text)]
  | .table es =>
      (es.mapM fun (e : String × Value) => e.2.asString?.map fun s => (e.1, s)).map
        (putNamespaces [])
  | _ => none

/-- Whether a value says nothing, in the way of a format. -/
def isUnit (f : SettingsFormat) : Value → Bool
  | .null => f = .json
  | .list [] => f = .toml
  | .table [] => f = .toml
  | _ => false

/-- Read a format by its name, or by a table with that name and nothing else. -/
def readFormat (f : SettingsFormat) : Value → Option OutputFormat
  | .string s => OutputFormat.ofName? s
  | .table [(key, v)] => if isUnit f v then OutputFormat.ofName? key else none
  | _ => none

/-- Read a section. -/
def readSection {σ : Type} (f : SettingsFormat) (fields : List (Entry σ)) (start : σ) :
    Value → Option σ
  | .table es =>
      if fields.any fun e => 1 < (es.filter fun p => p.1 = e.key).length then none
      else
        es.foldlM (fun s p =>
          match fields.find? fun e => e.key = p.1 with
          | some e => e.read p.2 s
          | none => some s) start
  | .list vs =>
      if f = .json && fields.length < vs.length then none
      else (fields.zip vs).foldlM (fun s p => p.1.read p.2 s) start
  | .moment _ => some start
  | _ => none

/-- Read an entry that is a section itself. -/
def Entry.nested {σ τ : Type} (f : SettingsFormat) (key : String) (fields : List (Entry τ))
    (start : τ) (put : τ → σ → σ) : Entry σ :=
  .of key (readSection f fields start) put

/-- The entries of a section on building. -/
def Building.fields : List (Entry Building) :=
  [.of "base_uri" (orNull Value.asString?) fun v s => { s with baseUri := v },
   .of "known_namespaces" readPairs fun v s => { s with knownNamespaces := v },
   .of "threads" (orNull (readUpTo Text.maxWord64)) fun v s => { s with threads := v },
   .of "fail_fast" Value.asBool? fun v s => { s with failFast := v }]

/-- The entries of a section on caching. -/
def Caching.fields : List (Entry Caching) :=
  [.of "enabled" Value.asBool? fun v s => { s with enabled := v },
   .of "max_entries" (readUpTo Text.maxWord64) fun v s => { s with capacity := v }]

/-- The entries of a section on the network. -/
def Network.fields : List (Entry Network) :=
  [.of "allow_remote" Value.asBool? fun v s => { s with allowRemote := v },
   .of "timeout_seconds" (readUpTo Text.maxWord64) fun v s => { s with timeoutSeconds := v },
   .of "retry_attempts" (readUpTo Text.maxWord32) fun v s => { s with retryAttempts := v },
   .of "retry_delay_ms" (readUpTo Text.maxWord64) fun v s => { s with retryDelayMs := v }]

/-- The entries of a section on output. -/
def Output.fields (f : SettingsFormat) : List (Entry Output) :=
  [.of "format" (readFormat f) fun v s => { s with format := v },
   .of "verbose" Value.asBool? fun v s => { s with verbose := v },
   .of "quiet" Value.asBool? fun v s => { s with quiet := v },
   .of "directory" (orNull Value.asString?) fun v s => { s with directory := v },
   .of "recursive" Value.asBool? fun v s => { s with recursive := v },
   .of "indent" (readUpTo Text.maxWord64) fun v s => { s with indent := v }]

/-- The entries of a section on the selection of files. -/
def Selection.fields : List (Entry Selection) :=
  [.of "extensions" readTexts fun v s => { s with extensions := v },
   .of "include_patterns" readTexts fun v s => { s with includes := v },
   .of "exclude_patterns" readTexts fun v s => { s with excludes := v },
   .of "max_depth" (orNull (readUpTo Text.maxWord64)) fun v s => { s with maxDepth := v }]

/-- The sections of settings. -/
def fields (f : SettingsFormat) : List (Entry Settings) :=
  [.nested f "builder" Building.fields {} fun v s => { s with building := v },
   .nested f "cache" Caching.fields {} fun v s => { s with caching := v },
   .nested f "network" Network.fields {} fun v s => { s with network := v },
   .nested f "output" (Output.fields f) {} fun v s => { s with output := v },
   .nested f "files" Selection.fields {} fun v s => { s with selection := v }]

/-- The settings that a value in a format holds. -/
def ofValue? (f : SettingsFormat) (v : Value) : Option Settings := readSection f (fields f) {} v

/-- The value that holds settings, every entry included. -/
def toValue (s : Settings) : Value :=
  .table
    [("builder", .table
      [("base_uri", .text? s.building.baseUri),
       ("known_namespaces", .table (s.building.knownNamespaces.map fun e => (e.1, .string e.2))),
       ("threads", .nat? s.building.threads),
       ("fail_fast", .bool s.building.failFast)]),
     ("cache", .table
      [("enabled", .bool s.caching.enabled),
       ("max_entries", .nat s.caching.capacity)]),
     ("network", .table
      [("allow_remote", .bool s.network.allowRemote),
       ("timeout_seconds", .nat s.network.timeoutSeconds),
       ("retry_attempts", .nat s.network.retryAttempts),
       ("retry_delay_ms", .nat s.network.retryDelayMs)]),
     ("output", .table
      [("format", .string s.output.format.name),
       ("verbose", .bool s.output.verbose),
       ("quiet", .bool s.output.quiet),
       ("directory", .text? s.output.directory),
       ("recursive", .bool s.output.recursive),
       ("indent", .nat s.output.indent)]),
     ("files", .table
      [("extensions", .texts s.selection.extensions),
       ("include_patterns", .texts s.selection.includes),
       ("exclude_patterns", .texts s.selection.excludes),
       ("max_depth", .nat? s.selection.maxDepth)])]

end Settings

end XmlSchema
