import XmlSchema.Settings.Basic
import XmlSchema.Settings.Error
import XmlSchema.Text.Blank
import XmlSchema.Text.Case
import XmlSchema.Text.Natural

/-!
# Settings by variables

Some settings can be given by variables of the environment.  The variables are
looked at in a fixed order, and the first that cannot be read ends the matter.
-/

namespace XmlSchema

/-- The names of variables with their values. -/
abbrev Variables := List (String × String)

namespace Settings

/-- What the names of the variables begin with. -/
def variableStem : String := "XSD_MODEL_"

/-- A variable that replaces a setting. -/
structure Override where
  suffix : String
  apply : String → Settings → Except VariableFault Settings

/-- Use what a value spells, or refuse the value. -/
def spelled {α : Type} (read : String → Option α) (put : α → Settings → Settings)
    (value : String) (s : Settings) : Except VariableFault Settings :=
  match read (Text.trim value) with
  | some a => .ok (put a s)
  | none => .error (.unreadable value)

/-- The truth value that a word spells. -/
def bool? : String → Option Bool
  | "true" => some true
  | "false" => some false
  | _ => none

/-- The variables in the order in which they are looked at. -/
def overrides : List Override :=
  [⟨"BASE_URI", fun v s => .ok { s with building.baseUri := some v }⟩,
   ⟨"THREADS", spelled (Text.natural? Text.maxWord64)
      fun n s => { s with building.threads := some n }⟩,
   ⟨"FAIL_FAST", spelled bool? fun b s => { s with building.failFast := b }⟩,
   ⟨"CACHE", spelled bool? fun b s => { s with caching.enabled := b }⟩,
   ⟨"CACHE_CAPACITY", spelled (Text.natural? Text.maxWord64)
      fun n s => { s with caching.capacity := n }⟩,
   ⟨"ALLOW_REMOTE", spelled bool? fun b s => { s with network.allowRemote := b }⟩,
   ⟨"TIMEOUT", spelled (Text.natural? Text.maxWord64)
      fun n s => { s with network.timeoutSeconds := n }⟩,
   ⟨"RETRY_ATTEMPTS", spelled (Text.natural? Text.maxWord32)
      fun n s => { s with network.retryAttempts := n }⟩,
   ⟨"VERBOSE", spelled bool? fun b s => { s with output.verbose := b }⟩,
   ⟨"QUIET", spelled bool? fun b s => { s with output.quiet := b }⟩,
   ⟨"FORMAT", fun v s =>
      match OutputFormat.ofName? (Text.lower (Text.trim v)) with
      | some f => .ok { s with output.format := f }
      | none => .error (.unknownFormat v)⟩,
   ⟨"OUTPUT_DIR", fun v s => .ok { s with output.directory := some v }⟩,
   ⟨"EXTENSIONS", fun v s => .ok { s with selection.extensions := Text.commaItems v }⟩]

/-- Let the variables replace settings. -/
def withVariables (vars : Variables) (s : Settings) : Except SettingsError Settings :=
  overrides.foldlM (fun s o =>
    match vars.lookup (variableStem ++ o.suffix) with
    | none => .ok s
    | some value => (o.apply value s).mapError (.variable (variableStem ++ o.suffix))) s

end Settings

end XmlSchema
