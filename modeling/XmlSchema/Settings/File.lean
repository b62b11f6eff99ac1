import XmlSchema.Data.Json
import XmlSchema.Data.Toml.Document
import XmlSchema.Files.Tree
import XmlSchema.Settings.Error
import XmlSchema.Settings.Reading
import XmlSchema.Text.Case

/-!
# Files with settings

The extension of a file tells its format; a file without extension is tried in
each format.  Without a named file, settings are looked for under a few names
in the current directory and in that of the user.
-/

namespace XmlSchema.Settings

open Data

/-- The format that the extension of a path announces, if there is one. -/
def formatOf (path : String) : Except SettingsError (Option SettingsFormat) :=
  match (Path.ofString path).extension? with
  | none => .ok none
  | some e =>
      let small := String.ofList (e.toList.map Char.toLower)
      if small = "toml" then .ok (some .toml)
      else if small = "json" then .ok (some .json)
      else .error (.unsupportedFormat e)

/-- The settings that a text in a format holds. -/
def parse (f : SettingsFormat) (text : String) : Except SettingsError Settings :=
  match f with
  | .toml =>
      match (Toml.parse? text).bind (ofValue? .toml) with
      | some s => .ok s
      | none => .error .malformedToml
  | .json =>
      match (Json.parse? text).bind (ofValue? .json) with
      | some s => .ok s
      | none => .error .malformedJson

/-- The settings in a file. -/
def read (t : FileTree) (path : String) : Except SettingsError Settings := do
  let format ← formatOf path
  let text ← (t.read path).mapError .io
  match format with
  | some f => parse f text
  | none =>
      match parse .toml text with
      | .ok s => .ok s
      | .error _ => parse .json text

/-- The names under which settings are looked for. -/
def fileNames : List String :=
  ["xsd-model.toml", "xsd-model.json", ".xsd-model.toml", ".xsd-model.json"]

/-- The paths under which settings are looked for, given the directory that
holds the settings of the user. -/
def candidates (user : Option String) : List String :=
  fileNames ++
    (user.map fun d => fileNames.map fun n => FileTree.join (FileTree.join d "xsd-model") n).getD []

/-- The settings in the first file that is there. -/
def find (t : FileTree) (user : Option String) : Except SettingsError (Option Settings) :=
  match (candidates user).find? t.contains with
  | none => .ok none
  | some path => (read t path).map some

end XmlSchema.Settings
