import XmlSchema.Locator.Path
import XmlSchema.Locator.Url

/-!
# Joining locations

A location found in a document is joined to the locator of that document.  A
location with a scheme and an absolute path stand for themselves; any other
one is resolved as a URL when the document has a URL, and as a path when not.
-/

namespace XmlSchema

namespace Locator

/-- The characters that may follow the first one of a scheme. -/
def isSchemeChar (c : Char) : Bool := c.isAlphanum || c = '+' || c = '.' || c = '-'

/-- Whether a location begins with a scheme of at least two characters. -/
def hasScheme (location : String) : Bool :=
  match location.toList with
  | c :: rest =>
      c.isAlpha && !(rest.takeWhile isSchemeChar).isEmpty &&
        (rest.dropWhile isSchemeChar).head? == some ':'
  | [] => false

/-- Join a location to the locator of the document that names it. -/
def join (location : String) (base : Option String) : String :=
  let location := Text.trim location
  if hasScheme location || Path.isAbsolute location then location
  else
    match base.filter (fun b => !b.isEmpty) with
    | none => (Path.ofString location).normalise.text
    | some b =>
        if hasScheme b then
          match (Url.parse? b).bind (·.join? location) with
          | some u => u.text
          | none => location
        else ((Path.directoryOf b).append location).normalise.text

end Locator

end XmlSchema
