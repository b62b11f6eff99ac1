import XmlSchema.Text.Blank

/-!
# Names of written files

A document is written under the last segment of its locator.  When another
document already has that name, a number goes in front of the extension.
-/

namespace XmlSchema.FileName

/-- Whether a character separates the segments of a locator. -/
def isSeparator (c : Char) : Bool := c = '/' || c = '\\'

/-- The name for a locator without any segment. -/
def fallback : String := "schema.xsd"

/-- The last segment of a locator that is not empty. -/
def base (locator : String) : String :=
  let segment := (locator.toList.reverse.dropWhile isSeparator).takeWhile (!isSeparator ·)
  if segment.isEmpty then fallback else String.ofList segment.reverse

/-- A name without its extension, and the extension with its dot.  A name that
only begins with a dot has no extension. -/
def split (name : String) : String × String :=
  let cs := name.toList.reverse
  let stem := (cs.dropWhile (· != '.')).drop 1
  if stem.isEmpty then (name, "")
  else (String.ofList stem.reverse, String.ofList ('.' :: (cs.takeWhile (· != '.')).reverse))

/-- The names for a locator, in the order in which they are tried. -/
def candidate (locator : String) : Nat → String
  | 0 => base locator
  | n + 1 =>
      let (stem, extension) := split (base locator)
      stem ++ "-" ++ toString (n + 1) ++ extension

/-- The first name for a locator that is not taken; among one more names than
are taken there is a free one. -/
def unique (taken : List String) (locator : String) : String :=
  (((List.range (taken.length + 1)).map (candidate locator)).find? (!taken.contains ·)).getD
    (base locator)

/-- The names for several locators, each free of the ones before it. -/
def assign : List String → List String → List String
  | _, [] => []
  | taken, locator :: rest =>
      let name := unique taken locator
      name :: assign (name :: taken) rest

end XmlSchema.FileName
