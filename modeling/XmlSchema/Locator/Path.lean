import XmlSchema.Text.Blank

/-!
# Paths

A path is a list of components, absolute or relative.  Empty components and
`.` never count.  Normalising a path lets `..` cancel the component before it;
at the root of an absolute path `..` disappears, and at the front of a relative
one it stays.
-/

namespace XmlSchema

/-- A path by its components. -/
structure Path where
  absolute : Bool
  parts : List String
  deriving DecidableEq, Repr, Inhabited

namespace Path

/-- The components of a text: what stands between slashes, `.` aside. -/
def components (s : String) : List String :=
  ((Text.splitOnChar '/' s.toList).map String.ofList).filter fun p => p != "" && p != "."

/-- Whether a text is an absolute path. -/
def isAbsolute (s : String) : Bool := s.toList.head? == some '/'

/-- Read a path. -/
def ofString (s : String) : Path := ⟨isAbsolute s, components s⟩

/-- Add one component to a normalised path, kept in reverse. -/
def step (absolute : Bool) (stack : List String) (part : String) : List String :=
  if part = ".." then
    match stack with
    | [] => if absolute then [] else [".."]
    | top :: rest => if top = ".." then ".." :: stack else rest
  else part :: stack

/-- Resolve the components `..` as far as that is possible. -/
def normalise (p : Path) : Path :=
  { p with parts := (p.parts.foldl (step p.absolute) []).reverse }

/-- The text of a path. -/
def text (p : Path) : String :=
  (if p.absolute then "/" else "") ++ "/".intercalate p.parts

/-- The directory that a locator stands in.  A locator that ends in a
separator stands for a directory itself.  Nothing stands above a path without
components, not even the root. -/
def directoryOf (locator : String) : Path :=
  let p := ofString locator
  match locator.toList.getLast? with
  | some '/' => p
  | some '\\' => p
  | _ => if p.parts.isEmpty then ⟨false, []⟩ else { p with parts := p.parts.dropLast }

/-- The path of a relative location below a directory. -/
def append (directory : Path) (location : String) : Path :=
  { directory with parts := directory.parts ++ components location }

/-- The last component of a path. -/
def fileName? (p : Path) : Option String := p.parts.getLast?

/-- The extension of a name: what follows its last dot, unless that dot comes
first. -/
def extensionOf? (name : String) : Option String :=
  let cs := name.toList.reverse
  let stem := (cs.dropWhile (· != '.')).drop 1
  if name = ".." || stem.isEmpty then none
  else some (String.ofList (cs.takeWhile (· != '.')).reverse)

/-- The extension of the last component. -/
def extension? (p : Path) : Option String := p.fileName?.bind extensionOf?

end Path

end XmlSchema
